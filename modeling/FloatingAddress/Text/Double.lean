/-!
# Whole numbers as binary floating-point texts

Samples of a metric are binary floating-point numbers with 53 significant bits. A whole number is
first rounded to the nearest of them (a tie goes to the even neighbour) and then written with the
fewest significant decimal digits that read back as the same float; the places that remain are
filled with zeros, and no exponent is ever used.
-/

namespace FloatingAddress.Text.Double

/-- The number of significant bits of a float. -/
def precision : Nat := 53

/-- A positive float is `significand * 2 ^ exponent`. -/
structure Binary where
  significand : Nat
  exponent : Nat

/-- The float nearest to a natural number; a tie goes to the even significand. -/
def nearest (n : Nat) : Binary :=
  let bits := n.log2 + 1
  if bits ≤ precision then ⟨n, 0⟩
  else
    let exponent := bits - precision
    let unit := 1 <<< exponent
    let low := n / unit
    let rest := n % unit
    if 2 * rest < unit || (2 * rest = unit && low % 2 = 0) then ⟨low, exponent⟩
    else ⟨low + 1, exponent⟩

def Binary.value (b : Binary) : Nat := b.significand <<< b.exponent

/-- Whether a number is read back as the float `b`: it lies no further from `b` than half the
distance to the neighbour on its side, and the ends count exactly if the significand is even.
Below a power of two the floats stand twice as close. -/
def Binary.covers (b : Binary) (n : Nat) : Bool :=
  let value := 4 * b.value
  let unit := 1 <<< b.exponent
  let below := if b.significand = 1 <<< (precision - 1) && 0 < b.exponent then unit else 2 * unit
  let above := 2 * unit
  if b.significand % 2 = 0 then value ≤ 4 * n + below && 4 * n ≤ value + above
  else value < 4 * n + below && 4 * n < value + above

/-- The neighbours of `value` among the multiples of `grain` that read back as `b`, the nearer
one first. -/
def onGrid? (b : Binary) (grain : Nat) : Option Nat :=
  let value := b.value
  let low := value / grain * grain
  let high := low + grain
  let byDistance := if value - low ≤ high - value then [low, high] else [high, low]
  byDistance.find? b.covers

/-- The first of the grids `10 ^ k`, `10 ^ (k - 1)`, ..., `1` that has a number which reads back
as `b`. -/
def shortestFrom (b : Binary) : Nat → Nat
  | 0 => b.value
  | k + 1 => (onGrid? b (10 ^ (k + 1))).getD (shortestFrom b k)

/-- The shortest decimal text of the float nearest to a natural number. -/
def ofNat (n : Nat) : String :=
  let b := nearest n
  if b.exponent = 0 then toString n else toString (shortestFrom b (toString b.value).length)

/-- The shortest decimal text of the float nearest to an integer. -/
def ofInt (i : Int) : String :=
  if i < 0 then "-" ++ ofNat i.natAbs else ofNat i.natAbs

end FloatingAddress.Text.Double
