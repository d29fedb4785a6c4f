import FloatingAddress.Json.Reader
import FloatingAddress.Text.Decimal
import FloatingAddress.Yaml.Scalar

/-!
# What a YAML scalar means

A plain scalar is a null, a truth value, a number or a text, depending on its spelling; a scalar
in any other style is a text. A tag of the core schema asks for one of the kinds, and a scalar that
cannot be read as that kind is refused. So is a whole number that fits into 128 bits but not into
64.
-/

namespace FloatingAddress.Yaml

/-- The value of a scalar. -/
inductive Meaning
  | null
  | bool (b : Bool)
  | int (n : Int)
  /-- The bits of a floating-point number. -/
  | real (bits : UInt64)
  | text (s : String)
deriving DecidableEq, Repr

namespace Meaning

def spellsNull (s : String) : Bool := s ∈ ["null", "Null", "NULL", "~"]

def bool? (s : String) : Option Bool :=
  if s ∈ ["true", "True", "TRUE"] then some true
  else if s ∈ ["false", "False", "FALSE"] then some false
  else none

/-- The text without the characters at its front. -/
def without? (front s : String) : Option (List Char) :=
  if front.toList.isPrefixOf s.toList then some (s.toList.drop front.length) else none

/-- The number that digits of a base write. -/
def digitsOf? (base : Nat) (cs : List Char) : Option Nat :=
  if cs.isEmpty then none
  else cs.foldlM (fun n c =>
    ((Json.Reader.hexValue? c).filter (· < base)).map (n * base + ·)) 0

/-- The bases other than ten, with the mark that stands before their digits. -/
def bases : List (String × Nat) := [("0x", 16), ("0o", 8), ("0b", 2)]

/-- Whether a scalar consists of digits that are no number, since the first of several is a
zero. -/
def isZeroPadded (s : String) : Bool :=
  let digits := match s.toList with
    | '+' :: rest | '-' :: rest => rest
    | cs => cs
  1 < digits.length && digits.head? = some '0' && digits.all Text.isDigit

/-- The whole number that a scalar without a minus sign spells. -/
def unsigned? (s : String) : Option Nat :=
  let body := (without? "+" s).elim s String.ofList
  let based := bases.findSome? fun (mark, base) => (without? mark body).bind (digitsOf? base)
  based <|> if isZeroPadded s then none else digitsOf? 10 body.toList

/-- The number behind the minus sign of a whole number. -/
def negated? (s : String) : Option Nat :=
  (without? "-" s).bind fun cs =>
    let body := String.ofList cs
    let based := bases.findSome? fun (mark, base) => (without? mark body).bind (digitsOf? base)
    based <|> if isZeroPadded s then none else digitsOf? 10 cs

/-- The whole number that a scalar spells, if it fits into 128 bits. -/
def wide? (s : String) : Option Int :=
  match (unsigned? s).filter (· < 1 <<< 128) with
  | some n => some n
  | none => ((negated? s).filter (· ≤ 1 <<< 127)).map fun n => -(n : Int)

/-- Digits, and what follows them. -/
def digitRun (cs : List Char) : List Char × List Char := cs.span Text.isDigit

/-- The exponent of a decimal number; nothing may follow it. -/
def exponent? : List Char → Option Int
  | [] => some 0
  | mark :: rest =>
    if mark = 'e' || mark = 'E' then
      let (negative, ds) := match rest with
        | '-' :: ds => (true, ds)
        | '+' :: ds => (false, ds)
        | ds => (false, ds)
      (Text.natOfDigits? ds).map fun n => if negative then -(n : Int) else n
    else none

/-- The float that a decimal number spells: digits, perhaps a point, perhaps an exponent. -/
def decimal? (s : List Char) : Option Float := do
  let (negative, cs) := match s with
    | '-' :: cs => (true, cs)
    | '+' :: cs => (false, cs)
    | cs => (false, cs)
  let (whole, rest) := digitRun cs
  let (frac, rest) := match rest with
    | '.' :: rest => digitRun rest
    | rest => ([], rest)
  if whole.isEmpty && frac.isEmpty then none
  let exp ← exponent? rest
  let digits := Text.digitsValue (whole ++ frac)
  let shift := exp - frac.length
  let size : Int := (whole ++ frac).length
  let value : Float :=
    if digits = 0 || shift + size < -400 then 0
    else if 400 < shift then 1.0 / 0.0
    else Float.ofScientific digits (shift < 0) shift.natAbs
  if value.isInf then none
  some (if negative then -value else value)

/-- A float as a value; the two zeros are one value, and so are all that are not a number. -/
def ofFloat (x : Float) : Meaning :=
  if x.isNaN then .real (0.0 / 0.0 : Float).toBits
  else if x == 0 then .real 0
  else .real x.toBits

/-- The floating-point number that a scalar spells. -/
def real? (s : String) : Option Meaning := do
  let body ← match without? "+" s with
    | none => some s.toList
    | some ('+' :: _) | some ('-' :: _) => none
    | some cs => some cs
  if String.ofList body ∈ [".inf", ".Inf", ".INF"] then some (ofFloat (1.0 / 0.0))
  else if s ∈ ["-.inf", "-.Inf", "-.INF"] then some (ofFloat (-1.0 / 0.0))
  else if s ∈ [".nan", ".NaN", ".NAN"] then some (ofFloat (0.0 / 0.0))
  else (decimal? body).map ofFloat

/-- The whole number of a scalar, if it fits into 64 bits; too large a number is refused. -/
def int? (n : Int) : Option Meaning :=
  if Json.Reader.fitsWord n then some (.int n) else none

/-- The value of a plain scalar without a tag. -/
def ofPlain? (s : String) : Option Meaning :=
  if s.isEmpty || spellsNull s then some .null
  else match bool? s with
    | some b => some (.bool b)
    | none => match wide? s with
      | some n => int? n
      | none =>
        if isZeroPadded s then some (.text s) else some ((real? s).getD (.text s))

/-- The name of a kind in the core schema. -/
def coreTag (kind : String) : String := "tag:yaml.org,2002:" ++ kind

def ofScalar? (tag : Option String) (style : Style) (s : String) : Option Meaning :=
  match tag with
  | none => if style = .plain then ofPlain? s else some (.text s)
  | some tag =>
    if tag = coreTag "bool" then (bool? s).map .bool
    else if tag = coreTag "int" then (wide? s).bind int?
    else if tag = coreTag "float" then real? s
    else if tag = coreTag "null" then (if spellsNull s then some .null else none)
    else some (.text s)

end Meaning

end FloatingAddress.Yaml
