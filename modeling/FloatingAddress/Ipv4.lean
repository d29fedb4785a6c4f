import FloatingAddress.Text.Decimal
import FloatingAddress.Text.Split
import Std.Data.ExtTreeMap

/-!
# IPv4 addresses

An address is a word of 32 bits, and addresses are ordered as these words are. Its text is the
dotted quad: four decimal octets, the most significant one first.

Addresses in objects must be written in exactly one way, without superfluous zeros. Networks are
typed by people and tolerate leading zeros in an octet, so reading takes the tolerance as a
parameter.
-/

namespace FloatingAddress

structure Ipv4 where
  /-- The four octets as one word, the first octet in the highest bits. -/
  word : UInt32
deriving DecidableEq, Repr, Inhabited

namespace Ipv4

instance : LE Ipv4 := ⟨fun a b => a.word ≤ b.word⟩

instance : LT Ipv4 := ⟨fun a b => a.word < b.word⟩

instance (a b : Ipv4) : Decidable (a ≤ b) := inferInstanceAs (Decidable (a.word ≤ b.word))

instance (a b : Ipv4) : Decidable (a < b) := inferInstanceAs (Decidable (a.word < b.word))

/-- Addresses are compared as words. -/
instance : Ord Ipv4 := ⟨compareOn word⟩

instance : Std.TransOrd Ipv4 := inferInstanceAs (Std.TransCmp (compareOn word))

instance : Std.LawfulEqOrd Ipv4 where
  compare_self {a} := show compare a.word a.word = .eq from Std.ReflCmp.compare_self
  eq_of_compare {a b} h := by
    replace h : compare a.word b.word = .eq := h
    cases a
    cases b
    exact congrArg Ipv4.mk (Std.LawfulEqCmp.eq_of_compare h)

def ofOctets (a b c d : UInt8) : Ipv4 :=
  ⟨UInt32.ofNat (((a.toNat * 256 + b.toNat) * 256 + c.toNat) * 256 + d.toNat)⟩

/-- The octets of an address, the most significant one first. -/
def octets (x : Ipv4) : List UInt8 :=
  let n := x.word.toNat
  [UInt8.ofNat (n >>> 24), UInt8.ofNat (n >>> 16), UInt8.ofNat (n >>> 8), UInt8.ofNat n]

/-- The dotted quad of an address. -/
def text (x : Ipv4) : String :=
  ".".intercalate (x.octets.map fun o => toString o.toNat)

instance : ToString Ipv4 := ⟨text⟩

/-- How an octet may be written. -/
inductive OctetStyle
  /-- Leading zeros are tolerated. -/
  | padded
  /-- Every octet has exactly one spelling. -/
  | canonical
deriving DecidableEq, Repr

/-- Read an octet: one to three digits with a value below 256. -/
def octet? (style : OctetStyle) (cs : List Char) : Option UInt8 :=
  if 3 < cs.length then none
  else if style = .canonical ∧ 1 < cs.length ∧ cs.head? = some '0' then none
  else (Text.natOfDigits? cs).bind fun n => if n < 256 then some (UInt8.ofNat n) else none

/-- Read a dotted quad. -/
def ofChars? (style : OctetStyle) (cs : List Char) : Option Ipv4 :=
  match (Text.pieces '.' cs).map (octet? style) with
  | [some a, some b, some c, some d] => some (ofOctets a b c d)
  | _ => none

/-- Read an address in its only spelling, with nothing before or after it. -/
def ofText? (s : String) : Option Ipv4 := ofChars? .canonical s.toList

end Ipv4

end FloatingAddress
