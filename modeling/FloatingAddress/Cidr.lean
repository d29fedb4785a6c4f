import FloatingAddress.Ipv4

/-!
# Networks in CIDR notation

A network is an address together with the number of leading bits that its members share. The
remaining low bits, the host bits, tell the members apart. Two notations with the same length
and the same leading bits denote the same network, and `Cidr.truncate` picks the one whose host
bits are all zero.
-/

namespace FloatingAddress

/-- An address and the number of its leading bits that name a network. -/
structure Cidr where
  address : Ipv4
  length : Nat
  length_le : length ≤ 32
deriving DecidableEq, Repr

namespace Cidr

/-- The word whose host bits are one and whose network bits are zero. -/
def hostMask (net : Cidr) : UInt32 := UInt32.ofNat (1 <<< (32 - net.length) - 1)

/-- The member with all host bits zero. -/
def network (net : Cidr) : Ipv4 := ⟨net.address.word &&& ~~~net.hostMask⟩

/-- The member with all host bits one. -/
def broadcast (net : Cidr) : Ipv4 := ⟨net.address.word ||| net.hostMask⟩

/-- The same network with its host bits cleared. -/
def truncate (net : Cidr) : Cidr := { net with address := net.network }

@[simp] theorem truncate_length (net : Cidr) : net.truncate.length = net.length := rfl

@[simp] theorem truncate_address (net : Cidr) : net.truncate.address = net.network := rfl

/-- The written form: address, slash, length. -/
def text (net : Cidr) : String := s!"{net.address}/{net.length}"

instance : ToString Cidr := ⟨text⟩

/-- Read a length: one or two digits with a value of at most 32. -/
def length? (cs : List Char) : Option { n : Nat // n ≤ 32 } :=
  if 2 < cs.length then none
  else (Text.natOfDigits? cs).bind fun n => if h : n ≤ 32 then some ⟨n, h⟩ else none

/-- Read a network. Leading zeros are tolerated in the octets and in the length. -/
def ofChars? (cs : List Char) : Option Cidr :=
  match Text.cutAt? '/' cs with
  | none => none
  | some (quad, length) =>
    match Ipv4.ofChars? .padded quad, length? length with
    | some address, some ⟨n, h⟩ => some ⟨address, n, h⟩
    | _, _ => none

end Cidr

end FloatingAddress
