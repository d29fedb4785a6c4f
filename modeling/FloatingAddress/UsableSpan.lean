import FloatingAddress.Cidr
import FloatingAddress.Text.Blank

/-!
# The usable addresses of a network

The first and the last member of a network, its network and its broadcast address, are never
handed out. What lies between them is the usable span. Networks of 31 and 32 leading bits have
nothing between the two, so their span is empty.
-/

namespace FloatingAddress

/-- A network with its host bits cleared and the bounds of its usable addresses. -/
structure UsableSpan where
  cidr : Cidr
  /-- First and last usable address, unless there is none. -/
  bounds : Option (Ipv4 × Ipv4)
deriving DecidableEq, Repr

namespace UsableSpan

def ofCidr (net : Cidr) : UsableSpan where
  cidr := net.truncate
  bounds :=
    if 31 ≤ net.length then none
    else some (⟨net.network.word + 1⟩, ⟨net.broadcast.word - 1⟩)

/-- Read a network, blanks around it aside, and form its usable span. -/
def ofText? (s : String) : Option UsableSpan :=
  (Cidr.ofChars? (Text.trimBlanks s.toList)).map ofCidr

def first (span : UsableSpan) : Option Ipv4 := span.bounds.map (·.1)

def last (span : UsableSpan) : Option Ipv4 := span.bounds.map (·.2)

def capacity (span : UsableSpan) : UInt32 :=
  match span.bounds with
  | none => 0
  | some (first, last) => last.word - first.word + 1

def contains (span : UsableSpan) (address : Ipv4) : Bool :=
  match span.bounds with
  | none => false
  | some (first, last) => first ≤ address && address ≤ last

/-- The network, followed by its bounds. -/
def text (span : UsableSpan) : String :=
  match span.bounds with
  | none => s!"{span.cidr} (no usable addresses)"
  | some (first, last) => s!"{span.cidr} ({first} - {last})"

instance : ToString UsableSpan := ⟨text⟩

end UsableSpan

end FloatingAddress
