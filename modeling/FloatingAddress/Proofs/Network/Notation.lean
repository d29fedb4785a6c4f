import FloatingAddress.Proofs.Network.Usable
import FloatingAddress.Proofs.Text.Numeral
import Mathlib.Data.List.Forall2

/-!
# How a network is written

A network can be written in many ways. Its host bits may be anything, there may be zeros in front
of every number, and blanks around the whole. All texts that name one network have the same usable
span, and the network of a span is printed in one way only, which is read as this span again.
-/

namespace FloatingAddress

namespace Ipv4

variable {x : Ipv4} {cs digits : List Char} {octet : UInt8}

/-- The digits write an octet, at most three of them. -/
def IsOctet (digits : List Char) (octet : UInt8) : Prop :=
  digits.length ≤ 3 ∧ Text.IsNumeral digits octet.toNat

theorem octets_ofOctets (a b c d : UInt8) : (ofOctets a b c d).octets = [a, b, c, d] := by
  have ha := a.toNat_lt
  have hb := b.toNat_lt
  have hc := c.toNat_lt
  have hd := d.toNat_lt
  have word : (ofOctets a b c d).word.toNat =
      ((a.toNat * 256 + b.toNat) * 256 + c.toNat) * 256 + d.toNat :=
    UInt32.toNat_ofNat_of_lt' (by simp only [UInt32.size]; omega)
  simp only [octets, word, Nat.shiftRight_eq_div_pow, List.cons.injEq, and_true, ← UInt8.toNat_inj,
    UInt8.toNat_ofNat']
  omega

/-- Octets with zeros in front are read like the others. -/
theorem octet?_padded_eq_some_iff : octet? .padded cs = some octet ↔ IsOctet cs octet := by
  rw [IsOctet, ← Text.natOfDigits?_eq_some_iff, octet?]
  by_cases long : 3 < cs.length
  · rw [if_pos long]
    exact iff_of_false (by simp) fun short => by omega
  rw [if_neg long, if_neg (by simp), Option.bind_eq_some_iff]
  constructor
  · rintro ⟨n, read, value⟩
    obtain ⟨small, same⟩ := Option.ite_none_right_eq_some.mp value
    obtain rfl := Option.some.inj same
    rw [UInt8.toNat_ofNat_of_lt' small]
    exact ⟨by omega, read⟩
  · rintro ⟨-, read⟩
    exact ⟨octet.toNat, read, by rw [if_pos octet.toNat_lt, UInt8.ofNat_toNat]⟩

theorem isDigit_of_octets {quad : List (List Char)} {octets : List UInt8}
    (written : List.Forall₂ IsOctet quad octets) :
    ∀ digits ∈ quad, ∀ c ∈ digits, Text.isDigit c :=
  ((List.forall₂_and_left _ _).mp
    (written.imp fun _ _ isOctet => ⟨fun _ member => isOctet.2.isDigit member, isOctet⟩)).1

/-- The cut parts are read one by one. -/
theorem ofChars?_padded_eq_some_iff_pieces :
    ofChars? .padded cs = some x ↔ List.Forall₂ IsOctet (Text.pieces '.' cs) x.octets := by
  have parts : List.Forall₂ IsOctet (Text.pieces '.' cs) x.octets ↔
      (Text.pieces '.' cs).map (octet? .padded) = x.octets.map some := by
    rw [← List.forall₂_eq_eq_eq, List.forall₂_map_left_iff, List.forall₂_map_right_iff]
    simp only [octet?_padded_eq_some_iff]
  rw [parts, ofChars?]
  constructor
  · intro read
    split at read
    next a b c d cut =>
      cases read
      rw [cut, octets_ofOctets]
      rfl
    · cases read
  · intro cut
    rw [cut]
    exact congrArg some (ofOctets_octets x)

/-- A dotted quad is read if its parts are octets. -/
theorem ofChars?_padded_eq_some_iff :
    ofChars? .padded cs = some x ↔
      ∃ quad, cs = ['.'].intercalate quad ∧ List.Forall₂ IsOctet quad x.octets := by
  rw [ofChars?_padded_eq_some_iff_pieces]
  constructor
  · intro octets
    exact ⟨_, (Text.intercalate_pieces '.' cs).symm, octets⟩
  · rintro ⟨quad, rfl, octets⟩
    have dotless : ∀ digits ∈ quad, '.' ∉ digits := by
      intro digits member dot
      exact (Text.isDigit_cases (isDigit_of_octets octets digits member '.' dot)).1 rfl
    cases quad with
    | nil => cases octets
    | cons part parts => rwa [Text.pieces_intercalate dotless]

end Ipv4

namespace Cidr

variable {net net' : Cidr} {cs : List Char} {text : String}

/-- The characters write a network: a dotted quad of octets, a slash, and a length of at most two
digits. -/
def Written (cs : List Char) (net : Cidr) : Prop :=
  ∃ quad length, cs = ['.'].intercalate quad ++ '/' :: length ∧
    List.Forall₂ Ipv4.IsOctet quad net.address.octets ∧
    length.length ≤ 2 ∧ Text.IsNumeral length net.length

/-- The text spells a network, with nothing but blanks around it. -/
def Spells (text : String) (net : Cidr) : Prop :=
  ∃ before core after, text.toList = before ++ core ++ after ∧
    (∀ c ∈ before ++ after, Text.isBlank c) ∧ Written core net

theorem length?_eq_some_iff {n : { n : Nat // n ≤ 32 }} :
    length? cs = some n ↔ cs.length ≤ 2 ∧ Text.IsNumeral cs n := by
  rw [← Text.natOfDigits?_eq_some_iff, length?]
  by_cases long : 2 < cs.length
  · rw [if_pos long]
    exact iff_of_false (by simp) fun short => by omega
  rw [if_neg long, Option.bind_eq_some_iff]
  constructor
  · rintro ⟨m, read, value⟩
    obtain ⟨small, same⟩ := Option.dite_none_right_eq_some.mp value
    obtain rfl := Option.some.inj same
    exact ⟨by omega, read⟩
  · rintro ⟨-, read⟩
    exact ⟨n, read, by rw [dif_pos n.property]⟩

/-- What is read as a network is what writes one. -/
theorem ofChars?_eq_some_iff : ofChars? cs = some net ↔ Written cs net := by
  rw [ofChars?]
  constructor
  · intro read
    split at read
    · cases read
    next quad length cut =>
      split at read
      next address n h quadRead lengthRead =>
        cases read
        obtain ⟨parts, rfl, octets⟩ := Ipv4.ofChars?_padded_eq_some_iff.mp quadRead
        obtain ⟨short, numeral⟩ := length?_eq_some_iff.mp lengthRead
        exact ⟨parts, length, (Text.cutAt?_eq_some_iff.mp cut).1, octets, short, numeral⟩
      · cases read
  · rintro ⟨quad, length, rfl, octets, short, numeral⟩
    -- The text is cut at its first slash, which must be the one in front of the length.
    have slashless : '/' ∉ ['.'].intercalate quad := by
      intro slash
      obtain isDot | ⟨digits, part, digit⟩ := Text.mem_intercalate slash
      · cases isDot
      · exact (Text.isDigit_cases (Ipv4.isDigit_of_octets octets digits part _ digit)).2.1 rfl
    have quadRead := Ipv4.ofChars?_padded_eq_some_iff.mpr ⟨quad, rfl, octets⟩
    have lengthRead : length? length = some ⟨net.length, net.length_le⟩ :=
      length?_eq_some_iff.mpr ⟨short, numeral⟩
    rw [Text.cutAt?_eq_some_iff.mpr ⟨rfl, slashless⟩]
    simp only [quadRead, lengthRead]

theorem Written.solid (written : Written cs net) : ∀ c ∈ cs, Text.isBlank c = false := by
  obtain ⟨quad, length, rfl, octets, -, numeral⟩ := written
  intro c member
  obtain inQuad | inRest := List.mem_append.mp member
  · obtain rfl | ⟨digits, part, digit⟩ := Text.mem_intercalate inQuad
    · decide
    · exact (Text.isDigit_cases (Ipv4.isDigit_of_octets octets digits part c digit)).2.2
  · obtain rfl | inLength := List.mem_cons.mp inRest
    · decide
    · exact (Text.isDigit_cases (numeral.isDigit inLength)).2.2

theorem toList_text (net : Cidr) : net.text.toList =
    ['.'].intercalate (net.address.octets.map fun octet => Nat.toDigits 10 octet.toNat) ++
      '/' :: Nat.toDigits 10 net.length := by
  rw [← Ipv4.toList_text, ← Nat.toList_repr]
  simp [text, toString]

/-- A network is printed in a form that writes it. -/
theorem written_text (net : Cidr) : Written net.text.toList net := by
  refine ⟨_, _, toList_text net, ?_, ?_, Text.isNumeral_toDigits _⟩
  · rw [List.forall₂_map_left_iff, List.forall₂_same]
    intro octet _
    refine ⟨?_, Text.isNumeral_toDigits _⟩
    have bound := octet.toNat_lt
    rw [Nat.length_toDigits_le_iff (by decide) (by decide)]
    omega
  · have bound := net.length_le
    rw [Nat.length_toDigits_le_iff (by decide) (by decide)]
    omega

theorem spells_text (net : Cidr) : Spells net.text net :=
  ⟨[], net.text.toList, [], by simp, by simp, written_text net⟩

/-- Networks have the same network address if they have the same leading bits. -/
theorem network_eq_iff (same : net.length = net'.length) :
    net.network = net'.network ↔ net.address.Agree net.length net'.address := by
  have positive : 0 < 2 ^ (32 - net'.length) := Nat.two_pow_pos _
  rw [Ipv4.eq_iff, network_toNat, network_toNat, Ipv4.agree_iff net.length_le, same]
  exact Nat.mul_right_inj (Nat.ne_of_gt positive)

theorem truncate_eq_iff : net.truncate = net'.truncate ↔
    net.length = net'.length ∧ net.address.Agree net.length net'.address := by
  constructor
  · intro same
    have length : net.length = net'.length := by simpa using congrArg Cidr.length same
    exact ⟨length, (network_eq_iff length).mp (congrArg Cidr.address same)⟩
  · rintro ⟨length, agree⟩
    have network := (network_eq_iff length).mpr agree
    simp only [truncate, network, length]

theorem truncate_truncate (net : Cidr) : net.truncate.truncate = net.truncate :=
  truncate_eq_iff.mpr ⟨rfl, net.agree_network⟩

end Cidr

namespace UsableSpan

variable {net net' : Cidr} {text : String} {span : UsableSpan}

/-- The bounds of a span follow from its network. -/
theorem ofCidr_eq_iff : ofCidr net = ofCidr net' ↔ net.truncate = net'.truncate := by
  constructor
  · intro same
    exact congrArg UsableSpan.cidr same
  · intro same
    have length : net.length = net'.length := by simpa using congrArg Cidr.length same
    have network : net.network = net'.network := congrArg Cidr.address same
    have broadcast : net.broadcast = net'.broadcast := by
      rw [Ipv4.eq_iff, Cidr.broadcast_toNat, Cidr.broadcast_toNat, Cidr.hostMask_toNat,
        Cidr.hostMask_toNat, network, length]
    simp only [ofCidr, same, length, network, broadcast]

/-- A text is read as the span of the network that it spells. -/
theorem ofText?_eq_some_iff :
    ofText? text = some span ↔ ∃ net, Cidr.Spells text net ∧ ofCidr net = span := by
  rw [ofText?, Option.map_eq_some_iff]
  refine exists_congr fun net => and_congr_left fun _ => ?_
  rw [Cidr.ofChars?_eq_some_iff]
  constructor
  · intro written
    obtain ⟨before, after, whole, blanks⟩ := Text.exists_blanks text.toList
    exact ⟨before, _, after, whole, blanks, written⟩
  · rintro ⟨before, core, after, whole, blanks, written⟩
    rwa [whole, Text.trimBlanks_append blanks written.solid]

/-- A text is read as a span if and only if it spells a network, and the span is that of this
network. The network of a span is printed in a form that is read as the span again. Two texts are
read as the same span if and only if the networks that they spell have one length and the same
leading bits, whatever the host bits, the blanks around the texts and the zeros in front of the
numbers. -/
theorem normal_form :
    (∀ text span, ofText? text = some span ↔
      ∃ net, Cidr.Spells text net ∧ ofCidr net = span) ∧
    (∀ text span, ofText? text = some span → ofText? span.cidr.text = some span) ∧
    ∀ text text' net net', Cidr.Spells text net → Cidr.Spells text' net' →
      (ofText? text = ofText? text' ↔
        net.length = net'.length ∧ net.address.Agree net.length net'.address) := by
  refine ⟨fun _ _ => ofText?_eq_some_iff, fun text span read => ?_,
    fun text text' net net' spells spells' => ?_⟩
  · obtain ⟨net, -, rfl⟩ := ofText?_eq_some_iff.mp read
    refine ofText?_eq_some_iff.mpr ⟨net.truncate, net.truncate.spells_text, ?_⟩
    rw [ofCidr_eq_iff, Cidr.truncate_truncate]
  · rw [ofText?_eq_some_iff.mpr ⟨net, spells, rfl⟩, ofText?_eq_some_iff.mpr ⟨net', spells', rfl⟩,
      Option.some.injEq, ofCidr_eq_iff, Cidr.truncate_eq_iff]

end UsableSpan

namespace Sample

/-- A network with host bits. -/
def sloppy : Cidr := ⟨.ofOctets 10 0 0 7, 8, by decide⟩

/-- There are blanks around this text, and zeros in front of its numbers. -/
theorem spells_sloppy : Cidr.Spells "\t010.0.00.7/08 " sloppy := by
  refine ⟨['\t'], "010.0.00.7/08".toList, [' '], by decide, List.all_eq_true.mp (by decide),
    ["010".toList, "0".toList, "00".toList, "7".toList], "08".toList, by decide, ?_, by decide,
    1, by decide⟩
  exact .cons ⟨by decide, 1, by decide⟩ (.cons ⟨by decide, 0, by decide⟩
    (.cons ⟨by decide, 1, by decide⟩ (.cons ⟨by decide, 0, by decide⟩ .nil)))

end Sample

namespace UsableSpan

/-- Two spellings of one network are read as one span, which is read from its printed form too; a
longer network is another one. -/
theorem normal_form_sloppy :
    ofText? "\t010.0.00.7/08 " = ofText? "10.0.0.0/8" ∧
      ofText? "\t010.0.00.7/08 " ≠ ofText? "10.0.0.0/9" ∧
      ofText? (ofCidr Sample.sloppy).cidr.text = some (ofCidr Sample.sloppy) := by
  obtain ⟨accepted, printed, same⟩ := normal_form
  have network := Cidr.spells_text ⟨.ofOctets 10 0 0 0, 8, by decide⟩
  have longer := Cidr.spells_text ⟨.ofOctets 10 0 0 0, 9, by decide⟩
  refine ⟨(same _ _ _ _ Sample.spells_sloppy network).mpr ⟨rfl, by decide⟩, fun equal => ?_,
    printed _ _ ((accepted _ _).mpr ⟨_, Sample.spells_sloppy, rfl⟩)⟩
  obtain ⟨length, -⟩ := (same _ _ _ _ Sample.spells_sloppy longer).mp equal
  cases length

end UsableSpan

end FloatingAddress
