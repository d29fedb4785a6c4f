import FloatingAddress.Ipv4
import FloatingAddress.Text.Blank

/-!
# The text of an address

The text of an address has no blanks around it and is read as this address again. The four octets
are found between the dots because no digit is a dot, and they are put together again bit by bit.
-/

namespace FloatingAddress

namespace Text

variable {sep : Char} {cs : List Char}

theorem pieces_of_not_mem (absent : sep ∉ cs) : pieces sep cs = [cs] := by
  induction cs with
  | nil => rfl
  | cons c rest ih =>
    obtain ⟨other, absent⟩ := not_or.mp (mt List.mem_cons.mpr absent)
    rw [pieces, if_neg (Ne.symm other), ih absent]

/-- The first piece ends at the first separator. -/
theorem pieces_append_cons (absent : sep ∉ cs) (rest : List Char) :
    pieces sep (cs ++ sep :: rest) = cs :: pieces sep rest := by
  induction cs with
  | nil => rw [List.nil_append, pieces, if_pos rfl]
  | cons c cs ih =>
    obtain ⟨other, absent⟩ := not_or.mp (mt List.mem_cons.mpr absent)
    rw [List.cons_append, pieces, if_neg (Ne.symm other), ih absent]

/-- Cutting undoes joining, as long as no part has the separator. -/
theorem pieces_intercalate {part : List Char} {parts : List (List Char)}
    (absent : ∀ p ∈ part :: parts, sep ∉ p) :
    pieces sep ([sep].intercalate (part :: parts)) = part :: parts := by
  induction parts generalizing part with
  | nil =>
    rw [List.intercalate_singleton]
    exact pieces_of_not_mem (absent part (by simp))
  | cons next parts ih =>
    rw [List.intercalate_cons_cons, List.append_assoc, List.singleton_append,
      pieces_append_cons (absent part (by simp)),
      ih fun p member => absent p (List.mem_cons_of_mem part member)]

/-- What is joined are the parts, with separators between them. -/
theorem mem_intercalate {parts : List (List Char)} {c : Char}
    (member : c ∈ [sep].intercalate parts) : c = sep ∨ ∃ p ∈ parts, c ∈ p := by
  induction parts with
  | nil => simp at member
  | cons part rest ih =>
    cases rest with
    | nil => exact .inr ⟨part, .head _, by simpa using member⟩
    | cons next parts =>
      rw [List.intercalate_cons_cons, List.append_assoc, List.mem_append,
        List.singleton_append, List.mem_cons] at member
      obtain here | isSep | later := member
      · exact .inr ⟨part, .head _, here⟩
      · exact .inl isSep
      · obtain isSep | ⟨p, member, inside⟩ := ih later
        · exact .inl isSep
        · exact .inr ⟨p, .tail _ member, inside⟩

theorem dropWhile_isBlank (solid : ∀ c ∈ cs, isBlank c = false) :
    cs.dropWhile isBlank = cs := by
  cases cs with
  | nil => rfl
  | cons c rest => exact List.dropWhile_cons_of_neg (by simp [solid c (.head rest)])

/-- A text without blanks that is not empty is read as it is. -/
theorem nonBlank_of_forall {s : String} (present : s ≠ "")
    (solid : ∀ c ∈ s.toList, isBlank c = false) : nonBlank s = some s := by
  have reversed : ∀ c ∈ s.toList.reverse, isBlank c = false := fun c member =>
    solid c (List.mem_reverse.mp member)
  have same : trim s = s := by
    rw [trim, trimBlanks, dropWhile_isBlank solid, dropWhile_isBlank reversed,
      List.reverse_reverse, String.ofList_toList]
  rw [nonBlank, same, if_neg (by simpa using present)]

theorem isDigit_of_mem_toDigits {n : Nat} {c : Char} (digit : c ∈ Nat.toDigits 10 n) :
    isDigit c := by
  have inside := Nat.isDigit_of_mem_toDigits (by decide) (by decide) digit
  rw [isDigit]
  simp only [Char.isDigit, Bool.and_eq_true, decide_eq_true_eq] at inside ⊢
  exact inside

/-- A digit is neither a dot nor a slash nor a blank. -/
theorem isDigit_cases {c : Char} (digit : isDigit c) :
    c ≠ '.' ∧ c ≠ '/' ∧ isBlank c = false := by
  simp only [isDigit, Bool.and_eq_true, decide_eq_true_eq] at digit
  have low : 48 ≤ c.toNat := digit.1
  have high : c.toNat ≤ 57 := digit.2
  refine ⟨?_, ?_, ?_⟩
  · rintro rfl
    exact absurd low (by decide)
  · rintro rfl
    exact absurd low (by decide)
  · simp [isBlank]
    omega

end Text

namespace Ipv4

/-- Every octet is read back from its digits, whether or not leading zeros are tolerated. -/
theorem octet?_toDigits (style : OctetStyle) (o : UInt8) :
    octet? style (Nat.toDigits 10 o.toNat) = some o := by
  -- There are few enough octets to look at each of them.
  have each : ∀ style ∈ [OctetStyle.padded, .canonical], ∀ n : Fin 256,
      octet? style (Nat.toDigits 10 n) = some (UInt8.ofNat n) := by
    decide +kernel
  have member : style ∈ [OctetStyle.padded, .canonical] := by cases style <;> simp
  rw [each style member ⟨o.toNat, o.toNat_lt⟩, UInt8.ofNat_toNat]

theorem toList_text (x : Ipv4) :
    x.text.toList = ['.'].intercalate (x.octets.map fun o => Nat.toDigits 10 o.toNat) := by
  rw [text, String.toList_intercalate, List.map_map]
  congr 2
  funext o
  exact Nat.toList_repr

/-- The octets of a word put the word together again. -/
theorem ofOctets_octets (x : Ipv4) :
    ofOctets (UInt8.ofNat (x.word.toNat >>> 24)) (UInt8.ofNat (x.word.toNat >>> 16))
      (UInt8.ofNat (x.word.toNat >>> 8)) (UInt8.ofNat x.word.toNat) = x := by
  have bound := x.word.toNat_lt
  have word : (((x.word.toNat >>> 24 % 256 * 256 + x.word.toNat >>> 16 % 256) * 256 +
      x.word.toNat >>> 8 % 256) * 256 + x.word.toNat % 256) = x.word.toNat := by
    simp only [Nat.shiftRight_eq_div_pow]
    omega
  simp only [ofOctets, UInt8.toNat_ofNat']
  rw [word, UInt32.ofNat_toNat]

/-- An address is read back from its text. -/
theorem ofChars?_text (style : OctetStyle) (x : Ipv4) :
    ofChars? style x.text.toList = some x := by
  have dotless : ∀ p ∈ x.octets.map fun o => Nat.toDigits 10 o.toNat, '.' ∉ p := by
    intro p member dot
    obtain ⟨o, -, rfl⟩ := List.mem_map.mp member
    exact (Text.isDigit_cases (Text.isDigit_of_mem_toDigits dot)).1 rfl
  rw [ofChars?, toList_text]
  simp only [octets, List.map_cons, List.map_nil] at dotless ⊢
  rw [Text.pieces_intercalate dotless]
  simp only [List.map_cons, List.map_nil, octet?_toDigits, ofOctets_octets]

theorem ofText?_empty : ofText? "" = none := by decide +kernel

@[simp] theorem ofText?_text (x : Ipv4) : ofText? x.text = some x := ofChars?_text .canonical x

@[simp] theorem nonBlank_text (x : Ipv4) : Text.nonBlank x.text = some x.text := by
  refine Text.nonBlank_of_forall (fun empty => ?_) fun c member => ?_
  · have parsed := ofText?_text x
    rw [empty, ofText?_empty] at parsed
    cases parsed
  · rw [toList_text] at member
    obtain rfl | ⟨digits, part, digit⟩ := Text.mem_intercalate member
    · decide
    · obtain ⟨o, -, rfl⟩ := List.mem_map.mp part
      exact (Text.isDigit_cases (Text.isDigit_of_mem_toDigits digit)).2.2

end Ipv4

end FloatingAddress
