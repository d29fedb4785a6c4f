import FloatingAddress.Proofs.Text.DottedQuad
import Mathlib.Data.List.Induction
import Mathlib.Data.List.TakeWhile

/-!
# Numbers and blanks in a text

A numeral is the decimal form of a number, with any number of zeros in front of it. Reading accepts
exactly the numerals and gives the number back. Cutting a text at a character and trimming it are
described in the same way here: by the texts that are put together.
-/

namespace FloatingAddress.Text

variable {cs before after : List Char} {sep : Char} {n : Nat}

/-- The digits write a number, with any number of zeros in front. -/
def IsNumeral (cs : List Char) (n : Nat) : Prop :=
  ∃ zeros, cs = List.replicate zeros '0' ++ Nat.toDigits 10 n

theorem digitsValue_eq (cs : List Char) : digitsValue cs = Nat.ofDigitChars 10 cs 0 := by
  rw [digitsValue, Nat.ofDigitChars_eq_foldl]
  congr
  funext m c
  rw [Nat.mul_comm, digitValue]

theorem isNumeral_toDigits (n : Nat) : IsNumeral (Nat.toDigits 10 n) n := ⟨0, rfl⟩

theorem IsNumeral.digitsValue_eq (numeral : IsNumeral cs n) : digitsValue cs = n := by
  obtain ⟨zeros, rfl⟩ := numeral
  rw [Text.digitsValue_eq, Nat.ofDigitChars_append, Nat.ofDigitChars_replicate_zero, Nat.mul_zero,
    Nat.ofDigitChars_ten_toDigits]

theorem IsNumeral.isDigit (numeral : IsNumeral cs n) {c : Char} (member : c ∈ cs) :
    isDigit c := by
  obtain ⟨zeros, rfl⟩ := numeral
  obtain zero | digit := List.mem_append.mp member
  · obtain rfl := List.eq_of_mem_replicate zero
    decide
  · exact isDigit_of_mem_toDigits digit

theorem IsNumeral.ne_nil (numeral : IsNumeral cs n) : cs ≠ [] := by
  obtain ⟨zeros, rfl⟩ := numeral
  simp [Nat.toDigits_ne_nil]

/-- A digit is the digit of its value. -/
theorem digitChar_digitValue {c : Char} (digit : isDigit c) :
    digitValue c < 10 ∧ (digitValue c).digitChar = c := by
  simp only [isDigit, Bool.and_eq_true, decide_eq_true_eq] at digit
  have low : 48 ≤ c.toNat := digit.1
  have high : c.toNat ≤ 57 := digit.2
  have small : digitValue c < 10 := by
    simp only [digitValue]
    change c.toNat - 48 < 10
    omega
  refine ⟨small, Char.toNat_inj.mp ?_⟩
  rw [Nat.toNat_digitChar_of_lt_ten small]
  simp only [digitValue]
  change 48 + (c.toNat - 48) = c.toNat
  omega

/-- One more digit makes a numeral of the tenfold number and the digit. -/
theorem IsNumeral.concat (numeral : IsNumeral cs n) {d : Nat} (small : d < 10) :
    IsNumeral (cs ++ [d.digitChar]) (n * 10 + d) := by
  obtain ⟨zeros, rfl⟩ := numeral
  -- Zero is written with a digit of its own, which joins the zeros in front of the new digit.
  obtain rfl | positive := Nat.eq_zero_or_pos n
  · refine ⟨zeros + 1, ?_⟩
    rw [Nat.zero_mul, Nat.zero_add, Nat.toDigits_of_lt_base small, List.replicate_succ']
    rfl
  · refine ⟨zeros, ?_⟩
    rw [List.append_assoc, ← Nat.toDigits_of_lt_base small,
      Nat.toDigits_append_toDigits (by decide) positive small, Nat.mul_comm]

/-- Digits are a numeral of what they write. -/
theorem isNumeral_of_digits (present : cs ≠ []) (digits : ∀ c ∈ cs, isDigit c) :
    IsNumeral cs (digitsValue cs) := by
  -- The value is a fold from the front, so the last digit is taken off.
  induction cs using List.reverseRecOn with
  | nil => exact absurd rfl present
  | append_singleton cs c ih =>
    obtain ⟨small, same⟩ := digitChar_digitValue (digits c (by simp))
    rw [digitsValue, List.foldl_append, List.foldl_cons, List.foldl_nil, ← digitsValue]
    by_cases single : cs = []
    · subst single
      refine ⟨0, ?_⟩
      simp [digitsValue, Nat.toDigits_of_lt_base small, same]
    · have earlier := ih single fun c member => digits c (by simp [member])
      simpa only [same] using earlier.concat small

/-- Reading accepts exactly the numerals. -/
theorem natOfDigits?_eq_some_iff : natOfDigits? cs = some n ↔ IsNumeral cs n := by
  constructor
  · intro read
    simp only [natOfDigits?, Option.ite_none_right_eq_some, Bool.and_eq_true, Bool.not_eq_true',
      List.isEmpty_eq_false_iff, List.all_eq_true, Option.some.injEq] at read
    obtain ⟨⟨present, digits⟩, rfl⟩ := read
    exact isNumeral_of_digits present digits
  · intro numeral
    have digits : cs.all isDigit = true := List.all_eq_true.mpr fun c => numeral.isDigit
    have present : cs.isEmpty = false := List.isEmpty_eq_false_iff.mpr numeral.ne_nil
    simp [natOfDigits?, digits, present, numeral.digitsValue_eq]

/-- A text is cut at the first separator. -/
theorem cutAt?_eq_some_iff :
    cutAt? sep cs = some (before, after) ↔ cs = before ++ sep :: after ∧ sep ∉ before := by
  induction cs generalizing before with
  | nil => simp [cutAt?]
  | cons c rest ih =>
    rw [cutAt?]
    split
    next here =>
      subst here
      cases before with
      | nil => simp [eq_comm]
      | cons b before =>
        refine iff_of_false (by simp) ?_
        rintro ⟨joined, absent⟩
        obtain ⟨rfl, -⟩ := List.cons.inj joined
        exact absent (.head _)
    next other =>
      rw [Option.map_eq_some_iff]
      constructor
      · rintro ⟨⟨left, right⟩, cut, same⟩
        cases same
        obtain ⟨joined, absent⟩ := ih.mp cut
        rw [joined]
        exact ⟨rfl, List.not_mem_cons_of_ne_of_not_mem (Ne.symm other) absent⟩
      · rintro ⟨joined, absent⟩
        cases before with
        | nil => exact absurd (List.cons.inj joined).1 other
        | cons b before =>
          obtain ⟨rfl, further⟩ := List.cons.inj joined
          exact ⟨(before, after), ih.mpr ⟨further, fun member => absent (.tail _ member)⟩, rfl⟩

theorem pieces_ne_nil (sep : Char) (cs : List Char) : pieces sep cs ≠ [] := by
  cases cs with
  | nil => simp [pieces]
  | cons c rest =>
    rw [pieces]
    split
    · simp
    · split <;> simp

/-- Joining undoes cutting. -/
theorem intercalate_pieces (sep : Char) (cs : List Char) :
    [sep].intercalate (pieces sep cs) = cs := by
  induction cs with
  | nil => rfl
  | cons c rest ih =>
    obtain ⟨piece, further, cut⟩ := List.exists_cons_of_ne_nil (pieces_ne_nil sep rest)
    rw [cut] at ih
    rw [pieces, cut]
    split
    next here =>
      rw [List.intercalate_cons_cons, ih, here]
      rfl
    next other =>
      rw [← ih]
      cases further with
      | nil => simp
      | cons next further => simp [List.intercalate_cons_cons]

/-- What is trimmed away are blanks at both ends. -/
theorem exists_blanks (cs : List Char) :
    ∃ before after, cs = before ++ trimBlanks cs ++ after ∧
      ∀ c ∈ before ++ after, isBlank c := by
  have rest := List.takeWhile_append_dropWhile (p := isBlank)
    (l := (cs.dropWhile isBlank).reverse)
  refine ⟨cs.takeWhile isBlank, ((cs.dropWhile isBlank).reverse.takeWhile isBlank).reverse, ?_, ?_⟩
  · rw [trimBlanks, List.append_assoc, ← List.reverse_append, rest, List.reverse_reverse,
      List.takeWhile_append_dropWhile]
  · intro c member
    obtain first | last := List.mem_append.mp member
    · exact List.mem_takeWhile_imp first
    · exact List.mem_takeWhile_imp (List.mem_reverse.mp last)

/-- Nothing is left exactly if there are blanks only. -/
theorem trimBlanks_eq_nil_iff : trimBlanks cs = [] ↔ ∀ c ∈ cs, isBlank c := by
  constructor
  case mp =>
    intro nothing
    obtain ⟨before, after, split, blanks⟩ := exists_blanks cs
    rw [nothing, List.append_nil] at split
    rwa [split]
  case mpr =>
    intro blanks
    rw [trimBlanks, List.dropWhile_eq_nil_iff.mpr blanks]
    rfl

/-- A value counts as absent exactly if there are blanks only. -/
theorem nonBlank_eq_none_iff (s : String) : nonBlank s = none ↔ ∀ c ∈ s.toList, isBlank c := by
  rw [← trimBlanks_eq_nil_iff, ← toList_trim, nonBlank]
  simp [← String.toList_inj]

/-- Blanks around a text without blanks are trimmed away. -/
theorem trimBlanks_append (blanks : ∀ c ∈ before ++ after, isBlank c)
    (solid : ∀ c ∈ cs, isBlank c = false) : trimBlanks (before ++ cs ++ after) = cs := by
  obtain ⟨first, last⟩ := List.forall_mem_append.mp blanks
  have front : (before ++ (cs ++ after)).dropWhile isBlank = (cs ++ after).dropWhile isBlank :=
    List.dropWhile_append_of_pos first
  rw [trimBlanks, List.append_assoc, front]
  cases cs with
  | nil => simp [List.dropWhile_eq_nil_iff.mpr last]
  | cons c rest =>
    have back : (after.reverse ++ (c :: rest).reverse).dropWhile isBlank =
        (c :: rest).reverse.dropWhile isBlank :=
      List.dropWhile_append_of_pos fun b member => last b (List.mem_reverse.mp member)
    rw [List.cons_append, List.dropWhile_cons_of_neg (by simp [solid c (.head _)]),
      ← List.cons_append, List.reverse_append, back,
      dropWhile_isBlank fun b member => solid b (List.mem_reverse.mp member), List.reverse_reverse]

end FloatingAddress.Text
