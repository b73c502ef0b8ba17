import Orchestrator.Text.Blank
import Orchestrator.Text.Case
import Orchestrator.Text.Numeral

/-!
# Which texts are numbers

A number is written by one or more digits, with or without a plus sign in front, and with as many
zeros in front as one likes.  The reader folds over the digits, which is how the core library gives
digits their value, and so it may be compared with the digits that the library writes for a number.

The characters of a numeral are digits and perhaps the sign, so that none is a letter and none is a
blank.  A reader that leaves out the blanks at the two ends therefore reads a numeral as one that
does not.

* `IsNumeral`: the texts that write a number, with the number.
* `readCount_eq_some_iff`: **what is read is what is written**, up to the largest number.
* `isNumeral_toString`: the digits of a number are a numeral of it.
* `IsNumeral.mem_cases`: the characters of a numeral.
* `IsNumeral.trimBlanks_eq`: there is nothing to trim around a numeral.
-/

namespace Orchestrator
namespace Text

/-- The texts that write a number: one or more digits, with or without a plus sign in front. -/
inductive IsNumeral : List Char → Nat → Prop where
  | digits {ds : List Char} (hne : ds ≠ []) (hdigits : ∀ d ∈ ds, d.isDigit = true) :
      IsNumeral ds (Nat.ofDigitChars 10 ds 0)
  | signed {ds : List Char} (hne : ds ≠ []) (hdigits : ∀ d ∈ ds, d.isDigit = true) :
      IsNumeral ('+' :: ds) (Nat.ofDigitChars 10 ds 0)

variable {cs ds : List Char} {n : Nat}

/-! ## Reading -/

/-- The value of digits is the one that the core library gives them. -/
theorem digitsValue_eq (ds : List Char) : digitsValue ds = Nat.ofDigitChars 10 ds 0 := by
  have hstep : (fun (n : Nat) (d : Char) => n * 10 + (d.toNat - '0'.toNat)) =
      fun n d => 10 * n + (d.toNat - '0'.toNat) := by
    funext n d
    omega
  rw [digitsValue, hstep, Nat.ofDigitChars_eq_foldl]

/-- Digits have no sign to be left out. -/
theorem unsignedDigits_of_digits (h : ∀ d ∈ ds, d.isDigit = true) : unsignedDigits ds = ds := by
  unfold unsignedDigits
  split
  · have hplus := h '+' List.mem_cons_self
    exact absurd hplus (by decide)
  · rfl

theorem unsignedDigits_cases (cs : List Char) :
    cs = unsignedDigits cs ∨ cs = '+' :: unsignedDigits cs := by
  unfold unsignedDigits
  split
  · exact Or.inr rfl
  · exact Or.inl rfl

/-- A text is a numeral when there are digits behind its sign, and nothing else. -/
theorem isNumeral_iff :
    IsNumeral cs n ↔ unsignedDigits cs ≠ [] ∧ (∀ d ∈ unsignedDigits cs, d.isDigit = true) ∧
      Nat.ofDigitChars 10 (unsignedDigits cs) 0 = n := by
  constructor
  · rintro (⟨hne, hdigits⟩ | ⟨hne, hdigits⟩)
    · rw [unsignedDigits_of_digits hdigits]
      exact ⟨hne, hdigits, rfl⟩
    · exact ⟨hne, hdigits, rfl⟩
  · rintro ⟨hne, hdigits, rfl⟩
    rcases unsignedDigits_cases cs with hcs | hcs
    · have hnumeral := IsNumeral.digits hne hdigits
      rwa [← hcs] at hnumeral ⊢
    · have hnumeral := IsNumeral.signed hne hdigits
      rwa [← hcs] at hnumeral

/-- **What is read is what is written**, as long as it is not too large. -/
theorem readCount_eq_some_iff : readCount cs = some n ↔ IsNumeral cs n ∧ n ≤ maxCount := by
  rw [isNumeral_iff, readCount, digitsValue_eq]
  constructor
  · intro h
    split at h
    · rename_i hread
      obtain ⟨hne, hdigits, hmax⟩ := hread
      cases h
      exact ⟨⟨List.isEmpty_eq_false_iff.1 hne, List.all_eq_true.1 hdigits, rfl⟩, hmax⟩
    · cases h
  · rintro ⟨⟨hne, hdigits, rfl⟩, hmax⟩
    exact if_pos ⟨List.isEmpty_eq_false_iff.2 hne, List.all_eq_true.2 hdigits, hmax⟩

/-! ## Writing -/

/-- The digits of a number are a numeral of it. -/
theorem isNumeral_toString (n : Nat) : IsNumeral (toString n).toList n := by
  have htext : (toString n).toList = Nat.toDigits 10 n := by
    rw [Nat.toString_eq_repr, Nat.toList_repr]
  have hdigits : ∀ d ∈ Nat.toDigits 10 n, d.isDigit = true := fun d hd =>
    Nat.isDigit_of_mem_toDigits (by decide) (by decide) hd
  have hnumeral := IsNumeral.digits Nat.toDigits_ne_nil hdigits
  rwa [Nat.ofDigitChars_ten_toDigits, ← htext] at hnumeral

/-! ## Characters of numerals -/

theorem toNat_of_isDigit {c : Char} (h : c.isDigit = true) : 48 ≤ c.toNat ∧ c.toNat ≤ 57 := by
  simp only [Char.isDigit, Bool.and_eq_true, decide_eq_true_eq, ge_iff_le,
    UInt32.le_iff_toNat_le] at h
  exact h

theorem IsNumeral.mem_cases (h : IsNumeral cs n) {c : Char} (hc : c ∈ cs) :
    c = '+' ∨ c.isDigit = true := by
  cases h with
  | digits _ hdigits => exact Or.inr (hdigits c hc)
  | signed _ hdigits =>
    rcases List.mem_cons.1 hc with rfl | hc
    · exact Or.inl rfl
    · exact Or.inr (hdigits c hc)

/-- A digit is its own lower case. -/
theorem toLower_of_isDigit {c : Char} (h : c.isDigit = true) : c.toLower = c := by
  unfold Char.toLower
  refine dif_neg fun hupper => ?_
  have hrange := toNat_of_isDigit h
  have hletter : 65 ≤ c.toNat := UInt32.le_iff_toNat_le.1 hupper.1
  omega

/-- A numeral is not the word for the automatic number, since no character of it is a letter. -/
theorem IsNumeral.not_sameIgnoringCase_auto {value : String} (h : IsNumeral value.toList n) :
    ¬ sameIgnoringCase value "auto" = true := by
  intro hsame
  have hmap : value.toList.map Char.toLower = "auto".toList.map Char.toLower :=
    of_decide_eq_true hsame
  have ha : 'a' ∈ value.toList.map Char.toLower := by
    rw [hmap]
    decide
  obtain ⟨c, hc, hlower⟩ := List.mem_map.1 ha
  rcases h.mem_cases hc with rfl | hdigit
  · exact absurd hlower (by decide)
  · rw [toLower_of_isDigit hdigit] at hlower
    rw [hlower] at hdigit
    exact absurd hdigit (by decide)

/-- Neither a digit nor the sign is a blank. -/
theorem IsNumeral.isBlank_eq_false (h : IsNumeral cs n) {c : Char} (hc : c ∈ cs) :
    isBlank c = false := by
  rcases h.mem_cases hc with rfl | hdigit
  · decide
  · have hrange := toNat_of_isDigit hdigit
    exact isBlank_eq_false_of_toNat (by omega) (by omega)

/-- A text that has no blanks is not trimmed. -/
theorem trimBlanks_of_forall (h : ∀ c ∈ cs, isBlank c = false) : trimBlanks cs = cs := by
  have hdrop : ∀ cs : List Char, (∀ c ∈ cs, isBlank c = false) → cs.dropWhile isBlank = cs := by
    intro cs hcs
    cases cs with
    | nil => rfl
    | cons c cs =>
      have hc : ¬ isBlank c = true := by simp [hcs c List.mem_cons_self]
      exact List.dropWhile_cons_of_neg hc
  have hreverse : ∀ c ∈ cs.reverse, isBlank c = false := fun c hc => h c (List.mem_reverse.1 hc)
  rw [trimBlanks, hdrop cs h, hdrop cs.reverse hreverse, List.reverse_reverse]

/-- **There is nothing to trim around a numeral.** -/
theorem IsNumeral.trimBlanks_eq (h : IsNumeral cs n) : trimBlanks cs = cs :=
  trimBlanks_of_forall fun _ hc => h.isBlank_eq_false hc

/-- A number that is written out and read with blanks left out is the same number. -/
theorem readCount_trimBlanks_toString (h : n ≤ maxCount) :
    readCount (trimBlanks (toString n).toList) = some n := by
  rw [(isNumeral_toString n).trimBlanks_eq]
  exact readCount_eq_some_iff.2 ⟨isNumeral_toString n, h⟩

end Text
end Orchestrator
