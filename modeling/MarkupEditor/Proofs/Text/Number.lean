import Mathlib.Data.List.Basic
import MarkupEditor.Text.Number

/-!
# Numerals

A numeral is a row of digits, at least one, with at most one plus sign in front of it. Reading gives
the number that it stands for in base ten, unless that is over the limit. On any other text, reading
tells the first fault from the left. The value of a row of digits never falls when a digit is added,
so a row that goes over the limit does so for good.
-/

namespace MarkupEditor

/-- The text stands for the number. -/
inductive Numeral : Text → Nat → Prop
  | plain {digits : Text} (hne : digits ≠ []) (hdigits : ∀ c ∈ digits, c.isDigit = true) :
      Numeral digits (Nat.ofDigitChars 10 digits 0)
  | signed {digits : Text} (hne : digits ≠ []) (hdigits : ∀ c ∈ digits, c.isDigit = true) :
      Numeral ('+' :: digits) (Nat.ofDigitChars 10 digits 0)

/-- The first fault of a text that does not go on with digits up to the limit, when it stands behind
the digits of `value`. -/
inductive DigitFault (limit value : Nat) (text : Text) : NumberError → Prop
  | invalidDigit {front rest : Text} {c : Char} (htext : text = front ++ c :: rest)
      (hfront : ∀ d ∈ front, d.isDigit = true) (hc : c.isDigit = false)
      (hvalue : Nat.ofDigitChars 10 front value ≤ limit) : DigitFault limit value text .invalidDigit
  | tooLarge {front rest : Text} (htext : text = front ++ rest)
      (hfront : ∀ d ∈ front, d.isDigit = true) (hvalue : limit < Nat.ofDigitChars 10 front value) :
      DigitFault limit value text .tooLarge

/-- The text without its plus sign. A sign with nothing behind it is not taken for one. -/
def unsigned : Text → Text
  | '+' :: c :: rest => c :: rest
  | text => text

/-- The first fault of a text that is no numeral of a number up to the limit. -/
inductive NumeralFault (limit : Nat) : Text → NumberError → Prop
  | empty : NumeralFault limit [] .empty
  | digits {text : Text} {error : NumberError} (hfault : DigitFault limit 0 (unsigned text) error) :
      NumeralFault limit text error

section Digits

variable {limit value n : Nat} {text rest : Text} {c : Char} {error : NumberError}

theorem digit?_eq (c : Char) :
    digit? c = if c.isDigit = true then some (c.toNat - '0'.toNat) else none := by
  have hdigit : c.isDigit = true ↔ '0' ≤ c ∧ c ≤ '9' := by
    simp [Char.isDigit, Char.le_def]
  simp only [digit?, hdigit]

theorem toNat_of_isDigit (hc : c.isDigit = true) : 48 ≤ c.toNat ∧ c.toNat ≤ 57 := by
  simpa [Char.isDigit, UInt32.le_iff_toNat_le] using hc

theorem le_ofDigitChars (digits : Text) (value : Nat) :
    value ≤ Nat.ofDigitChars 10 digits value := by
  rw [Nat.ofDigitChars_eq_ofDigitChars_zero]
  have hpow : 0 < 10 ^ digits.length := Nat.pow_pos (by decide)
  calc value ≤ 10 ^ digits.length * value := Nat.le_mul_of_pos_left value hpow
    _ ≤ 10 ^ digits.length * value + Nat.ofDigitChars 10 digits 0 := Nat.le_add_right _ _

theorem readDigits_cons_of_isDigit (hc : c.isDigit = true) :
    readDigits limit value (c :: rest) =
      if 10 * value + (c.toNat - '0'.toNat) ≤ limit then
        readDigits limit (10 * value + (c.toNat - '0'.toNat)) rest
      else .error .tooLarge := by
  rw [readDigits, digit?_eq, if_pos hc]

theorem readDigits_cons_of_not_isDigit (hc : c.isDigit = false) :
    readDigits limit value (c :: rest) = .error .invalidDigit := by
  rw [readDigits, digit?_eq, hc, if_neg Bool.false_ne_true]

theorem digitFault_nil (hvalue : value ≤ limit) : ¬DigitFault limit value [] error := by
  rintro (⟨htext, -, -, -⟩ | ⟨htext, -, hlarge⟩)
  · simp at htext
  · obtain ⟨rfl, -⟩ := List.append_eq_nil_iff.mp htext.symm
    exact absurd hvalue (Nat.not_le.mpr hlarge)

/-- A digit that is put in front counts for the value that the others stand behind. -/
theorem DigitFault.cons (hc : c.isDigit = true)
    (hfault : DigitFault limit (10 * value + (c.toNat - '0'.toNat)) rest error) :
    DigitFault limit value (c :: rest) error := by
  cases hfault with
  | @invalidDigit front behind bad htext hfront hbad hvalue =>
      refine .invalidDigit (htext ▸ List.cons_append.symm) (List.forall_mem_cons.mpr ⟨hc, hfront⟩)
        hbad ?_
      rwa [Nat.ofDigitChars_cons]
  | @tooLarge front behind htext hfront hvalue =>
      refine .tooLarge (htext ▸ List.cons_append.symm) (List.forall_mem_cons.mpr ⟨hc, hfront⟩) ?_
      rwa [Nat.ofDigitChars_cons]

theorem digitFault_cons_of_isDigit (hvalue : value ≤ limit) (hc : c.isDigit = true) :
    DigitFault limit value (c :: rest) error ↔
      if 10 * value + (c.toNat - '0'.toNat) ≤ limit then
        DigitFault limit (10 * value + (c.toNat - '0'.toNat)) rest error
      else error = .tooLarge := by
  constructor
  · intro hfault
    cases hfault with
    | @invalidDigit front behind bad htext hfront hbad hsmall =>
        cases front with
        | nil =>
            obtain ⟨rfl, -⟩ := List.cons.inj htext
            exact absurd (hc.symm.trans hbad) (by decide)
        | cons first front =>
            obtain ⟨rfl, hrest⟩ := List.cons.inj htext
            rw [Nat.ofDigitChars_cons] at hsmall
            have hnext := Nat.le_trans (le_ofDigitChars front _) hsmall
            rw [if_pos hnext]
            exact .invalidDigit hrest (List.forall_mem_cons.mp hfront).2 hbad hsmall
    | @tooLarge front behind htext hfront hlarge =>
        cases front with
        | nil => exact absurd hvalue (Nat.not_le.mpr hlarge)
        | cons first front =>
            obtain ⟨rfl, hrest⟩ := List.cons.inj htext
            rw [Nat.ofDigitChars_cons] at hlarge
            split
            · exact .tooLarge hrest (List.forall_mem_cons.mp hfront).2 hlarge
            · rfl
  · intro hfault
    split at hfault
    · exact hfault.cons hc
    · rename_i hover
      subst hfault
      refine .tooLarge (List.singleton_append).symm (List.forall_mem_singleton.mpr hc) ?_
      rw [Nat.ofDigitChars_cons, Nat.ofDigitChars_nil]
      exact Nat.not_le.mp hover

theorem digitFault_cons_of_not_isDigit (hvalue : value ≤ limit) (hc : c.isDigit = false) :
    DigitFault limit value (c :: rest) error ↔ error = .invalidDigit := by
  constructor
  · intro hfault
    cases hfault with
    | invalidDigit => rfl
    | @tooLarge front behind htext hfront hlarge =>
        cases front with
        | nil => exact absurd hvalue (Nat.not_le.mpr hlarge)
        | cons first front =>
            obtain ⟨rfl, -⟩ := List.cons.inj htext
            exact absurd ((List.forall_mem_cons.mp hfront).1.symm.trans hc) (by decide)
  · rintro rfl
    exact .invalidDigit (List.nil_append _).symm (List.forall_mem_nil _) hc hvalue

theorem readDigits_eq_ok_iff (hvalue : value ≤ limit) :
    readDigits limit value text = .ok n ↔
      (∀ c ∈ text, c.isDigit = true) ∧ Nat.ofDigitChars 10 text value = n ∧ n ≤ limit := by
  induction text generalizing value with
  | nil =>
      simp only [readDigits, Except.ok.injEq, Nat.ofDigitChars_nil, List.not_mem_nil, false_implies,
        implies_true, true_and]
      exact ⟨fun heq => ⟨heq, heq ▸ hvalue⟩, And.left⟩
  | cons c rest ih =>
      cases hc : c.isDigit with
      | false => simp [readDigits_cons_of_not_isDigit hc, hc]
      | true =>
          rw [readDigits_cons_of_isDigit hc, Nat.ofDigitChars_cons, List.forall_mem_cons]
          split
          · rename_i hnext
            rw [ih hnext]
            simp [hc]
          · rename_i hover
            have hlarge := Nat.lt_of_lt_of_le (Nat.not_le.mp hover) (le_ofDigitChars rest _)
            simp only [reduceCtorEq, false_iff]
            rintro ⟨-, rfl, hle⟩
            exact absurd hle (Nat.not_le.mpr hlarge)

theorem readDigits_eq_error_iff (hvalue : value ≤ limit) :
    readDigits limit value text = .error error ↔ DigitFault limit value text error := by
  induction text generalizing value with
  | nil => simp [readDigits, digitFault_nil hvalue]
  | cons c rest ih =>
      cases hc : c.isDigit with
      | false =>
          rw [readDigits_cons_of_not_isDigit hc, digitFault_cons_of_not_isDigit hvalue hc,
            Except.error.injEq, eq_comm]
      | true =>
          rw [readDigits_cons_of_isDigit hc, digitFault_cons_of_isDigit hvalue hc]
          split
          · rename_i hnext
            exact ih hnext
          · rw [Except.error.injEq, eq_comm]

end Digits

section Number

variable {limit n : Nat} {text : Text} {error : NumberError}

theorem readNumber_eq (hne : text ≠ []) :
    readNumber limit text = readDigits limit 0 (unsigned text) := by
  unfold readNumber
  split
  · contradiction
  · rfl
  · rename_i hsign
    rw [unsigned]
    exact hsign

theorem unsigned_of_isDigit (hdigits : ∀ c ∈ text, c.isDigit = true) : unsigned text = text := by
  unfold unsigned
  split
  · exact absurd (hdigits '+' (List.mem_cons_self ..)) (by decide)
  · rfl

theorem numeral_iff :
    Numeral text n ↔ text ≠ [] ∧ (∀ c ∈ unsigned text, c.isDigit = true) ∧
      Nat.ofDigitChars 10 (unsigned text) 0 = n := by
  constructor
  · intro hnumeral
    cases hnumeral with
    | plain hne hdigits =>
        rw [unsigned_of_isDigit hdigits]
        exact ⟨hne, hdigits, rfl⟩
    | @signed digits hne hdigits =>
        obtain ⟨first, rest, rfl⟩ := List.exists_cons_of_ne_nil hne
        exact ⟨List.cons_ne_nil _ _, hdigits, rfl⟩
  · rintro ⟨hne, hdigits, rfl⟩
    unfold unsigned at hdigits ⊢
    split
    · exact .signed (List.cons_ne_nil _ _) hdigits
    · exact .plain hne (by simpa using hdigits)

theorem readNumber_eq_ok_iff : readNumber limit text = .ok n ↔ Numeral text n ∧ n ≤ limit := by
  rw [numeral_iff]
  by_cases hempty : text = []
  · simp [hempty, readNumber]
  · rw [readNumber_eq hempty, readDigits_eq_ok_iff (Nat.zero_le limit)]
    simp only [ne_eq, hempty, not_false_eq_true, true_and, and_assoc]

theorem readNumber_eq_error_iff :
    readNumber limit text = .error error ↔ NumeralFault limit text error := by
  by_cases hempty : text = []
  · subst hempty
    have hread : readNumber limit [] = .error .empty := rfl
    rw [hread, Except.error.injEq]
    constructor
    · rintro rfl
      exact .empty
    · intro hfault
      cases hfault with
      | empty => rfl
      | digits hfault => exact absurd hfault (digitFault_nil (Nat.zero_le limit))
  · rw [readNumber_eq hempty, readDigits_eq_error_iff (Nat.zero_le limit)]
    constructor
    · exact .digits
    · intro hfault
      cases hfault with
      | empty => contradiction
      | digits hfault => exact hfault

end Number

end MarkupEditor
