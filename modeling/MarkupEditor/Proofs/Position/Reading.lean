import Mathlib.Algebra.Group.Nat.Defs
import Mathlib.Data.List.DropRight
import MarkupEditor.Position
import MarkupEditor.Proofs.Text.Number
import MarkupEditor.Proofs.Text.Places

/-!
# Reading positions

A position is two parts with a colon between them. Each part is a numeral with white space on either
side, and its number is no larger than the largest value. A text without a colon is refused for
that. A text whose first colon does not separate two such parts is refused for the first part that
is none, and the error tells what is wrong with the numeral.
-/

namespace MarkupEditor

namespace Text

open Character

/-- The text is `inner` between white space, and `inner` itself has none at its ends. -/
inductive Trimmed (text inner : Text) : Prop
  | intro {front back : Text} (htext : text = front ++ (inner ++ back))
      (hfront : ∀ c ∈ front, isSpace c = true) (hback : ∀ c ∈ back, isSpace c = true)
      (hhead : ∀ c ∈ inner.head?, isSpace c = false)
      (hlast : ∀ c ∈ inner.getLast?, isSpace c = false)

section Trim

variable {text inner front rest : Text}

theorem dropWhile_isSpace_append (hfront : ∀ c ∈ front, isSpace c = true)
    (hhead : ∀ c ∈ rest.head?, isSpace c = false) : (front ++ rest).dropWhile isSpace = rest := by
  rw [List.dropWhile_append_of_pos hfront]
  cases rest with
  | nil => rfl
  | cons c rest => rw [List.dropWhile_cons, hhead c rfl, if_neg Bool.false_ne_true]

theorem trim_of_trimmed (htrimmed : Trimmed text inner) : text.trim = inner := by
  obtain @⟨front, back, rfl, hfront, hback, hhead, hlast⟩ := htrimmed
  unfold trim
  cases inner with
  | nil =>
      -- Nothing stops the front here, so it takes the white space behind as well.
      have hspaces : ∀ c ∈ front ++ ([] ++ back), isSpace c = true :=
        List.forall_mem_append.mpr ⟨hfront, hback⟩
      rw [List.dropWhile_eq_nil_iff.mpr hspaces]
      rfl
  | cons c inner =>
      have hreverse : (c :: inner ++ back).reverse.dropWhile isSpace = (c :: inner).reverse := by
        rw [List.reverse_append]
        refine dropWhile_isSpace_append (fun d hd => hback d (List.mem_reverse.mp hd)) ?_
        rwa [List.head?_reverse]
      have hinner : (front ++ (c :: inner ++ back)).dropWhile isSpace = c :: inner ++ back :=
        dropWhile_isSpace_append hfront hhead
      rw [hinner, hreverse, List.reverse_reverse]

theorem trimmed_trim (text : Text) : Trimmed text text.trim := by
  have hdrop : text.trim ++ (text.dropWhile isSpace).rtakeWhile isSpace = text.dropWhile isSpace :=
    List.rdropWhile_append_rtakeWhile
  have htext : text =
      text.takeWhile isSpace ++ (text.trim ++ (text.dropWhile isSpace).rtakeWhile isSpace) := by
    rw [hdrop, List.takeWhile_append_dropWhile]
  refine .intro htext (fun _ => List.mem_takeWhile_imp) (fun _ => List.mem_rtakeWhile_imp) ?_ ?_
  · intro c hc
    have hfirst : (text.dropWhile isSpace).head? = some c := by
      rw [← hdrop, List.head?_append, hc, Option.some_or]
    have hnot := List.head?_dropWhile_not isSpace text
    rw [hfirst] at hnot
    exact hnot
  · intro c hc
    obtain ⟨hne, rfl⟩ := List.mem_getLast?_eq_getLast hc
    exact Bool.eq_false_iff.mpr (List.rdropWhile_last_not _ _ hne)

theorem trim_eq_iff : text.trim = inner ↔ Trimmed text inner :=
  ⟨fun heq => heq ▸ trimmed_trim text, trim_of_trimmed⟩

end Trim

end Text

namespace Position

open Character Text

/-- The part stands for the number: it is a numeral between white space, and the number is not too
large. -/
def Writes (part : Text) (n : Nat) : Prop :=
  ∃ numeral, part.Trimmed numeral ∧ Numeral numeral n ∧ n ≤ maxValue

/-- The first fault of a part that stands for no number. -/
def Faulty (part : Text) (cause : NumberError) : Prop :=
  ∃ inner, part.Trimmed inner ∧ NumeralFault maxValue inner cause

/-- What stands before the first colon and what stands behind it. -/
structure Parts (input line offset : Text) : Prop where
  input_eq : input = line ++ ':' :: offset
  not_mem_line : ':' ∉ line

/-- The grammar of positions: a line and an offset with the only colon between them. -/
def Spells (input : Text) (position : Position) : Prop :=
  ∃ line offset, Parts input line offset ∧ ':' ∉ offset ∧
    Writes line position.line ∧ Writes offset position.offset

section Parts

variable {input line offset part : Text} {n : Nat} {cause : NumberError} {position : Position}
  {error : PositionError}

theorem readNumber_trim_eq_ok_iff : readNumber maxValue part.trim = .ok n ↔ Writes part n := by
  simp only [Writes, ← trim_eq_iff, exists_eq_left', readNumber_eq_ok_iff]

theorem readNumber_trim_eq_error_iff :
    readNumber maxValue part.trim = .error cause ↔ Faulty part cause := by
  simp only [Faulty, ← trim_eq_iff, exists_eq_left', readNumber_eq_error_iff]

theorem exists_parts (hmem : ':' ∈ input) : ∃ line offset, Parts input line offset := by
  obtain ⟨line, offset, hinput, hline⟩ := List.eq_append_cons_of_mem hmem
  exact ⟨line, offset, hinput, hline⟩

theorem parse_of_not_mem (hmem : ':' ∉ input) : parse input = .error (.missingSeparator input) := by
  rw [parse, dropWhile_ne_eq_nil hmem]

theorem Parts.parse_eq (hparts : Parts input line offset) :
    parse input =
      match readNumber maxValue line.trim, readNumber maxValue offset.trim with
      | .error cause, _ => .error (.invalidNumber input cause)
      | .ok _, .error cause => .error (.invalidNumber input cause)
      | .ok first, .ok second => .ok ⟨first, second⟩ := by
  obtain ⟨rfl, hline⟩ := hparts
  rw [parse, dropWhile_ne_append hline, takeWhile_ne_append hline]
  dsimp only
  cases readNumber maxValue line.trim with
  | error => rfl
  | ok => cases readNumber maxValue offset.trim <;> rfl

theorem Parts.parse_eq_ok_iff (hparts : Parts input line offset) :
    parse input = .ok position ↔ Writes line position.line ∧ Writes offset position.offset := by
  obtain ⟨first, second⟩ := position
  rw [hparts.parse_eq, ← readNumber_trim_eq_ok_iff, ← readNumber_trim_eq_ok_iff]
  cases readNumber maxValue line.trim with
  | error => simp
  | ok => cases readNumber maxValue offset.trim <;> simp

theorem Parts.parse_eq_error_iff (hparts : Parts input line offset) :
    parse input = .error error ↔ ∃ cause, error = .invalidNumber input cause ∧
      (Faulty line cause ∨ (∃ n, Writes line n) ∧ Faulty offset cause) := by
  rw [hparts.parse_eq]
  simp only [← readNumber_trim_eq_ok_iff, ← readNumber_trim_eq_error_iff]
  cases readNumber maxValue line.trim with
  | error => simp [eq_comm]
  | ok => cases readNumber maxValue offset.trim <;> simp [eq_comm]

end Parts

section Numerals

variable {part numeral : Text} {n : Nat} {c : Char}

theorem isSpace_of_isDigit (hc : c.isDigit = true) : isSpace c = false := by
  obtain ⟨hzero, hnine⟩ := toNat_of_isDigit hc
  have hbelow : c.toNat < 0x85 := by omega
  have hfirst : ¬c.toNat ≤ 0xD := by omega
  have hsecond : ¬c.toNat ≤ 0x20 := by omega
  simp [isSpace, spaceRanges, Ranges.covers, hbelow, hfirst, hsecond]

theorem isDigit_or_eq_of_mem (hnumeral : Numeral numeral n) (hc : c ∈ numeral) :
    c.isDigit = true ∨ c = '+' := by
  cases hnumeral with
  | plain hne hdigits => exact .inl (hdigits c hc)
  | signed hne hdigits => exact (List.mem_cons.mp hc).symm.imp_left (hdigits c)

theorem Writes.colon_not_mem (hwrites : Writes part n) : ':' ∉ part := by
  obtain ⟨numeral, ⟨rfl, hfront, hback, -, -⟩, hnumeral, -⟩ := hwrites
  intro hmem
  simp only [List.mem_append] at hmem
  rcases hmem with hmem | hmem | hmem
  · exact absurd (hfront ':' hmem) (by decide)
  · exact absurd (isDigit_or_eq_of_mem hnumeral hmem) (by decide)
  · exact absurd (hback ':' hmem) (by decide)

theorem writes_ofNat (hn : n < 2 ^ 64) : Writes (Text.ofNat n) n := by
  have hdigits : ∀ c ∈ Text.ofNat n, c.isDigit = true :=
    fun _ => Nat.isDigit_of_mem_toDigits (by decide) (by decide)
  have hspace : ∀ c ∈ Text.ofNat n, isSpace c = false :=
    fun c hc => isSpace_of_isDigit (hdigits c hc)
  have htrimmed : (Text.ofNat n).Trimmed (Text.ofNat n) :=
    .intro (List.append_nil _).symm (List.forall_mem_nil _) (List.forall_mem_nil _)
      (fun c hc => hspace c (List.mem_of_mem_head? hc))
      (fun c hc => hspace c (List.mem_of_mem_getLast? hc))
  have hnumeral : Numeral (Text.ofNat n) n := by
    have hvalue : Nat.ofDigitChars 10 (Text.ofNat n) 0 = n := Nat.ofDigitChars_ten_toDigits
    have hplain : Numeral (Text.ofNat n) (Nat.ofDigitChars 10 (Text.ofNat n) 0) :=
      .plain Nat.toDigits_ne_nil hdigits
    rwa [hvalue] at hplain
  exact ⟨Text.ofNat n, htrimmed, hnumeral, Nat.le_pred_of_lt hn⟩

end Numerals

section Outcomes

variable {input given : Text} {position : Position} {cause : NumberError}

theorem parse_eq_missingSeparator_iff :
    parse input = .error (.missingSeparator given) ↔ ':' ∉ input ∧ given = input := by
  constructor
  · intro hparse
    by_cases hmem : ':' ∈ input
    · obtain ⟨line, offset, hparts⟩ := exists_parts hmem
      obtain ⟨cause, herror, -⟩ := hparts.parse_eq_error_iff.mp hparse
      simp at herror
    · rw [parse_of_not_mem hmem] at hparse
      simp only [Except.error.injEq, PositionError.missingSeparator.injEq] at hparse
      exact ⟨hmem, hparse.symm⟩
  · rintro ⟨hmem, rfl⟩
    exact parse_of_not_mem hmem

theorem parse_eq_ok_iff : parse input = .ok position ↔ Spells input position := by
  constructor
  · intro hparse
    by_cases hmem : ':' ∈ input
    · obtain ⟨line, offset, hparts⟩ := exists_parts hmem
      obtain ⟨hline, hoffset⟩ := hparts.parse_eq_ok_iff.mp hparse
      exact ⟨line, offset, hparts, hoffset.colon_not_mem, hline, hoffset⟩
    · rw [parse_of_not_mem hmem] at hparse
      simp at hparse
  · rintro ⟨line, offset, hparts, -, hline, hoffset⟩
    exact hparts.parse_eq_ok_iff.mpr ⟨hline, hoffset⟩

theorem parse_eq_invalidNumber_iff :
    parse input = .error (.invalidNumber given cause) ↔
      given = input ∧ ∃ line offset, Parts input line offset ∧
        (Faulty line cause ∨ (∃ n, Writes line n) ∧ Faulty offset cause) := by
  constructor
  · intro hparse
    by_cases hmem : ':' ∈ input
    · obtain ⟨line, offset, hparts⟩ := exists_parts hmem
      obtain ⟨found, herror, hfault⟩ := hparts.parse_eq_error_iff.mp hparse
      simp only [PositionError.invalidNumber.injEq] at herror
      obtain ⟨rfl, rfl⟩ := herror
      exact ⟨rfl, line, offset, hparts, hfault⟩
    · rw [parse_of_not_mem hmem] at hparse
      simp at hparse
  · rintro ⟨rfl, line, offset, hparts, hfault⟩
    exact hparts.parse_eq_error_iff.mpr ⟨cause, rfl, hfault⟩

theorem exists_parse_eq_invalidNumber (hmem : ':' ∈ input)
    (hspells : ¬∃ position, Spells input position) :
    ∃ cause, parse input = .error (.invalidNumber input cause) := by
  cases hparse : parse input with
  | ok position => exact absurd ⟨position, parse_eq_ok_iff.mp hparse⟩ hspells
  | error error =>
      cases error with
      | missingSeparator given =>
          exact absurd hmem (parse_eq_missingSeparator_iff.mp hparse).1
      | invalidNumber given cause =>
          obtain ⟨rfl, -⟩ := parse_eq_invalidNumber_iff.mp hparse
          exact ⟨cause, rfl⟩

theorem parse_ofNat {line offset : Nat} (hline : line < 2 ^ 64) (hoffset : offset < 2 ^ 64) :
    parse (Text.ofNat line ++ ':' :: Text.ofNat offset) = .ok ⟨line, offset⟩ := by
  have hwritten := writes_ofNat hline
  have hparts : Parts _ (Text.ofNat line) (Text.ofNat offset) := ⟨rfl, hwritten.colon_not_mem⟩
  exact hparts.parse_eq_ok_iff.mpr ⟨hwritten, writes_ofNat hoffset⟩

end Outcomes

/-- **Reading accepts exactly the grammar of positions.** A text is refused for a missing separator
exactly when it has no colon, and it is read as the position that it spells. Any other text is
refused for a number: for that of the line if the part before the first colon is faulty, and else
for that of the offset. Each error carries the whole text. A position that is written in decimals is
read back. -/
theorem parse_accepts_grammar :
    (∀ input given, parse input = .error (.missingSeparator given) ↔
      ':' ∉ input ∧ given = input) ∧
    (∀ input position, parse input = .ok position ↔ Spells input position) ∧
    (∀ input, ':' ∈ input → (¬∃ position, Spells input position) →
      ∃ cause, parse input = .error (.invalidNumber input cause)) ∧
    (∀ input given cause, parse input = .error (.invalidNumber given cause) ↔
      given = input ∧ ∃ line offset, Parts input line offset ∧
        (Faulty line cause ∨ (∃ n, Writes line n) ∧ Faulty offset cause)) ∧
    ∀ line offset, line < 2 ^ 64 → offset < 2 ^ 64 →
      parse (Text.ofNat line ++ ':' :: Text.ofNat offset) = .ok ⟨line, offset⟩ :=
  ⟨fun _ _ => parse_eq_missingSeparator_iff, fun _ _ => parse_eq_ok_iff,
    fun _ => exists_parse_eq_invalidNumber, fun _ _ _ => parse_eq_invalidNumber_iff,
    fun _ _ => parse_ofNat⟩

/-- The largest line is read back, white space, a sign and a leading zero are read past, and a
minus sign is no part of a numeral. -/
theorem parse_accepts_largest :
    parse "18446744073709551615:0".toList = .ok ⟨2 ^ 64 - 1, 0⟩ ∧
      Spells "7\u3000: +012".toList ⟨7, 12⟩ ∧
      ∃ cause, parse "1:-2".toList = .error (.invalidNumber "1:-2".toList cause) := by
  obtain ⟨-, hok, hfault, -, hwritten⟩ := parse_accepts_grammar
  have hlargest : Text.ofNat (2 ^ 64 - 1) ++ ':' :: Text.ofNat 0 =
      "18446744073709551615:0".toList := by decide +kernel
  refine ⟨hlargest ▸ hwritten (2 ^ 64 - 1) 0 (by decide) (by decide),
    (hok _ _).mp (by decide +kernel), hfault _ (by decide) ?_⟩
  rintro ⟨position, hspells⟩
  have hparse := (hok _ _).mpr hspells
  have hminus : parse "1:-2".toList = .error (.invalidNumber "1:-2".toList .invalidDigit) := by
    decide +kernel
  rw [hminus] at hparse
  simp at hparse

end Position

end MarkupEditor
