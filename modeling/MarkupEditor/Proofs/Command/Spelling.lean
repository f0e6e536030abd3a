import Mathlib.Data.List.Forall2
import MarkupEditor.Command.Name
import MarkupEditor.Proofs.Character.Lowercase

/-!
# Spellings of command names

A name is read by what is left of it without separators and in lower case. The commands are told
apart by their names in this form, so a name is read as one command or as none. Put letter by letter,
a name spells a command if its letters are those of the command in either case, and the Kelvin sign
counts as a `k`. How the letters are set apart and which case they have makes no difference.
-/

namespace MarkupEditor.Command

open Character

def separators : Text :=
  ['-', '_', ' ']

/-- The characters of a name that count. -/
def letters (name : Text) : Text :=
  name.filter (· ∉ separators)

/-- Without separators and in lower case, the name is that of the command without hyphens and in lower
case. -/
def Spells (name : Text) (command : Command) : Prop :=
  (letters name).flatMap lowercase = (command.name.filter (· ≠ '-')).flatMap lowercase

instance (name : Text) (command : Command) : Decidable (Spells name command) :=
  inferInstanceAs (Decidable (_ = _))

/-- The second name is the first one with separators put in or taken out, and with letters of ASCII in
the other case. -/
inductive Respelled : Text → Text → Prop
  | nil : Respelled [] []
  | insert {c : Char} {name other : Text} (hc : c ∈ separators) (hrest : Respelled name other) :
      Respelled name (c :: other)
  | remove {c : Char} {name other : Text} (hc : c ∈ separators) (hrest : Respelled name other) :
      Respelled (c :: name) other
  | recase {c d : Char} {name other : Text} (hcase : c.toLower = d.toLower)
      (hrest : Respelled name other) : Respelled (c :: name) (d :: other)

section Names

variable {name other word : Text} {first second command : Command} {c d : Char}

theorem ascii_of_mem_name {c : Char} (hc : c ∈ command.name) : c.toNat < 0x80 := by
  have hnames : ∀ command ∈ all, command.name.all (·.toNat < 0x80) = true := by decide
  exact of_decide_eq_true (List.all_eq_true.mp (hnames command (mem_all command)) c hc)

theorem plainName_inj (hnames : first.plainName.map Char.toLower = second.plainName.map Char.toLower) :
    first = second := by
  have hall : ∀ first ∈ all, ∀ second ∈ all,
      first.plainName.map Char.toLower = second.plainName.map Char.toLower → first = second := by
    decide
  exact hall first (mem_all first) second (mem_all second) hnames

theorem flatMap_lowercase_of_ascii (hword : ∀ c ∈ word, c.toNat < 0x80) :
    word.flatMap lowercase = word.map Char.toLower := by
  calc word.flatMap lowercase
      = word.flatMap fun c => [c.toLower] :=
        List.flatMap_congr fun c hc => lowercase_of_ascii (hword c hc)
    _ = word.map Char.toLower := List.map_eq_flatMap.symm

theorem foldName_eq (name : Text) : foldName name = (letters name).flatMap lowercase := by
  simp [foldName, letters, separators, beq_eq_decide, Bool.and_assoc]

theorem plainName_eq (command : Command) :
    command.plainName = command.name.filter (· ≠ '-') := by
  simp [plainName, bne, beq_eq_decide]

theorem ascii_of_mem_plainName (hc : c ∈ command.plainName) : c.toNat < 0x80 :=
  ascii_of_mem_name (List.mem_of_mem_filter hc)

theorem spells_iff : Spells name command ↔ foldName name = command.plainName.map Char.toLower := by
  rw [foldName_eq, ← flatMap_lowercase_of_ascii fun _ => ascii_of_mem_plainName, plainName_eq]
  exact Iff.rfl

/-- What a name comes down to is compared in any case, but it has none but lower case. -/
theorem equalsIgnoringCase_foldName :
    command.plainName.equalsIgnoringCase (foldName name) = true ↔ Spells name command := by
  have hlower : ∀ c ∈ foldName name, c.toLower = c := by
    intro c hc
    rw [foldName_eq] at hc
    obtain ⟨d, -, hd⟩ := List.mem_flatMap.mp hc
    exact toLower_of_mem_lowercase hd
  have hkept : (foldName name).map Char.toLower = foldName name :=
    (List.map_congr_left hlower).trans (List.map_id _)
  rw [Text.equalsIgnoringCase, beq_iff_eq, hkept, spells_iff, eq_comm]

theorem Spells.unique (hfirst : Spells name first) (hsecond : Spells name second) :
    first = second := by
  apply plainName_inj
  rw [← spells_iff.mp hfirst, ← spells_iff.mp hsecond]

end Names

section Parsing

variable {name other : Text} {command : Command} {error : UnknownCommand} {c d : Char}

theorem find?_of_spells (hspells : Spells name command) :
    (all.find? fun command => command.plainName.equalsIgnoringCase (foldName name)) =
      some command := by
  cases hfind : all.find? fun command => command.plainName.equalsIgnoringCase (foldName name) with
  | none =>
      have hrefused := List.find?_eq_none.mp hfind command (mem_all command)
      exact absurd (equalsIgnoringCase_foldName.mpr hspells) hrefused
  | some found =>
      have haccepted := List.find?_some hfind
      rw [(equalsIgnoringCase_foldName.mp haccepted).unique hspells]

theorem parse_of_spells (hspells : Spells name command) : parse name = .ok command := by
  rw [parse, find?_of_spells hspells]

theorem parse_of_not_spells (hnone : ∀ command, ¬Spells name command) :
    parse name = .error ⟨name⟩ := by
  have hfind : (all.find? fun command => command.plainName.equalsIgnoringCase (foldName name)) =
      none :=
    List.find?_eq_none.mpr fun command _ => mt equalsIgnoringCase_foldName.mp (hnone command)
  rw [parse, hfind]

theorem parse_eq_ok_iff : parse name = .ok command ↔ Spells name command := by
  refine ⟨?_, parse_of_spells⟩
  intro hparse
  by_cases hspells : ∃ found, Spells name found
  · obtain ⟨found, hfound⟩ := hspells
    rw [parse_of_spells hfound] at hparse
    exact Except.ok.inj hparse ▸ hfound
  · rw [parse_of_not_spells (not_exists.mp hspells)] at hparse
    cases hparse

theorem parse_eq_error_iff :
    parse name = .error error ↔ (∀ command, ¬Spells name command) ∧ error = ⟨name⟩ := by
  constructor
  · intro hparse
    have hnone : ∀ command, ¬Spells name command := by
      intro command hspells
      rw [parse_of_spells hspells] at hparse
      cases hparse
    rw [parse_of_not_spells hnone] at hparse
    exact ⟨hnone, (Except.error.inj hparse).symm⟩
  · rintro ⟨hnone, rfl⟩
    exact parse_of_not_spells hnone

end Parsing

section Respelling

variable {name other : Text} {c d : Char}

theorem toNat_of_mem_separators (hc : c ∈ separators) :
    c.toNat < 0x41 ∨ 0x5A < c.toNat ∧ c.toNat < 0x61 := by
  have hchars : c = '-' ∨ c = '_' ∨ c = ' ' := by simpa [separators] using hc
  rcases hchars with rfl | rfl | rfl <;> decide

/-- No letter is a separator, in either case. -/
theorem toLower_mem_separators_iff : c.toLower ∈ separators ↔ c ∈ separators := by
  by_cases hc : 0x41 ≤ c.toNat ∧ c.toNat ≤ 0x5A
  · have hlower : c.toLower.toNat = c.toNat + 0x20 := (toNat_toLower c).trans (if_pos hc)
    refine iff_of_false ?_ ?_
    · intro hmem
      have hbounds := toNat_of_mem_separators hmem
      omega
    · intro hmem
      have hbounds := toNat_of_mem_separators hmem
      omega
  · rw [toLower_of_not_capital hc]

theorem foldName_cons (c : Char) (name : Text) :
    foldName (c :: name) = (if c ∈ separators then [] else lowercase c) ++ foldName name := by
  rw [foldName_eq, foldName_eq, letters, letters, List.filter_cons]
  by_cases hc : c ∈ separators <;> simp [hc]

theorem Respelled.foldName_eq (hrespelled : Respelled name other) :
    foldName other = foldName name := by
  induction hrespelled with
  | nil => rfl
  | insert hc _ ih => rw [foldName_cons, if_pos hc, List.nil_append, ih]
  | remove hc _ ih => rw [foldName_cons, if_pos hc, List.nil_append, ih]
  | @recase c d _ _ hcase _ ih =>
      have hmem : c ∈ separators ↔ d ∈ separators := by
        rw [← toLower_mem_separators_iff, hcase, toLower_mem_separators_iff]
      simp only [foldName_cons, ih, lowercase_congr hcase, hmem]

/-- Which command a name is read as depends only on what it comes down to. -/
theorem Respelled.toOption_parse (hrespelled : Respelled name other) :
    (parse other).toOption = (parse name).toOption := by
  unfold parse
  rw [hrespelled.foldName_eq]
  cases all.find? fun command => command.plainName.equalsIgnoringCase (foldName name) <;> rfl

end Respelling

/-! ### Letter by letter -/

section Letters

variable {text word name other : Text} {command : Command}

theorem flatMap_lowercase_eq_iff (hword : ∀ c ∈ word, c.toNat < 0x80) :
    text.flatMap lowercase = word.flatMap lowercase ↔ List.Forall₂ SameLetter text word := by
  induction text generalizing word with
  | nil =>
      cases word with
      | nil => simp
      | cons letter rest => simp [lowercase_ne_nil]
  | cons c text ih =>
      cases word with
      | nil => simp [lowercase_ne_nil]
      | cons letter rest =>
          -- A character may become two, but then the second would have to be a letter of the word.
          obtain ⟨hletter, hrest⟩ := List.forall_mem_cons.mp hword
          have hlowered : ∀ d ∈ rest.flatMap lowercase, d.toNat < 0x80 := by
            rw [flatMap_lowercase_of_ascii hrest]
            intro d hd
            obtain ⟨e, he, rfl⟩ := List.mem_map.mp hd
            exact toNat_toLower_lt (hrest e he)
          rw [List.forall₂_cons, ← lowercase_eq_iff hletter, ← ih hrest, List.flatMap_cons,
            List.flatMap_cons, lowercase_of_ascii hletter, List.singleton_append]
          constructor
          · intro happend
            have hhead := lowercase_eq_of_append hlowered happend
            rw [hhead, List.singleton_append] at happend
            exact ⟨hhead, (List.cons.inj happend).2⟩
          · rintro ⟨hhead, htail⟩
            rw [hhead, htail, List.singleton_append]

theorem spells_iff_forall₂ :
    Spells name command ↔
      List.Forall₂ SameLetter (letters name) (command.name.filter (· ≠ '-')) :=
  flatMap_lowercase_eq_iff fun _ hc => ascii_of_mem_name (List.mem_of_mem_filter hc)

end Letters

/-- **Names are read up to case and separators.** A name is read as the command that it spells, which
is one at most, and if there is none the error carries the name. Spelling goes letter by letter.
Putting in or taking out separators and changing the case of letters, anywhere and any number of times,
makes no difference to which command is read. -/
theorem parse_up_to_spelling (name : Text) :
    (∀ command, parse name = .ok command ↔ Spells name command) ∧
    (∀ first second, Spells name first → Spells name second → first = second) ∧
    (∀ error, parse name = .error error ↔ (∀ command, ¬Spells name command) ∧ error = ⟨name⟩) ∧
    (∀ command, Spells name command ↔
      List.Forall₂ SameLetter (letters name) (command.name.filter (· ≠ '-'))) ∧
    ∀ other, Respelled name other → (parse other).toOption = (parse name).toOption :=
  ⟨fun _ => parse_eq_ok_iff, fun _ _ => Spells.unique, fun _ => parse_eq_error_iff,
    fun _ => spells_iff_forall₂, fun _ => Respelled.toOption_parse⟩

/-- The Kelvin sign is read as a letter, also where a separator stands in front of it. -/
theorem parse_up_to_spelling_kelvin :
    parse "LIN\u212A".toList = .ok .link ∧
      Respelled "LIN\u212A".toList "Lin_\u212A".toList ∧
      (parse "Lin_\u212A".toList).toOption = some .link := by
  obtain ⟨hok, -, -, -, hrespelled⟩ := parse_up_to_spelling "LIN\u212A".toList
  have hother : Respelled "LIN\u212A".toList "Lin_\u212A".toList :=
    .recase rfl (.recase rfl (.recase rfl (.insert (by decide) (.recase rfl .nil))))
  have hparse := (hok .link).mpr (by decide)
  refine ⟨hparse, hother, ?_⟩
  rw [hrespelled _ hother, hparse]
  rfl

/-- The dotted capital I is not read as a letter. -/
example : parse "l\u0130nk".toList = .error ⟨"l\u0130nk".toList⟩ := by
  decide +kernel

end MarkupEditor.Command
