import Mathlib.Data.List.Nodup
import Mathlib.Data.List.Perm.Subperm
import Mathlib.Order.Bounds.Defs
import MarkupEditor.Options

/-!
# Validating options

An editor needs at least one command and lists each once. The check goes along the list and stops at
the first command that stands in front of it already. It passes exactly the lists without repetition,
and of several repetitions it reports the one that is complete first: the one whose second command is
the furthest to the front.
-/

namespace MarkupEditor.Options

/-- The command at the place also stands at an earlier one. -/
def RepeatedAt (commands : List Command) (place : Nat) : Prop :=
  ∃ command, commands[place]? = some command ∧ ∃ earlier < place, commands[earlier]? = some command

/-- The command stands at the first place that repeats an earlier one. -/
structure FirstRepeat (commands : List Command) (place : Nat) (command : Command) : Prop where
  least : IsLeast {place | RepeatedAt commands place} place
  read : commands[place]? = some command

section Repeats

variable {commands : List Command} {command : Command} {place : Nat}

theorem mem_take_iff :
    command ∈ commands.take place ↔ ∃ earlier < place, commands[earlier]? = some command := by
  simp only [List.mem_iff_getElem?, List.getElem?_take, Option.ite_none_right_eq_some]

theorem repeatedAt_iff (hread : commands[place]? = some command) :
    RepeatedAt commands place ↔ command ∈ commands.take place := by
  rw [mem_take_iff]
  simp [RepeatedAt, hread]

/-- A front of the list holds each command once exactly if no place in it repeats another. -/
theorem nodup_take_iff :
    (commands.take place).Nodup ↔ ∀ later < place, ¬RepeatedAt commands later := by
  rw [List.nodup_iff_getElem?_ne_getElem?]
  constructor
  · rintro hne later hlater ⟨command, hread, earlier, hearlier, hrepeat⟩
    have hbound : later < (commands.take place).length := by
      have hlength := (List.getElem?_eq_some_iff.mp hread).1
      rw [List.length_take]
      omega
    apply hne earlier later hearlier hbound
    rw [List.getElem?_take_of_lt (by omega), List.getElem?_take_of_lt hlater, hread, hrepeat]
  · intro hnone earlier later hearlier hbound hsame
    rw [List.length_take] at hbound
    have hlater : later < place := by omega
    rw [List.getElem?_take_of_lt (by omega), List.getElem?_take_of_lt hlater] at hsame
    have hread : commands[later]? = some commands[later] := List.getElem?_eq_getElem (by omega)
    exact hnone later hlater ⟨commands[later], hread, earlier, hearlier, hsame.trans hread⟩

theorem firstRepeat_iff :
    FirstRepeat commands place command ↔
      commands[place]? = some command ∧ command ∈ commands.take place ∧
        (commands.take place).Nodup := by
  constructor
  · rintro ⟨⟨hrepeated, hlower⟩, hread⟩
    refine ⟨hread, (repeatedAt_iff hread).mp hrepeated, nodup_take_iff.mpr ?_⟩
    intro later hlater hbefore
    exact absurd (hlower hbefore) (Nat.not_le.mpr hlater)
  · rintro ⟨hread, hmem, hnodup⟩
    refine ⟨⟨(repeatedAt_iff hread).mpr hmem, ?_⟩, hread⟩
    intro other hother
    by_contra hlt
    exact nodup_take_iff.mp hnodup other (Nat.not_le.mp hlt) hother

end Repeats

section Search

variable {commands seen rest : List Command} {command next : Command}

/-- A command that was seen in front ends the part without repetition. -/
theorem not_nodup_append_cons (hmem : next ∈ seen) : ¬(seen ++ next :: rest).Nodup := by
  rw [List.nodup_middle]
  intro hnodup
  exact hnodup.notMem (List.mem_append_left rest hmem)

theorem firstRepeated_cons_of_mem (hmem : next ∈ seen) :
    firstRepeated seen (next :: rest) = some next := by
  rw [firstRepeated, if_pos (List.contains_iff_mem.mpr hmem)]

theorem firstRepeated_cons_of_not_mem (hmem : next ∉ seen) :
    firstRepeated seen (next :: rest) = firstRepeated (seen ++ [next]) rest := by
  rw [firstRepeated, if_neg (mt List.contains_iff_mem.mp hmem)]

theorem firstRepeated_eq_none_iff (hseen : seen.Nodup) :
    firstRepeated seen rest = none ↔ (seen ++ rest).Nodup := by
  induction rest generalizing seen with
  | nil => simp [firstRepeated, hseen]
  | cons next rest ih =>
      by_cases hmem : next ∈ seen
      · simp [firstRepeated_cons_of_mem hmem, not_nodup_append_cons hmem]
      · have hnext : (seen ++ [next]).Nodup := List.concat_eq_append ▸ hseen.concat hmem
        rw [firstRepeated_cons_of_not_mem hmem, ih hnext, ← List.append_cons]

/-- The search stops at the first command that was seen in front. -/
theorem firstRepeated_eq_some_iff (hseen : seen.Nodup) :
    firstRepeated seen rest = some command ↔
      ∃ place, rest[place]? = some command ∧ command ∈ seen ++ rest.take place ∧
        (seen ++ rest.take place).Nodup := by
  -- What was seen grows as the list is gone along, and stays without repetition up to the stop.
  induction rest generalizing seen with
  | nil => simp [firstRepeated]
  | cons next rest ih =>
      by_cases hmem : next ∈ seen
      · rw [firstRepeated_cons_of_mem hmem]
        constructor
        · intro heq
          obtain rfl := Option.some.inj heq
          refine ⟨0, rfl, ?_⟩
          rw [List.take_zero, List.append_nil]
          exact ⟨hmem, hseen⟩
        · rintro ⟨place, hread, -, hnodup⟩
          cases place with
          | zero => exact hread
          | succ place => exact absurd hnodup (not_nodup_append_cons hmem)
      · have hnext : (seen ++ [next]).Nodup := List.concat_eq_append ▸ hseen.concat hmem
        have hgrown (place : Nat) : seen ++ (next :: rest).take (place + 1) =
            seen ++ [next] ++ rest.take place := by
          rw [List.take_succ_cons, List.append_cons]
        rw [firstRepeated_cons_of_not_mem hmem, ih hnext]
        constructor
        · rintro ⟨place, hread, hrepeat⟩
          refine ⟨place + 1, hread, ?_⟩
          rwa [hgrown]
        · rintro ⟨place, hread, hrepeat⟩
          cases place with
          | zero =>
              obtain rfl := Option.some.inj hread
              rw [List.take_zero, List.append_nil] at hrepeat
              exact absurd hrepeat.1 hmem
          | succ place =>
              rw [hgrown] at hrepeat
              exact ⟨place, hread, hrepeat⟩

theorem firstRepeated_nil_eq_none_iff : firstRepeated [] commands = none ↔ commands.Nodup :=
  firstRepeated_eq_none_iff List.nodup_nil

theorem firstRepeated_nil_eq_some_iff :
    firstRepeated [] commands = some command ↔ ∃ place, FirstRepeat commands place command := by
  simp only [firstRepeated_eq_some_iff List.nodup_nil, firstRepeat_iff, List.nil_append]

end Search

section Validation

variable {options : Options} {command : Command}

theorem length_le_of_nodup {commands : List Command} (hnodup : commands.Nodup) :
    commands.length ≤ 10 :=
  (hnodup.subperm fun command _ => command.mem_all).length_le

theorem validate_of_eq_nil (hnil : options.allowedCommands = []) :
    options.validate = .error .noCommands := by
  rw [validate, hnil]
  rfl

theorem validate_of_ne_nil (hne : options.allowedCommands ≠ []) :
    options.validate =
      match firstRepeated [] options.allowedCommands with
      | some command => .error (.duplicateCommand command)
      | none => .ok () := by
  unfold validate
  exact if_neg (mt List.isEmpty_iff.mp hne)

theorem validate_eq_noCommands_iff :
    options.validate = .error .noCommands ↔ options.allowedCommands = [] := by
  by_cases hnil : options.allowedCommands = []
  · simp [validate_of_eq_nil hnil, hnil]
  · rw [validate_of_ne_nil hnil]
    cases firstRepeated [] options.allowedCommands <;> simp [hnil]

theorem validate_eq_ok_iff :
    options.validate = .ok () ↔ options.allowedCommands ≠ [] ∧ options.allowedCommands.Nodup := by
  by_cases hnil : options.allowedCommands = []
  · simp [validate_of_eq_nil hnil, hnil]
  · rw [validate_of_ne_nil hnil, ← firstRepeated_nil_eq_none_iff]
    cases firstRepeated [] options.allowedCommands <;> simp [hnil]

theorem validate_eq_duplicateCommand_iff :
    options.validate = .error (.duplicateCommand command) ↔
      ∃ place, FirstRepeat options.allowedCommands place command := by
  by_cases hnil : options.allowedCommands = []
  · simp [validate_of_eq_nil hnil, firstRepeat_iff, hnil]
  · rw [validate_of_ne_nil hnil, ← firstRepeated_nil_eq_some_iff]
    cases firstRepeated [] options.allowedCommands <;> simp

end Validation

/-- **The first repetition is found.** The check refuses the empty list for having no commands and
passes the other lists without repetition, which have at most ten entries. A list with a repetition is
refused for the command at the first place that repeats an earlier one, and nothing in front of that
place is repeated. -/
theorem validate_finds_first_repeat (options : Options) :
    (options.validate = .error .noCommands ↔ options.allowedCommands = []) ∧
    (options.validate = .ok () ↔
      options.allowedCommands ≠ [] ∧ options.allowedCommands.Nodup) ∧
    (options.allowedCommands.Nodup → options.allowedCommands.length ≤ 10) ∧
    (∀ command, options.validate = .error (.duplicateCommand command) ↔
      ∃ place, FirstRepeat options.allowedCommands place command) ∧
    (¬options.allowedCommands.Nodup → ∃ place command,
      options.validate = .error (.duplicateCommand command) ∧
        FirstRepeat options.allowedCommands place command ∧
        (options.allowedCommands.take place).Nodup) := by
  refine ⟨validate_eq_noCommands_iff, validate_eq_ok_iff, length_le_of_nodup,
    fun _ => validate_eq_duplicateCommand_iff, ?_⟩
  intro hrepeats
  cases hfound : firstRepeated [] options.allowedCommands with
  | none => exact absurd (firstRepeated_nil_eq_none_iff.mp hfound) hrepeats
  | some command =>
      obtain ⟨place, hfirst⟩ := firstRepeated_nil_eq_some_iff.mp hfound
      exact ⟨place, command, validate_eq_duplicateCommand_iff.mpr ⟨place, hfirst⟩, hfirst,
        (firstRepeat_iff.mp hfirst).2.2⟩

/-- Two repetitions that overlap: the one that is complete first is not the one that begins first. -/
theorem validate_finds_first_repeat_overlapping :
    let commands : List Command := [.bold, .italic, .link, .italic, .bold]
    ¬commands.Nodup ∧
      ({ allowedCommands := commands } : Options).validate =
        .error (.duplicateCommand .italic) ∧
      ∃ place, FirstRepeat commands place .italic ∧ (commands.take place).Nodup := by
  intro commands
  have hrepeats : ¬commands.Nodup := by decide
  have hvalidate : ({ allowedCommands := commands } : Options).validate =
      .error (.duplicateCommand .italic) := by decide
  obtain ⟨-, -, -, -, hfinds⟩ := validate_finds_first_repeat { allowedCommands := commands }
  obtain ⟨place, command, hrefused, hfirst, hfront⟩ := hfinds hrepeats
  obtain rfl : command = .italic := by simpa [hvalidate] using hrefused.symm
  exact ⟨hrepeats, hvalidate, place, hfirst, hfront⟩

end MarkupEditor.Options
