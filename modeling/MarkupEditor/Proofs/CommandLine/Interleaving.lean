import Mathlib.Data.List.Basic
import MarkupEditor.CommandLine.Arguments

/-!
# Options anywhere

The arguments of a run are groups and words: an option with what belongs to it, or a positional
argument. Groups and words may be mixed in any way that keeps the order of either. Sorting takes one
group or one word at a time, and what it notes for a group does not depend on the words around it.
So the reading of the arguments is determined by the two rows that were mixed.
-/

namespace MarkupEditor.CommandLine

/-- An option with the arguments that belong to it. -/
inductive OptionGroup where
  | html
  | inPlace
  | config (path : Text)
  | unknown (option : Text) (hoption : isOption option = true)
      (hother : option ∉ ["--html".toList, "--in-place".toList, "--config".toList])
deriving DecidableEq

namespace OptionGroup

def written : OptionGroup → List Text
  | html => ["--html".toList]
  | inPlace => ["--in-place".toList]
  | config path => ["--config".toList, path]
  | unknown option _ _ => [option]

def path? : OptionGroup → Option Text
  | config path => some path
  | _ => none

def unknown? : OptionGroup → Option Text
  | unknown option _ _ => some option
  | _ => none

end OptionGroup

/-- The arguments are the groups and the words, each in their order. -/
inductive Interleaves : List OptionGroup → List Text → List Text → Prop
  | nil : Interleaves [] [] []
  | group {groups : List OptionGroup} {words arguments : List Text} (group : OptionGroup)
      (hrest : Interleaves groups words arguments) :
      Interleaves (group :: groups) words (group.written ++ arguments)
  | word {groups : List OptionGroup} {words arguments : List Text} {word : Text}
      (hword : isOption word = false) (hrest : Interleaves groups words arguments) :
      Interleaves groups (word :: words) (word :: arguments)

/-- What the groups and the words add to what has been sorted. -/
def Sorted.gather (sorted : Sorted) (groups : List OptionGroup) (words : List Text) : Sorted where
  config := (groups.filterMap OptionGroup.path?).getLast?.or sorted.config
  html := sorted.html || decide (.html ∈ groups)
  inPlace := sorted.inPlace || decide (.inPlace ∈ groups)
  positional := sorted.positional ++ words

section Sorting

variable {sorted : Sorted} {groups : List OptionGroup} {group : OptionGroup}
  {words arguments : List Text} {word : Text}

theorem ne_of_not_isOption {option : Text} (hword : isOption word = false)
    (hoption : isOption option = true) : word ≠ option := by
  rintro rfl
  rw [hword] at hoption
  contradiction

theorem sort_cons (sorted : Sorted) (argument : Text) (rest : List Text)
    (hconfig : argument ≠ "--config".toList) :
    sort sorted (argument :: rest) =
      if argument = "--html".toList then sort { sorted with html := true } rest
      else if argument = "--in-place".toList then sort { sorted with inPlace := true } rest
      else if isOption argument then .error (.unknownOption argument)
      else sort { sorted with positional := sorted.positional ++ [argument] } rest := by
  rw [sort.eq_def]
  exact if_neg hconfig

theorem sort_word (hword : isOption word = false) :
    sort sorted (word :: arguments) = sort (sorted.gather [] [word]) arguments := by
  rw [sort_cons _ _ _ (ne_of_not_isOption hword rfl), if_neg (ne_of_not_isOption hword rfl),
    if_neg (ne_of_not_isOption hword rfl), hword, if_neg Bool.false_ne_true]
  simp [Sorted.gather]

theorem sort_group :
    sort sorted (group.written ++ arguments) =
      match group.unknown? with
      | some option => .error (.unknownOption option)
      | none => sort (sorted.gather [group] []) arguments := by
  cases group with
  | html =>
      have hgather : sorted.gather [.html] [] = { sorted with html := true } := by
        simp [Sorted.gather, OptionGroup.path?]
      rw [hgather]
      exact (sort_cons _ _ _ (by decide)).trans (if_pos rfl)
  | inPlace =>
      have hgather : sorted.gather [.inPlace] [] = { sorted with inPlace := true } := by
        simp [Sorted.gather, OptionGroup.path?]
      rw [hgather]
      exact (sort_cons _ _ _ (by decide)).trans rfl
  | config path =>
      have hgather : sorted.gather [.config path] [] = { sorted with config := some path } := by
        simp [Sorted.gather, OptionGroup.path?]
      rw [hgather]
      exact (sort.eq_def _ _).trans (if_pos rfl)
  | unknown option hoption hother =>
      simp only [List.mem_cons, not_or] at hother
      obtain ⟨hhtml, hinPlace, hconfig, -⟩ := hother
      refine (sort_cons _ _ _ hconfig).trans ?_
      rw [if_neg hhtml, if_neg hinPlace, if_pos hoption]
      rfl

theorem gather_gather {more : List OptionGroup} {others : List Text} :
    (sorted.gather groups words).gather more others =
      sorted.gather (groups ++ more) (words ++ others) := by
  simp [Sorted.gather, Option.or_assoc, Bool.or_assoc, List.append_assoc]

theorem sort_of_interleaves (hinterleaves : Interleaves groups words arguments) :
    sort sorted arguments =
      match groups.findSome? OptionGroup.unknown? with
      | some option => .error (.unknownOption option)
      | none => .ok (sorted.gather groups words) := by
  -- The induction is on the mixture. Each step adds to what is sorted, so that stays general.
  induction hinterleaves generalizing sorted with
  | nil => simp [sort, Sorted.gather]
  | @group groups words arguments group hrest ih =>
      rw [sort_group, List.findSome?_cons]
      cases group.unknown? with
      | some option => rfl
      | none =>
          dsimp only
          rw [ih, gather_gather, List.singleton_append, List.nil_append]
  | @word groups words arguments word hword hrest ih =>
      rw [sort_word hword, ih, gather_gather]
      rfl

end Sorting

/-- The words name a file, and perhaps a request for it. -/
inductive Operands : List Text → Text → Option Request → Prop
  | file (file : Text) : Operands [file] file none
  | request {command anchor focus : Text} (file : Text) {request : Request}
      (hcommand : Command.parse command = .ok request.command)
      (hanchor : Position.parse anchor = .ok request.anchor)
      (hfocus : Position.parse focus = .ok request.focus) :
      Operands [file, command, anchor, focus] file (some request)

/-- The first fault of words that name neither a file nor a request. -/
inductive OperandFault : List Text → UsageError → Prop
  | wrongCount {words : List Text} (hone : words.length ≠ 1) (hfour : words.length ≠ 4) :
      OperandFault words .wrongCount
  | unknownCommand {file command anchor focus : Text} {error : UnknownCommand}
      (hcommand : Command.parse command = .error error) :
      OperandFault [file, command, anchor, focus] (.unknownCommand error)
  | badAnchor {file command anchor focus : Text} {name : Command} {error : PositionError}
      (hcommand : Command.parse command = .ok name)
      (hanchor : Position.parse anchor = .error error) :
      OperandFault [file, command, anchor, focus] (.badPosition error)
  | badFocus {file command anchor focus : Text} {name : Command} {position : Position}
      {error : PositionError} (hcommand : Command.parse command = .ok name)
      (hanchor : Position.parse anchor = .ok position)
      (hfocus : Position.parse focus = .error error) :
      OperandFault [file, command, anchor, focus] (.badPosition error)

section Reading

variable {words : List Text} {file : Text} {request : Option Request} {error : UsageError}

theorem readPositional_of_operands (hoperands : Operands words file request) :
    readPositional words = .ok (file, request) := by
  cases hoperands with
  | file => rfl
  | request file hcommand hanchor hfocus =>
      rw [readPositional, hcommand, hanchor, hfocus]
      rfl

theorem readPositional_of_operandFault (hfault : OperandFault words error) :
    readPositional words = .error error := by
  cases hfault with
  | wrongCount hone hfour =>
      unfold readPositional
      split
      · exact absurd rfl hone
      · exact absurd rfl hfour
      · rfl
  | unknownCommand hcommand =>
      rw [readPositional, hcommand]
      rfl
  | badAnchor hcommand hanchor =>
      rw [readPositional, hcommand, hanchor]
      rfl
  | badFocus hcommand hanchor hfocus =>
      rw [readPositional, hcommand, hanchor, hfocus]
      rfl

theorem operands_or_operandFault (words : List Text) :
    (∃ file request, Operands words file request) ∨ ∃ error, OperandFault words error := by
  match words with
  | [file] => exact .inl ⟨file, none, .file file⟩
  | [file, command, anchor, focus] =>
      cases hcommand : Command.parse command with
      | error error => exact .inr ⟨_, .unknownCommand hcommand⟩
      | ok name =>
          cases hanchor : Position.parse anchor with
          | error error => exact .inr ⟨_, .badAnchor hcommand hanchor⟩
          | ok start =>
              cases hfocus : Position.parse focus with
              | error error => exact .inr ⟨_, .badFocus hcommand hanchor hfocus⟩
              | ok stop =>
                  exact .inl ⟨file, some ⟨name, start, stop⟩, .request file hcommand hanchor hfocus⟩
  | [] | [_, _] | [_, _, _] | _ :: _ :: _ :: _ :: _ :: _ =>
      exact .inr ⟨.wrongCount, .wrongCount (by simp) (by simp)⟩

end Reading

/-- What groups and words say, so far as they say anything. -/
structure Denotes (groups : List OptionGroup) (words : List Text) (arguments : Arguments) :
    Prop where
  known : ∀ group ∈ groups, group.unknown? = none
  operands : Operands words arguments.file arguments.request
  inPlace_applies : .inPlace ∈ groups → arguments.request.isSome
  inPlace : arguments.inPlace = decide (.inPlace ∈ groups)
  html : arguments.html = decide (.html ∈ groups)
  config : arguments.config = (groups.filterMap OptionGroup.path?).getLast?

/-- The fault that groups and words are refused for. An unknown option comes before all else. -/
inductive UsageFault (groups : List OptionGroup) (words : List Text) : UsageError → Prop
  | unknownOption {option : Text}
      (hunknown : groups.findSome? OptionGroup.unknown? = some option) :
      UsageFault groups words (.unknownOption option)
  | operands {error : UsageError} (hknown : ∀ group ∈ groups, group.unknown? = none)
      (hfault : OperandFault words error) : UsageFault groups words error
  | nothingToApply (hknown : ∀ group ∈ groups, group.unknown? = none) {file : Text}
      (hfile : words = [file]) (hinPlace : .inPlace ∈ groups) :
      UsageFault groups words .nothingToApply

section Parsing

variable {groups : List OptionGroup} {words arguments : List Text} {result : Arguments}
  {error : UsageError}

theorem parse_of_unknown {option : Text} (hinterleaves : Interleaves groups words arguments)
    (hunknown : groups.findSome? OptionGroup.unknown? = some option) :
    parse arguments = .error (.unknownOption option) := by
  rw [parse, sort_of_interleaves hinterleaves, hunknown]
  rfl

theorem parse_of_known (hinterleaves : Interleaves groups words arguments)
    (hknown : ∀ group ∈ groups, group.unknown? = none) :
    parse arguments = do
      let (file, request) ← readPositional words
      if decide (.inPlace ∈ groups) && request.isNone then throw .nothingToApply
      return {
        config := (groups.filterMap OptionGroup.path?).getLast?
        html := decide (.html ∈ groups)
        inPlace := decide (.inPlace ∈ groups)
        file, request } := by
  rw [parse, sort_of_interleaves hinterleaves, List.findSome?_eq_none_iff.mpr hknown]
  simp only [Sorted.gather, Option.or_none, Bool.false_or, List.nil_append]
  rfl

theorem parse_of_denotes (hinterleaves : Interleaves groups words arguments)
    (hdenotes : Denotes groups words result) : parse arguments = .ok result := by
  obtain ⟨hknown, hoperands, happlies, hinPlace, hhtml, hconfig⟩ := hdenotes
  have hsome : (result.inPlace && result.request.isNone) = false := by
    rw [hinPlace, Bool.and_eq_false_imp, decide_eq_true_iff]
    exact fun hmem => Option.isNone_eq_false_iff.mpr (happlies hmem)
  rw [parse_of_known hinterleaves hknown, readPositional_of_operands hoperands, ← hconfig,
    ← hhtml, ← hinPlace]
  change (do
    if result.inPlace && result.request.isNone then throw .nothingToApply
    return result : Except UsageError Arguments) = .ok result
  rw [hsome]
  rfl

theorem parse_of_usageFault (hinterleaves : Interleaves groups words arguments)
    (hfault : UsageFault groups words error) : parse arguments = .error error := by
  cases hfault with
  | unknownOption hunknown => exact parse_of_unknown hinterleaves hunknown
  | operands hknown hfault =>
      rw [parse_of_known hinterleaves hknown, readPositional_of_operandFault hfault]
      rfl
  | nothingToApply hknown hfile hinPlace =>
      rw [parse_of_known hinterleaves hknown, hfile, decide_eq_true hinPlace]
      rfl

theorem denotes_or_usageFault (groups : List OptionGroup) (words : List Text) :
    (∃ result, Denotes groups words result) ∨ ∃ error, UsageFault groups words error := by
  cases hunknown : groups.findSome? OptionGroup.unknown? with
  | some option => exact .inr ⟨_, .unknownOption hunknown⟩
  | none =>
      have hknown := List.findSome?_eq_none_iff.mp hunknown
      obtain ⟨file, request, hoperands⟩ | ⟨error, hfault⟩ := operands_or_operandFault words
      · by_cases happlies : .inPlace ∈ groups → request.isSome
        · exact .inl ⟨⟨_, _, _, file, request⟩, hknown, hoperands, happlies, rfl, rfl, rfl⟩
        · obtain ⟨hinPlace, hnone⟩ := Classical.not_imp.mp happlies
          cases hoperands with
          | file => exact .inr ⟨_, .nothingToApply hknown rfl hinPlace⟩
          | request => exact absurd rfl hnone
      · exact .inr ⟨error, .operands hknown hfault⟩

theorem parse_eq_ok_iff (hinterleaves : Interleaves groups words arguments) :
    parse arguments = .ok result ↔ Denotes groups words result := by
  refine ⟨fun hparse => ?_, parse_of_denotes hinterleaves⟩
  obtain ⟨found, hdenotes⟩ | ⟨error, hfault⟩ := denotes_or_usageFault groups words
  · rw [parse_of_denotes hinterleaves hdenotes] at hparse
    cases hparse
    exact hdenotes
  · rw [parse_of_usageFault hinterleaves hfault] at hparse
    contradiction

theorem parse_eq_error_iff (hinterleaves : Interleaves groups words arguments) :
    parse arguments = .error error ↔ UsageFault groups words error := by
  refine ⟨fun hparse => ?_, parse_of_usageFault hinterleaves⟩
  obtain ⟨result, hdenotes⟩ | ⟨found, hfault⟩ := denotes_or_usageFault groups words
  · rw [parse_of_denotes hinterleaves hdenotes] at hparse
    contradiction
  · rw [parse_of_usageFault hinterleaves hfault] at hparse
    cases hparse
    exact hfault

theorem parse_eq_parse {others : List Text} (hinterleaves : Interleaves groups words arguments)
    (hothers : Interleaves groups words others) : parse others = parse arguments := by
  obtain ⟨result, hdenotes⟩ | ⟨error, hfault⟩ := denotes_or_usageFault groups words
  · rw [parse_of_denotes hothers hdenotes, parse_of_denotes hinterleaves hdenotes]
  · rw [parse_of_usageFault hothers hfault, parse_of_usageFault hinterleaves hfault]

theorem exists_denotes_iff :
    (∃ result, Denotes groups words result) ↔
      (∀ group ∈ groups, group.unknown? = none) ∧ (∃ file request, Operands words file request) ∧
        (.inPlace ∈ groups → words.length = 4) := by
  constructor
  · rintro ⟨⟨_, _, _, file, request⟩, hknown, hoperands, happlies, -, -, -⟩
    refine ⟨hknown, ⟨file, request, hoperands⟩, fun hinPlace => ?_⟩
    have hsome := happlies hinPlace
    cases hoperands with
    | file => contradiction
    | request => rfl
  · rintro ⟨hknown, ⟨file, request, hoperands⟩, hfour⟩
    refine ⟨⟨_, _, _, file, request⟩, hknown, hoperands, fun hinPlace => ?_, rfl, rfl, rfl⟩
    cases hoperands with
    | file => exact absurd (hfour hinPlace) (by simp)
    | request => rfl

end Parsing

/-- **Options stand anywhere.** Arguments that mix the same groups with the same words are read
alike. They are read exactly when no option is unknown, the words name a file and perhaps a request,
and `--in-place` comes only with a request. What is read tells which options there are, takes the
last of the paths, and has the first word for its file. Otherwise the first unknown option is
reported, and without one the fault of the words. -/
theorem parse_interleaved {groups : List OptionGroup} {words arguments : List Text}
    (hinterleaves : Interleaves groups words arguments) :
    (∀ others, Interleaves groups words others → parse others = parse arguments) ∧
    ((∃ result, parse arguments = .ok result) ↔
      (∀ group ∈ groups, group.unknown? = none) ∧ (∃ file request, Operands words file request) ∧
        (.inPlace ∈ groups → words.length = 4)) ∧
    (∀ result, parse arguments = .ok result ↔ Denotes groups words result) ∧
    ∀ error, parse arguments = .error error ↔ UsageFault groups words error := by
  refine ⟨fun _ => parse_eq_parse hinterleaves, ?_, fun _ => parse_eq_ok_iff hinterleaves,
    fun _ => parse_eq_error_iff hinterleaves⟩
  simp only [parse_eq_ok_iff hinterleaves]
  exact exists_denotes_iff

/-- The later path is taken, although it looks like an option, and no HTML is asked for. -/
theorem parse_interleaved_paths :
    let mixed := ["notes.md".toList, "--config".toList, "a.toml".toList, "bold".toList,
      "--in-place".toList, "0:1".toList, "--config".toList, "--html".toList, "0:3".toList]
    let sorted := ["--config".toList, "a.toml".toList, "--in-place".toList, "--config".toList,
      "--html".toList, "notes.md".toList, "bold".toList, "0:1".toList, "0:3".toList]
    parse sorted = parse mixed ∧
      parse mixed = .ok
        { config := some "--html".toList, html := false, inPlace := true,
          file := "notes.md".toList, request := some ⟨.bold, ⟨0, 1⟩, ⟨0, 3⟩⟩ } := by
  intro mixed sorted
  have hmixed : Interleaves [.config "a.toml".toList, .inPlace, .config "--html".toList]
      ["notes.md".toList, "bold".toList, "0:1".toList, "0:3".toList] mixed :=
    .word rfl <| .group (.config _) <| .word rfl <| .group .inPlace <| .word rfl <|
      .group (.config _) <| .word rfl .nil
  have hsorted : Interleaves [.config "a.toml".toList, .inPlace, .config "--html".toList]
      ["notes.md".toList, "bold".toList, "0:1".toList, "0:3".toList] sorted :=
    .group (.config _) <| .group .inPlace <| .group (.config _) <| .word rfl <| .word rfl <|
      .word rfl <| .word rfl .nil
  obtain ⟨hsame, -, hok, -⟩ := parse_interleaved hmixed
  refine ⟨hsame sorted hsorted, (hok _).mpr ⟨?_, ?_, ?_, ?_, ?_, ?_⟩⟩
  · decide
  · exact .request _ rfl rfl rfl
  · decide
  · decide
  · decide
  · decide

end MarkupEditor.CommandLine
