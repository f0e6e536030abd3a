import MarkupEditor.Proofs.Session.Selection

/-!
# Histories of a session

What a host sees of a run is its history, the operations with the replies to them. Whether anything
is selected can be told from the history alone: of the events that decide it, only the latest
counts, and something is selected exactly if that is a select that was accepted. So the history
tells in advance which commands, copies and pastes go through.
-/

namespace MarkupEditor

/-- An operation and the reply to it. -/
structure Event where
  operation : Operation
  reply : Reply
deriving DecidableEq, Repr

/-- The reply tells of an edit or a copy that did not go through. -/
def Reply.isFailure : Reply → Bool
  | .unchanged | .refused _ => true
  | .selected _ | .cleared | .patched _ | .copied _ => false

namespace Event

/-- The event decides whether anything is selected behind it: a select does, accepted or not, and so
does whatever drops the selection. -/
def decides : Event → Bool
  | ⟨.select _ _, _⟩ | ⟨.clearSelection, _⟩ | ⟨.reset, _⟩ => true
  | ⟨.apply _, .patched _⟩ | ⟨.ingest _, .patched _⟩ => true
  | _ => false

/-- A command that had an effect. -/
def isApplied : Event → Bool
  | ⟨.apply _, .patched _⟩ => true
  | _ => false

theorem eq_of_isApplied {event : Event} (happlied : event.isApplied = true) :
    ∃ command patch, event = ⟨.apply command, .patched patch⟩ := by
  unfold isApplied at happlied
  split at happlied
  · exact ⟨_, _, rfl⟩
  · contradiction

end Event

/-- The latest event that decides it is a select that was accepted. -/
def Armed (events : List Event) : Prop :=
  (events.filter Event.decides).getLast?.map Event.reply = some (.selected true)

instance (events : List Event) : Decidable (Armed events) :=
  inferInstanceAs (Decidable (_ = _))

section Armed

variable {events before between : List Event} {event : Event}

theorem armed_concat_of_decides (hdecides : event.decides = true) :
    Armed (events ++ [event]) ↔ event.reply = .selected true := by
  simp [Armed, List.filter_append, hdecides]

theorem armed_concat_of_not_decides (hdecides : event.decides = false) :
    Armed (events ++ [event]) ↔ Armed events := by
  simp [Armed, List.filter_append, hdecides]

/-- Behind a decision against it, only an accepted select arms a run again. -/
theorem exists_selected_of_armed (hdecides : event.decides = true)
    (hreply : event.reply ≠ .selected true) (harmed : Armed (before ++ event :: between)) :
    ∃ later ∈ between, later.reply = .selected true := by
  rw [Armed, List.filter_append, List.filter_cons_of_pos hdecides, List.getLast?_append,
    List.getLast?_cons, Option.some_or, Option.map_some, Option.some_inj] at harmed
  cases hlast : (between.filter Event.decides).getLast? with
  | none =>
      rw [hlast, Option.getD_none] at harmed
      exact absurd harmed hreply
  | some later =>
      rw [hlast, Option.getD_some] at harmed
      exact ⟨later, (List.mem_filter.mp (List.mem_of_getLast? hlast)).1, harmed⟩

end Armed

namespace Session

/-- The operations of a run with the replies to them. -/
def history (session : Session) : List Operation → List Event
  | [] => []
  | operation :: operations =>
    ⟨operation, (session.perform operation).1⟩ ::
      (session.perform operation).2.history operations

section History

variable {session next : Session} {operation : Operation} {reply : Reply} {events : List Event}

/-- An event of a run is the reply of the session that the operations before it lead to. -/
theorem exists_of_history_eq {operations : List Operation} {before after : List Event}
    {event : Event} (hhistory : session.history operations = before ++ event :: after) :
    ∃ earlier, session.history earlier = before ∧
      event = ⟨event.operation, ((session.performAll earlier).perform event.operation).1⟩ := by
  induction before generalizing session operations with
  | nil =>
      cases operations with
      | nil => simp [history] at hhistory
      | cons operation operations =>
          rw [history, List.nil_append] at hhistory
          obtain ⟨rfl, -⟩ := List.cons.inj hhistory
          exact ⟨[], rfl, rfl⟩
  | cons first before ih =>
      cases operations with
      | nil => simp [history] at hhistory
      | cons operation operations =>
          rw [history, List.cons_append] at hhistory
          obtain ⟨rfl, hrest⟩ := List.cons.inj hhistory
          obtain ⟨earlier, rfl, hevent⟩ := ih hrest
          exact ⟨operation :: earlier, rfl, hevent⟩

/-- Every event that decides whether anything is selected tells what it has decided, and the others
leave the selection as it is. -/
theorem selection_of_step (hstep : session.Step operation reply next) :
    if (Event.mk operation reply).decides then (next.selection.isSome ↔ reply = .selected true)
    else next.selection = session.selection := by
  cases hstep with
  | select anchor focus => simp [Event.decides, select]
  | clearSelection => simp [Event.decides, clearSelection]
  | apply hallows hselection hformat => simp [Event.decides]
  | ingest hlines => simp [Event.decides, selection_replace]
  | reset => simp [Event.decides, reset, selection_replace]
  | unchanged | paste | copy | ingestRefused | pasteDisabled | pasteNowhere | copyDisabled
  | copyNothing => rfl

/-- A failure, a copy or a paste does not decide anything. -/
theorem not_decides_of_step (hstep : session.Step operation reply next)
    (hkeeps : reply.isFailure = true ∨ operation = .copy ∨ ∃ text, operation = .paste text) :
    (Event.mk operation reply).decides = false := by
  cases hstep with
  | unchanged | paste | copy | ingestRefused | pasteDisabled | pasteNowhere | copyDisabled
  | copyNothing => rfl
  | select | clearSelection | apply | ingest | reset => simp [Reply.isFailure] at hkeeps

/-- A command has an effect only if something is selected. -/
theorem isSome_selection_of_isApplied
    (happlied : (Event.mk operation (session.perform operation).1).isApplied = true) :
    session.selection.isSome := by
  obtain ⟨command, patch, hevent⟩ := Event.eq_of_isApplied happlied
  obtain ⟨rfl, hreply⟩ := Event.mk.inj hevent
  have hstep := session.step_perform (.apply command)
  rw [hreply] at hstep
  generalize (session.perform (.apply command)).2 = next at hstep
  cases hstep with
  | apply hallows hselection hformat => rw [hselection, Option.isSome_some]

theorem armed_iff_of_step (hstep : session.Step operation reply next)
    (harmed : Armed events ↔ session.selection.isSome) :
    Armed (events ++ [⟨operation, reply⟩]) ↔ next.selection.isSome := by
  have hselection := selection_of_step hstep
  cases hdecides : (Event.mk operation reply).decides with
  | true =>
      rw [hdecides, if_pos rfl] at hselection
      rw [armed_concat_of_decides hdecides, hselection]
  | false =>
      rw [hdecides, if_neg Bool.false_ne_true] at hselection
      rw [armed_concat_of_not_decides hdecides, hselection, harmed]

theorem armed_append_history (harmed : Armed events ↔ session.selection.isSome)
    (operations : List Operation) :
    Armed (events ++ session.history operations) ↔
      (session.performAll operations).selection.isSome := by
  induction operations generalizing session events with
  | nil => rwa [history, List.append_nil]
  | cons operation operations ih =>
      have hstep := ih (armed_iff_of_step (session.step_perform operation) harmed)
      rwa [List.append_assoc, List.singleton_append] at hstep

/-- The history of a run tells whether anything is selected. -/
theorem armed_history_iff (text : Text) (options : Options) (operations : List Operation) :
    Armed ((start text options).history operations) ↔
      ((start text options).performAll operations).selection.isSome := by
  have hnothing : Armed [] ↔ (start text options).selection.isSome := by
    simp [Armed, start]
  have harmed := armed_append_history hnothing operations
  rwa [List.nil_append] at harmed

end History

section Outcomes

variable {session : Session}

theorem options_of_step {operation : Operation} {reply : Reply} {next : Session}
    (hstep : session.Step operation reply next) : next.options = session.options := by
  cases hstep <;> rfl

theorem options_performAll (session : Session) (operations : List Operation) :
    (session.performAll operations).options = session.options := by
  induction operations generalizing session with
  | nil => rfl
  | cons operation operations ih =>
      calc (session.performAll (operation :: operations)).options
          = (session.perform operation).2.options := ih _
        _ = session.options := options_of_step (session.step_perform operation)

theorem isSome_apply_iff (hcurrent : session.Current) (command : Command) :
    (session.apply command).isSome ↔
      command ∈ session.options.allowedCommands ∧ session.selection.isSome := by
  rw [← Option.ne_none_iff_isSome, Ne, apply_eq_none_iff hcurrent, not_or,
    Decidable.not_not, ← Ne, Option.ne_none_iff_isSome]

/-- With the clipboard on, copies and pastes go through exactly if something is selected. -/
theorem copy_and_paste_of_enabled (hclipboard : session.options.clipboardEnabled = true) :
    (session.selection.isSome →
      (∃ copied, session.copy = .ok copied) ∧ ∀ text, ∃ result, session.paste text = .ok result) ∧
    (¬session.selection.isSome →
      session.copy = .error .noSelection ∧ ∀ text, session.paste text = .error .noSelection) := by
  constructor
  · intro hsome
    obtain ⟨selection, hselection⟩ := Option.isSome_iff_exists.mp hsome
    refine ⟨⟨selection.rawText, ?_⟩, fun text => ⟨_, paste_of_selection hclipboard hselection text⟩⟩
    simp [copy, hclipboard, hselection]
  · intro hnone
    rw [Option.not_isSome_iff_eq_none] at hnone
    constructor
    · simp [copy, hclipboard, hnone]
    · intro text
      simp [paste_eq_ite, hclipboard, hnone]

theorem copy_and_paste_of_disabled (hclipboard : session.options.clipboardEnabled = false) :
    session.copy = .error .copyDisabled ∧
      ∀ text, session.paste text = .error (.pasteDisabled text.byteLength) := by
  constructor
  · simp [copy, hclipboard]
  · intro text
    simp [paste_eq_ite, hclipboard]

/-- **Selections are used once.** At every point of a run that a host can make, a command has an
effect exactly if it is allowed and the run is armed, and with the clipboard on, copies and pastes
go through exactly if it is armed. Between two commands with an effect there is an accepted select.
Failures, copies and pastes leave a run as armed as it was. -/
theorem oneShot_selections (text : Text) (options : Options) (operations : List Operation) :
    let opened := start text options
    let session := opened.performAll operations
    let events := opened.history operations
    (∀ command, (session.apply command).isSome ↔
      command ∈ options.allowedCommands ∧ Armed events) ∧
    (options.clipboardEnabled = true →
      (Armed events → (∃ copied, session.copy = .ok copied) ∧
        ∀ given, ∃ result, session.paste given = .ok result) ∧
      (¬Armed events → session.copy = .error .noSelection ∧
        ∀ given, session.paste given = .error .noSelection)) ∧
    (options.clipboardEnabled = false →
      session.copy = .error .copyDisabled ∧
        ∀ given, session.paste given = .error (.pasteDisabled given.byteLength)) ∧
    (∀ before first between second after,
      events = before ++ first :: between ++ second :: after →
        first.isApplied = true → second.isApplied = true →
          ∃ event ∈ between, event.reply = .selected true) ∧
    (∀ operation reply next, session.perform operation = (reply, next) →
      reply.isFailure = true ∨ operation = .copy ∨ (∃ given, operation = .paste given) →
        (Armed (events ++ [⟨operation, reply⟩]) ↔ Armed events)) := by
  intro opened session events
  have harmed : Armed events ↔ session.selection.isSome := armed_history_iff text options operations
  have hoptions : session.options = options := options_performAll opened operations
  refine ⟨?_, ?_, ?_, ?_, ?_⟩
  · intro command
    rw [isSome_apply_iff (current_of_start text options operations), harmed, hoptions]
  · intro hclipboard
    rw [harmed]
    exact copy_and_paste_of_enabled (hoptions ▸ hclipboard)
  · intro hclipboard
    exact copy_and_paste_of_disabled (hoptions ▸ hclipboard)
  · intro before first between second after hevents hfirst hsecond
    obtain ⟨earlier, hearlier, hreply⟩ := exists_of_history_eq hevents
    have harmed : Armed (before ++ first :: between) := by
      rw [← hearlier, armed_history_iff]
      exact isSome_selection_of_isApplied (hreply ▸ hsecond)
    obtain ⟨command, patch, rfl⟩ := Event.eq_of_isApplied hfirst
    exact exists_selected_of_armed rfl (by simp) harmed
  · intro operation reply next hperform hkeeps
    have hstep := session.step_perform operation
    rw [hperform] at hstep
    exact armed_concat_of_not_decides (not_decides_of_step hstep hkeeps)

/-- A paste leaves the selection to the first command, the second one needs its own, and then
nothing is selected. Without the clipboard the same selection is there but cannot be copied. -/
theorem oneShot_selections_of_two_commands :
    let opened := start "ab".toList { clipboardEnabled := true }
    let selecting : List Operation := [.select ⟨0, 0⟩ ⟨0, 1⟩, .paste "c".toList]
    let operations := selecting ++ [.apply .bold, .select ⟨1, 0⟩ ⟨1, 1⟩, .apply .italic]
    (∃ copied, (opened.performAll selecting).copy = .ok copied) ∧
      (∀ command, ((opened.performAll operations).apply command).isSome = false) ∧
      (opened.performAll operations).copy = .error .noSelection ∧
      (∃ event ∈ [Event.mk (.select ⟨1, 0⟩ ⟨1, 1⟩) (.selected true)],
        event.reply = .selected true) ∧
      ((start "ab".toList {}).performAll selecting).copy = .error .copyDisabled := by
  intro opened selecting operations
  have harmed : Armed (opened.history selecting) := by decide
  have hdisarmed : ¬Armed (opened.history operations) := by decide
  have hevents : opened.history operations = opened.history selecting ++
      ⟨.apply .bold, .patched ⟨⟨0, 1⟩, 2⟩⟩ ::
        [⟨.select ⟨1, 0⟩ ⟨1, 1⟩, .selected true⟩] ++
          ⟨.apply .italic, .patched ⟨⟨1, 2⟩, 3⟩⟩ :: [] := by decide
  obtain ⟨-, honSelecting, -⟩ :=
    oneShot_selections "ab".toList { clipboardEnabled := true } selecting
  obtain ⟨happly, honEnd, -, hbetween, -⟩ :=
    oneShot_selections "ab".toList { clipboardEnabled := true } operations
  obtain ⟨-, -, hoff, -, -⟩ := oneShot_selections "ab".toList {} selecting
  refine ⟨((honSelecting rfl).1 harmed).1, ?_, ((honEnd rfl).2 hdisarmed).1,
    hbetween _ _ _ _ _ hevents rfl rfl, (hoff rfl).1⟩
  intro command
  rw [← Bool.not_eq_true, happly command]
  exact fun hallowed => hdisarmed hallowed.2

end Outcomes

end Session

end MarkupEditor
