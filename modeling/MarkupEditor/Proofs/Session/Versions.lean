import MarkupEditor.Proofs.Session.Edits
import MarkupEditor.Proofs.Session.History

/-!
# Versions

The version of a document counts its changes. An edit that goes through raises it by one and reports
the raised version in its patch; everything else leaves the document as it is, and an edit that
fails leaves the whole session as it is. So the versions that a host is given along a run are
consecutive, and a gap means a lost reply.
-/

namespace MarkupEditor

/-- An operation that has changed the document: a command, a text taken over or a paste that went
through, or a reset. -/
def Event.changes : Event → Bool
  | ⟨.apply _, .patched _⟩ | ⟨.ingest _, .patched _⟩ | ⟨.paste _, .patched _⟩ | ⟨.reset, _⟩ => true
  | _ => false

theorem Document.Evolves.version_eq {doc next : Document} {patch? : Option Patch}
    (hevolves : doc.Evolves patch? next) :
    next.version = doc.version + patch?.toList.length ∧
      ∀ patch ∈ patch?, patch.version = doc.version + 1 := by
  cases hevolves with
  | kept => simp
  | edited hedited => simp [hedited.next_eq, hedited.patch_eq, ofTexts]

namespace Session

section Step

variable {session next : Session} {operation : Operation} {reply : Reply}

/-- Exactly the operations that change the document are replied to by a patch. -/
theorem isSome_patch?_of_step (hstep : session.Step operation reply next) :
    reply.patch?.isSome = (Event.mk operation reply).changes := by
  cases hstep <;> rfl

theorem eq_of_step_of_isFailure (hstep : session.Step operation reply next)
    (hfailure : reply.isFailure = true) : next = session := by
  cases hstep with
  | unchanged | ingestRefused | pasteDisabled | pasteNowhere | copyDisabled | copyNothing => rfl
  | select | clearSelection | apply | ingest | paste | copy | reset =>
      simp [Reply.isFailure] at hfailure

/-- A rejected select drops the selection and nothing else. -/
theorem eq_of_step_of_rejected (hstep : session.Step operation (.selected false) next) :
    next = { session with selection := none } := by
  generalize hreply : Reply.selected false = reply at hstep
  cases hstep with
  | select anchor focus =>
      have hnone : session.document.select anchor focus = none := by simpa using hreply
      rw [select, hnone]
  | _ => simp at hreply

end Step

section Run

variable {session : Session}

theorem version_performAll (hsound : session.Sound) (operations : List Operation) :
    (session.performAll operations).document.version =
      session.document.version + (session.history operations).countP Event.changes := by
  induction operations generalizing session with
  | nil => rfl
  | cons operation operations ih =>
      have hstep := session.step_perform operation
      have hversion := (evolves_of_step hsound hstep).version_eq.1
      have hchanges := isSome_patch?_of_step hstep
      calc (session.performAll (operation :: operations)).document.version
          = (session.perform operation).2.document.version +
              ((session.perform operation).2.history operations).countP Event.changes :=
            ih (sound_of_step hsound hstep)
        _ = session.document.version +
              (session.history (operation :: operations)).countP Event.changes := by
            rw [hversion, history, List.countP_cons, ← hchanges]
            cases (session.perform operation).1.patch? with
            | none => rfl
            | some patch => exact Nat.add_right_comm _ _ _

/-- The versions in the patches of a run go on from that of the document. -/
theorem versions_history (hsound : session.Sound) (operations : List Operation) :
    ((session.history operations).filterMap fun event => event.reply.patch?).map Patch.version =
      List.range' (session.document.version + 1)
        ((session.history operations).countP Event.changes) := by
  induction operations generalizing session with
  | nil => rfl
  | cons operation operations ih =>
      have hstep := session.step_perform operation
      obtain ⟨hversion, hpatch⟩ := (evolves_of_step hsound hstep).version_eq
      have hchanges := isSome_patch?_of_step hstep
      have hrest := ih (sound_of_step hsound hstep)
      rw [hversion] at hrest
      rw [history, List.filterMap_cons, List.countP_cons, ← hchanges]
      cases hreply : (session.perform operation).1.patch? with
      | none =>
          rw [hreply] at hrest
          exact hrest
      | some patch =>
          rw [hreply] at hrest hpatch
          have hfirst : patch.version = session.document.version + 1 := hpatch patch rfl
          simp only [List.map_cons, Option.isSome_some, ↓reduceIte, List.range'_succ, hfirst]
          exact congrArg _ hrest

end Run

/-- **The version counts the changes.** Commands on a document and edits of a session are atomic:
where they fail, the state that they leave is the one that they were given. Along every run that a
host can make, an operation that fails leaves the session as it is, a rejected select drops the
selection and nothing else, and the options stay. The version is the number of commands, texts taken
over, pastes and resets that went through, and the patches carry the versions from one on in their
order. -/
theorem version_counts_changes (text : Text) (options : Options) (operations : List Operation) :
    let opened := start text options
    let session := opened.performAll operations
    let events := opened.history operations
    (∀ command selection?, Atomic (· = none) (Document.formatM command selection?)) ∧
    (∀ command, Atomic (· = none) (applyM command)) ∧
    (∀ given, Atomic (·.isOk = false) (ingestM given) ∧ Atomic (·.isOk = false) (pasteM given)) ∧
    (∀ operation reply next, (performM operation).run session = (reply, next) →
      next.options = session.options ∧
        (reply.isFailure = true → next = session) ∧
        (reply = .selected false → next = { session with selection := none })) ∧
    session.options = options ∧
    session.document.version = events.countP Event.changes ∧
    (events.filterMap fun event => event.reply.patch?).map Patch.version =
      List.range' 1 (events.countP Event.changes) := by
  intro opened session events
  have hsound : opened.Sound := sound_start text options
  have hzero : opened.document.version = 0 := rfl
  refine ⟨Document.atomic_formatM, atomic_applyM, ?_, ?_, options_performAll opened operations,
    ?_, ?_⟩
  · intro given
    exact ⟨atomic_ingestM given, atomic_pasteM given⟩
  · intro operation reply next hperform
    have hstep : session.Step operation (session.perform operation).1
        (session.perform operation).2 := session.step_perform operation
    rw [perform, hperform] at hstep
    refine ⟨options_of_step hstep, eq_of_step_of_isFailure hstep, ?_⟩
    rintro rfl
    exact eq_of_step_of_rejected hstep
  · rw [version_performAll hsound operations, hzero, Nat.zero_add]
  · rw [versions_history hsound operations, hzero]

/-- A refused copy, a rejected select and a command without a selection behind two changes. -/
theorem version_counts_two_changes :
    let opened := start "ab".toList {}
    let operations := [.select ⟨0, 0⟩ ⟨0, 1⟩, .apply .bold, .copy, .select ⟨7, 0⟩ ⟨7, 0⟩,
      .apply .bold, .ingest "c".toList]
    let session := opened.performAll operations
    session.document.version = 2 ∧
      ((opened.history operations).filterMap fun event => event.reply.patch?).map Patch.version =
        [1, 2] ∧
      ((applyM .bold).run session).2 = session ∧
      ((performM .copy).run session).2 = session := by
  intro opened operations session
  obtain ⟨-, happly, -, hfails, -, hversion, hversions⟩ :=
    version_counts_changes "ab".toList {} operations
  have hchanges : (opened.history operations).countP Event.changes = 2 := by decide
  rw [hchanges] at hversion hversions
  exact ⟨hversion, hversions, happly .bold session (by decide),
    (hfails .copy _ _ rfl).2.1 (by decide)⟩

end Session

end MarkupEditor
