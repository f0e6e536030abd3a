import MarkupEditor.Proofs.Guarded.Formatting
import MarkupEditor.Proofs.Guarded.Rendering
import MarkupEditor.Proofs.Session.Versions

/-!
# Sessions without faults

The operations of a session, written with guarded accesses. That the captured selection is current
carries them: a paste reckons with a place right below it, and a command with all lines in it. What is
left is the version. An operation is a fault exactly if it changes a document at the largest version
there is, so a run from the start is one exactly if it makes more changes than 64 bits can count.
-/

namespace MarkupEditor.Guarded

/-! ### Operations -/

def replace (session : Session) (text : Text) : Guarded (Patch × Session) := do
  let document := session.document.replaceText text
  let (patch, document) ← commit document ⟨0, document.lineCount⟩
  return (patch, { session with document, selection := none })

def apply (session : Session) (command : Command) : Guarded (Option Patch × Session) := do
  if !session.options.allows command then return (none, session)
  match session.selection with
  | none => return (none, session)
  | some selection =>
    match ← format session.document command selection with
    | none => return (none, session)
    | some (patch, document) => return (some patch, { session with document, selection := none })

def ingest (session : Session) (text : Text) : Guarded (Except EditError Patch × Session) := do
  let incoming := text.lines.length
  let present := session.document.lineCount
  if !session.options.allowMultilineCommit ∧ present < incoming then
    let added ← difference incoming present
    return (.error (.multilineCommit added), session)
  let (patch, next) ← replace session text
  return (.ok patch, next)

def paste (session : Session) (text : Text) : Guarded (Except EditError Patch × Session) := do
  if !session.options.clipboardEnabled then
    return (.error (.pasteDisabled text.byteLength), session)
  match session.selection with
  | none => return (.error .noSelection, session)
  | some selection =>
    let below ← upTo session.document.lineCount (selection.endLine + 1)
    let place := min below session.document.lineCount
    let lines := text.lines
    let document ← insertLines session.document place lines
    let changed ← lineRange document place (place + lines.length)
    let (patch, document) ← commit document changed
    return (.ok patch, { session with document })

/-- Dropping the selection and copying its text access nothing. -/
def perform (session : Session) : Operation → Guarded (Reply × Session)
  | .select anchor focus => do
    let selection ← select session.document anchor focus
    return (.selected selection.isSome, { session with selection })
  | .clearSelection => return session.perform .clearSelection
  | .apply command => do
    let (patch?, next) ← apply session command
    return (.ofPatch? patch?, next)
  | .ingest text => do
    let (result, next) ← ingest session text
    return (.ofEdit result, next)
  | .paste text => do
    let (result, next) ← paste session text
    return (.ofEdit result, next)
  | .copy => return session.perform .copy
  | .reset => do
    let (patch, next) ← replace session []
    return (.patched patch, next)

def performAll (session : Session) : List Operation → Guarded Session
  | [] => .ok session
  | operation :: operations => do
    let (_, next) ← perform session operation
    performAll next operations

/-! ### One operation -/

section Step

variable {session : Session}

theorem replace_eq (session : Session) (text : Text) :
    replace session text =
      if session.document.version < maxVersion then .ok (session.replace text)
      else .error .version := by
  have hversion : (session.document.replaceText text).version = session.document.version := rfl
  rw [replace, commit, hversion, ite_bind]
  rfl

theorem apply_eq (hcurrent : session.Current) (command : Command) :
    apply session command =
      if (Reply.ofPatch? ((Session.applyM command).run session).1).patch? = none ∨
          session.document.version < maxVersion then
        .ok ((Session.applyM command).run session)
      else .error .version := by
  rw [apply, Session.run_applyM]
  cases session.options.allows command with
  | false => rfl
  | true =>
      obtain ⟨document, selection?, options⟩ := session
      cases selection? with
      | none => rfl
      | some selection =>
          have hselected := hcurrent selection rfl
          have hguard : ¬ document.lineCount ≤ selection.endLine :=
            Nat.not_le_of_lt hselected.endLine_lt
          obtain ⟨patch, next, hformat⟩ :=
            Document.exists_format command hselected.startLine_le hselected.endLine_lt
          simp only [format_eq document command hselected.startLine_le, hguard, hformat,
            Document.run_formatM_of_format hformat, Reply.ofPatch?, Reply.patch?, Bool.not_true,
            Bool.false_eq_true, ↓reduceIte, false_or, ite_bind, reduceCtorEq]
          rfl

theorem ingest_eq (session : Session) (text : Text) :
    ingest session text =
      if (Reply.ofEdit ((Session.ingestM text).run session).1).patch? = none ∨
          session.document.version < maxVersion then
        .ok ((Session.ingestM text).run session)
      else .error .version := by
  rw [ingest, Session.run_ingestM]
  split
  case isTrue hguard =>
    rw [difference_eq (Nat.le_of_lt hguard.2)]
    rfl
  case isFalse =>
    simp only [replace_eq, ite_bind, Reply.ofEdit, Reply.patch?, reduceCtorEq, false_or, pure_eq]

theorem paste_eq (hcurrent : session.Current) (text : Text) :
    paste session text =
      if (Reply.ofEdit ((Session.pasteM text).run session).1).patch? = none ∨
          session.document.version < maxVersion then
        .ok ((Session.pasteM text).run session)
      else .error .version := by
  rw [paste, Session.run_pasteM]
  cases session.options.clipboardEnabled with
  | false => rfl
  | true =>
      cases hselection : session.selection with
      | none => rfl
      | some selection =>
          have hlast := (hcurrent selection hselection).endLine_lt
          have hplace : selection.endLine + 1 ≤ session.document.lineCount := hlast
          have hstop : selection.endLine + 1 + text.lines.length ≤
              (session.document.insertLines (selection.endLine + 1) text.lines).lineCount := by
            rw [Document.lineCount_insertLines hplace]
            omega
          have hversion : (session.document.insertLines (selection.endLine + 1) text.lines).version =
              session.document.version := rfl
          simp only [upTo_eq hplace, Nat.min_eq_left hplace, insertLines_eq, lineRange_eq hstop,
            commit, hversion, Bool.not_true, Bool.false_eq_true,
            ↓reduceIte, ok_bind, ite_bind, Reply.ofEdit, Reply.patch?, reduceCtorEq, false_or]
          rfl

/-- An operation is a fault only if it changes a document at the largest version. -/
theorem perform_eq (hcurrent : session.Current) (operation : Operation) :
    perform session operation =
      if (session.perform operation).1.patch? = none ∨ session.document.version < maxVersion then
        .ok (session.perform operation)
      else .error .version := by
  cases operation with
  | select anchor focus =>
      rw [perform, select_eq]
      rfl
  | clearSelection => rfl
  | apply command =>
      rw [perform, apply_eq hcurrent, ite_bind]
      rfl
  | ingest text =>
      rw [perform, ingest_eq, ite_bind]
      rfl
  | paste text =>
      rw [perform, paste_eq hcurrent, ite_bind]
      rfl
  | copy =>
      have hkept : (session.perform .copy).1.patch? = none := by
        rw [Session.perform_copy]
        cases session.copy <;> rfl
      rw [perform, hkept]
      rfl
  | reset =>
      have hreset : session.perform .reset =
          (.patched (session.replace []).1, (session.replace []).2) := rfl
      simp only [perform, replace_eq, ite_bind, hreset, Reply.patch?, reduceCtorEq, false_or, pure_eq]

end Step

/-! ### Runs -/

/-- A run is a fault only if it makes more changes than the machine can count. -/
theorem performAll_eq {session : Session} (hsound : session.Sound)
    (hversion : session.document.version ≤ maxVersion) (operations : List Operation) :
    performAll session operations =
      if session.document.version + (session.history operations).countP Event.changes ≤ maxVersion
      then .ok (session.performAll operations)
      else .error .version := by
  induction operations generalizing session with
  | nil => exact (if_pos hversion).symm
  | cons operation operations ih =>
      have hstep := session.step_perform operation
      have hnext := Session.sound_of_step hsound hstep
      have hchanges := Session.isSome_patch?_of_step hstep
      have hraised := (Session.evolves_of_step hsound hstep).version_eq.1
      rw [performAll, perform_eq hsound.current, Session.history, List.countP_cons, ← hchanges]
      cases hpatch : (session.perform operation).1.patch? with
      | none =>
          have hsame : (session.perform operation).2.document.version =
              session.document.version := by
            rw [hraised, hpatch]
            rfl
          have hrest := ih hnext (by omega)
          rw [hsame] at hrest
          exact hrest
      | some patch =>
          have hsucc : (session.perform operation).2.document.version =
              session.document.version + 1 := by
            rw [hraised, hpatch]
            rfl
          simp only [reduceCtorEq, false_or, Option.isSome_some, ↓reduceIte]
          by_cases hlt : session.document.version < maxVersion
          · have hrest := ih hnext (by omega)
            rw [hsucc, Nat.add_right_comm] at hrest
            rw [if_pos hlt]
            exact hrest
          · rw [if_neg hlt, if_neg (by omega)]
            rfl

/-- **Only the version can run out.** A run from the start goes through all its accesses, whatever the
positions, commands and texts in it are, unless it makes more changes than 64 bits can count. Rendering
and checking options always go through. So does selecting, and then a command on any other document,
however that differs from the one the selection was made on, as long as there is a next version or the
command has nothing to do. -/
theorem faults_only_at_version (text : Text) (options : Options) (operations : List Operation) :
    let opened := Session.start text options
    performAll opened operations =
        (if (opened.history operations).countP Event.changes ≤ maxVersion then
          .ok (opened.performAll operations)
        else .error .version) ∧
      render text = .ok (Markup.render text) ∧
      validate options = .ok options.validate ∧
      ∀ (origin doc : Document) (anchor focus : Position),
        select origin anchor focus = .ok (origin.select anchor focus) ∧
          ∀ selection command, origin.select anchor focus = some selection →
            format doc command selection =
              if doc.lineCount ≤ selection.endLine ∨ doc.version < maxVersion then
                .ok (doc.format command selection)
              else .error .version := by
  intro opened
  refine ⟨?_, render_eq text, validate_eq options, ?_⟩
  · have hzero : opened.document.version = 0 := rfl
    have hrun := performAll_eq (Session.sound_start text options) (Nat.zero_le maxVersion) operations
    rwa [hzero, Nat.zero_add] at hrun
  · intro origin doc anchor focus
    refine ⟨select_eq origin anchor focus, ?_⟩
    intro selection command hselection
    have hselected := Document.current_of_select hselection
    exact format_eq doc command hselected.startLine_le

/-- A selection made on a longer line, whose offsets lie behind the end of the line it is used on. -/
theorem faults_only_at_version_stale :
    let selection : Selection := ⟨0, 0, 2, 6, [⟨0, "abcdef".toList⟩], "cdef".toList⟩
    let doc := Document.ofText "é".toList
    (Document.ofText "abcdef".toList).select ⟨0, 6⟩ ⟨0, 2⟩ = some selection ∧
      format doc .bold selection =
        .ok (some (⟨⟨0, 1⟩, 1⟩, ⟨[⟨0, "é** **".toList⟩], 1⟩)) := by
  intro selection doc
  have hselection :
      (Document.ofText "abcdef".toList).select ⟨0, 6⟩ ⟨0, 2⟩ = some selection := by decide
  obtain ⟨-, -, -, hselecting⟩ := faults_only_at_version [] {} []
  have hformat := (hselecting _ doc ⟨0, 6⟩ ⟨0, 2⟩).2 selection .bold hselection
  have hversion : doc.version < maxVersion := by decide
  rw [if_pos (Or.inr hversion)] at hformat
  exact ⟨hselection, hformat.trans (by decide)⟩

end MarkupEditor.Guarded
