import MarkupEditor.Proofs.Session.Edits
import MarkupEditor.Proofs.Session.History

/-!
# The bound on lines

Without leave to add lines, a session takes a text over exactly if it has no more line feeds than
the text of the session. So a text that is taken over never makes the document longer, and only
commands and pastes do: in a run without them the bound can only fall. A reset brings it down to one
line, where it stays until a command or a paste adds another.
-/

namespace MarkupEditor

/-- A command or a paste that went through. They may add lines whatever the options are. -/
def Event.inserts : Event → Bool
  | ⟨.apply _, .patched _⟩ | ⟨.paste _, .patched _⟩ => true
  | _ => false

namespace Session

section Ingest

variable {session : Session} {text : Text}

/-- The lines that are compared are one more than the line feeds, in the text that is given and in
the text of the session. -/
theorem ingest_eq (hdoc : session.document.WellFormed) (text : Text) :
    session.ingest text =
      if session.options.allowMultilineCommit = false ∧
          session.text.count '\n' < text.count '\n' then
        .error (.multilineCommit (text.count '\n' - session.text.count '\n'))
      else .ok (session.replace text) := by
  have hpresent : session.document.lineCount = session.text.count '\n' + 1 := hdoc.lineCount_eq
  simp only [ingest_eq_ite, hpresent, Text.length_lines, Nat.add_lt_add_iff_right,
    Nat.add_sub_add_right, Bool.not_eq_true']

theorem ingest_eq_error_iff (hdoc : session.document.WellFormed) {error : EditError} :
    session.ingest text = .error error ↔
      session.options.allowMultilineCommit = false ∧ session.text.count '\n' < text.count '\n' ∧
        error = .multilineCommit (text.count '\n' - session.text.count '\n') := by
  rw [ingest_eq hdoc]
  split
  · rename_i hrefused
    simp [hrefused, eq_comm]
  · rename_i hallowed
    simp only [reduceCtorEq, false_iff]
    exact fun hrefused => hallowed ⟨hrefused.1, hrefused.2.1⟩

theorem ingest_eq_ok_iff (hdoc : session.document.WellFormed) {result : Patch × Session} :
    session.ingest text = .ok result ↔
      (session.options.allowMultilineCommit = true ∨
        text.count '\n' ≤ session.text.count '\n') ∧ session.replace text = result := by
  rw [ingest_eq hdoc]
  split
  · rename_i hrefused
    simp [hrefused.1, Nat.not_le.mpr hrefused.2]
  · rename_i hallowed
    rw [Decidable.not_and_iff_or_not, Bool.not_eq_false, Nat.not_lt] at hallowed
    simp [hallowed]

theorem exists_ingest_iff (hdoc : session.document.WellFormed)
    (hoff : session.options.allowMultilineCommit = false) :
    (∃ result, session.ingest text = .ok result) ↔ text.count '\n' ≤ session.text.count '\n' := by
  simp [ingest_eq_ok_iff hdoc, hoff]

end Ingest

/-! ### Runs that add no lines -/

/-- No command and no paste of the run makes the document longer. -/
def Steady (session : Session) : List Operation → Prop
  | [] => True
  | operation :: operations =>
    ((Event.mk operation (session.perform operation).1).inserts = true →
      (session.perform operation).2.document.lineCount ≤ session.document.lineCount) ∧
      (session.perform operation).2.Steady operations

section Run

variable {session next : Session} {operation : Operation} {reply : Reply}
  {operations : List Operation}

theorem steady_of_history
    (hquiet : ∀ event ∈ session.history operations, event.inserts = false) :
    session.Steady operations := by
  induction operations generalizing session with
  | nil => trivial
  | cons operation operations ih =>
      obtain ⟨hfirst, hrest⟩ := List.forall_mem_cons.mp hquiet
      exact ⟨fun hinserts => absurd (hfirst.symm.trans hinserts) Bool.false_ne_true, ih hrest⟩

theorem lineCount_le_of_step (hsound : session.Sound)
    (hoff : session.options.allowMultilineCommit = false)
    (hstep : session.Step operation reply next)
    (hsteady : (Event.mk operation reply).inserts = true →
      next.document.lineCount ≤ session.document.lineCount) :
    next.document.lineCount ≤ session.document.lineCount := by
  cases hstep with
  | apply | paste => exact hsteady rfl
  | @ingest text hlines =>
      rw [lineCount_replace]
      exact hlines.resolve_left (by simp [hoff])
  | reset =>
      rw [reset, lineCount_replace]
      exact List.length_pos_iff.mpr hsound.wellFormed.lines_ne_nil
  | select | clearSelection | unchanged | copy | ingestRefused | pasteDisabled | pasteNowhere
  | copyDisabled | copyNothing => exact Nat.le_refl _

/-- Without leave to add lines, a run in which no command and no paste adds any makes the document
no longer. -/
theorem lineCount_performAll_le (hsound : session.Sound)
    (hoff : session.options.allowMultilineCommit = false) (hsteady : session.Steady operations) :
    (session.performAll operations).document.lineCount ≤ session.document.lineCount := by
  induction operations generalizing session with
  | nil => exact Nat.le_refl _
  | cons operation operations ih =>
      have hstep := session.step_perform operation
      obtain ⟨hfirst, hrest⟩ := hsteady
      calc (session.performAll (operation :: operations)).document.lineCount
          ≤ (session.perform operation).2.document.lineCount :=
            ih (sound_of_step hsound hstep) ((options_of_step hstep).symm ▸ hoff) hrest
        _ ≤ session.document.lineCount := lineCount_le_of_step hsound hoff hstep hfirst

/-- After a reset a steady run has one line throughout. -/
theorem count_newline_text_of_reset (hsound : session.Sound)
    (hoff : session.options.allowMultilineCommit = false)
    (hsteady : session.reset.2.Steady operations) :
    (session.reset.2.performAll operations).text.count '\n' = 0 := by
  have hreset : session.reset.2.Sound := sound_of_step hsound .reset
  have hdoc := (sound_performAll hreset operations).wellFormed
  have hle : (session.reset.2.performAll operations).document.lineCount ≤ 1 :=
    lineCount_performAll_le hreset hoff hsteady
  rw [hdoc.lineCount_eq] at hle
  exact Nat.le_zero.mp (Nat.le_of_succ_le_succ hle)

end Run

/-- **What may be taken over.** In every session that a host can reach, a text is refused exactly if
the options give no leave to add lines and it has more line feeds than the text of the session.
Otherwise the document has the lines of the given text, the patch covers all of them, and nothing is
selected. Without that leave, the document becomes no longer in any run from there in which no
command and no paste goes through; and after a reset exactly the texts without a line feed are taken
over, as long as no command and no paste has added lines. -/
theorem ingest_bounded_by_newlines (text : Text) (options : Options)
    (operations : List Operation) :
    let session := (start text options).performAll operations
    (∀ given error, session.ingest given = .error error ↔
      options.allowMultilineCommit = false ∧ session.text.count '\n' < given.count '\n' ∧
        error = .multilineCommit (given.count '\n' - session.text.count '\n')) ∧
    (∀ given patch next, session.ingest given = .ok (patch, next) →
      next.document.lines = (Document.ofText given).lines ∧
        patch.changed = ⟨0, next.document.lineCount⟩ ∧ next.selection = none) ∧
    (options.allowMultilineCommit = false →
      (∀ more, (∀ event ∈ session.history more, event.inserts = false) →
        (session.performAll more).document.lineCount ≤ session.document.lineCount) ∧
      (∀ more, session.reset.2.Steady more → ∀ given,
        (∃ result, (session.reset.2.performAll more).ingest given = .ok result) ↔
          '\n' ∉ given)) := by
  intro session
  have hsound : session.Sound := sound_of_start text options operations
  have hoptions : session.options = options := options_performAll _ operations
  refine ⟨?_, ?_, ?_⟩
  · intro given error
    rw [ingest_eq_error_iff hsound.wellFormed, hoptions]
  · intro given patch next hingest
    obtain ⟨-, hreplaced⟩ := (ingest_eq_ok_iff hsound.wellFormed).mp hingest
    obtain ⟨rfl, rfl⟩ := Prod.mk.inj hreplaced
    exact ⟨rfl, rfl, rfl⟩
  · intro hoff
    rw [← hoptions] at hoff
    refine ⟨fun more hquiet => lineCount_performAll_le hsound hoff (steady_of_history hquiet), ?_⟩
    intro more hsteady given
    have hreset : session.reset.2.Sound := sound_of_step hsound .reset
    have hdoc := (sound_performAll hreset more).wellFormed
    have hkept : (session.reset.2.performAll more).options.allowMultilineCommit = false := by
      rw [options_performAll]
      exact hoff
    rw [exists_ingest_iff hdoc hkept, count_newline_text_of_reset hsound hoff hsteady,
      Nat.le_zero, List.count_eq_zero]

/-- Without leave to add lines: a longer text is refused and one of as many lines is not; a command
that was refused and a text of fewer lines leave the document no longer. After the reset a command
may mark a word, and still no second line is taken over. -/
theorem ingest_bounded_by_newlines_of_two_lines :
    let session := (start "a\nb".toList {}).performAll []
    let quiet := [.apply .orderedList, .ingest "c".toList]
    let marking := [.ingest "c".toList, .select ⟨0, 0⟩ ⟨0, 1⟩, .apply .bold]
    session.ingest "a\nb\nc".toList = .error (.multilineCommit 1) ∧
      (∃ patch next, session.ingest "c\r\nd".toList = .ok (patch, next) ∧
        next.document.lines = [⟨0, "c".toList⟩, ⟨1, "d".toList⟩] ∧ patch.changed = ⟨0, 2⟩) ∧
      (session.performAll quiet).document.lineCount ≤ 2 ∧
      (session.reset.2.performAll marking).text = "**c**".toList ∧
      (∃ result, (session.reset.2.performAll marking).ingest "d".toList = .ok result) ∧
      ¬∃ result, (session.reset.2.performAll marking).ingest "c\nd".toList = .ok result := by
  intro session quiet marking
  obtain ⟨hrefused, htaken, hruns⟩ := ingest_bounded_by_newlines "a\nb".toList {} []
  obtain ⟨hquiet, hreset⟩ := hruns rfl
  have hmarking : session.reset.2.Steady marking :=
    ⟨fun _ => by decide, fun _ => by decide, fun _ => by decide, trivial⟩
  refine ⟨(hrefused _ _).mpr (by decide), ?_, hquiet quiet (by decide), by decide,
    (hreset marking hmarking _).mpr (by decide), fun htwo =>
      (hreset marking hmarking _).mp htwo (by decide)⟩
  have hingest : session.ingest "c\r\nd".toList =
      .ok (session.replace "c\r\nd".toList) := rfl
  obtain ⟨hlines, hchanged, -⟩ := htaken _ _ _ hingest
  exact ⟨_, _, hingest, hlines, hchanged⟩

end Session

end MarkupEditor
