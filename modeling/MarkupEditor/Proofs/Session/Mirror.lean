import MarkupEditor.Proofs.Session.Edits

/-!
# Mirrors

A host that shows the document keeps a copy of its lines and brings it up to date from the patches
alone. A patch names the written lines by their new places; how many lines they replace follows from
how many lines the document gained or lost. A mirror that takes over just the named lines stays
equal to the document, because every change is an edit and a patch is the range of its edit.
-/

namespace MarkupEditor

namespace Patch

/-- The place, in the old document, behind the lines that the patch replaces. -/
def replacedStop (patch : Patch) (oldCount newCount : Nat) : Int :=
  patch.changed.stop - ((newCount : Int) - oldCount)

/-- Brings a copy of the old lines up to date. Of the new lines it takes only those that the patch
names. -/
def replay (patch : Patch) (oldCount : Nat) (texts mirror : List Text) : List Text :=
  mirror.take patch.changed.start ++
    (texts.take patch.changed.stop).drop patch.changed.start ++
      mirror.drop (patch.replacedStop oldCount texts.length).toNat

end Patch

namespace Document.Edited

variable {doc next : Document} {edit : Edit} {patch : Patch}

theorem stop_le (hedited : doc.Edited edit patch next) : patch.changed.stop ≤ next.lineCount := by
  rw [← length_texts, hedited.texts_next, hedited.patch_eq, Edit.length_after]
  exact Nat.le_add_right _ _

theorem start_le (hedited : doc.Edited edit patch next) :
    patch.changed.start ≤ patch.changed.stop := by
  rw [hedited.patch_eq]
  exact Nat.le_add_right _ _

theorem replacedStop_eq (hedited : doc.Edited edit patch next) :
    patch.replacedStop doc.lineCount next.lineCount =
      edit.above.length + edit.removed.length := by
  rw [← length_texts, ← length_texts, hedited.texts_eq, hedited.texts_next, hedited.patch_eq,
    Patch.replacedStop, Edit.range, Edit.length_before, Edit.length_after]
  push_cast
  omega

theorem start_le_replacedStop (hedited : doc.Edited edit patch next) :
    patch.changed.start ≤ patch.replacedStop doc.lineCount next.lineCount := by
  rw [hedited.replacedStop_eq, hedited.patch_eq]
  simp only [Edit.range]
  omega

theorem replacedStop_le (hedited : doc.Edited edit patch next) :
    patch.replacedStop doc.lineCount next.lineCount ≤ doc.lineCount := by
  rw [hedited.replacedStop_eq, ← length_texts, hedited.texts_eq, Edit.length_before]
  omega

/-- A patch takes a copy of the lines before the edit to those behind it. -/
theorem replay_eq (hedited : doc.Edited edit patch next) :
    patch.replay doc.lineCount next.texts doc.texts = next.texts := by
  have hstop : (patch.replacedStop doc.lineCount next.texts.length).toNat =
      edit.above.length + edit.removed.length := by
    rw [length_texts, hedited.replacedStop_eq]
    omega
  have hchanged : patch.changed = edit.range := by rw [hedited.patch_eq]
  rw [Patch.replay, hstop, hchanged, hedited.texts_eq, hedited.texts_next, edit.take_before,
    edit.segment_after, edit.drop_before, Edit.after]

end Document.Edited

namespace Session

variable {session next : Session}

/-- What becomes of a mirror when the host sees the reply to one operation. Only a patch changes
it. -/
def follow (session : Session) (mirror : List Text) (operation : Operation) : List Text :=
  let (reply, next) := session.perform operation
  match reply.patch? with
  | some patch => patch.replay session.document.lineCount next.document.texts mirror
  | none => mirror

def followAll (session : Session) (mirror : List Text) : List Operation → List Text
  | [] => mirror
  | operation :: operations =>
    (session.perform operation).2.followAll (session.follow mirror operation) operations

theorem evolves_perform (hsound : session.Sound) (operation : Operation) :
    session.document.Evolves (session.perform operation).1.patch?
      (session.perform operation).2.document :=
  evolves_of_step hsound (session.step_perform operation)

theorem follow_texts (hsound : session.Sound) (operation : Operation) :
    session.follow session.document.texts operation =
      (session.perform operation).2.document.texts := by
  have hevolves := evolves_perform hsound operation
  simp only [follow]
  cases hpatch : (session.perform operation).1.patch? with
  | none =>
      rw [hpatch] at hevolves
      rw [hevolves.eq_of_none]
  | some patch =>
      rw [hpatch] at hevolves
      obtain ⟨edit, hedited⟩ := hevolves.exists_edited
      exact hedited.replay_eq

theorem followAll_texts (hsound : session.Sound) (operations : List Operation) :
    session.followAll session.document.texts operations =
      (session.performAll operations).document.texts := by
  induction operations generalizing session with
  | nil => rfl
  | cons operation operations ih =>
      have hnext := sound_of_step hsound (session.step_perform operation)
      rw [followAll, follow_texts hsound, ih hnext]
      rfl

/-- **Mirrors stay equal.** After every run that a host can make, a mirror that has followed the
replies from the start holds the texts of the document. Every patch names lines of the new document
and stands for lines of the old one, and carries the version of the new one. -/
theorem mirror_eq_texts (text : Text) (options : Options) (operations : List Operation) :
    let opened := start text options
    let session := opened.performAll operations
    opened.followAll opened.document.texts operations = session.document.texts ∧
      ∀ operation patch next, session.perform operation = (.patched patch, next) →
        patch.changed.start ≤ patch.changed.stop ∧
          patch.changed.stop ≤ next.document.lineCount ∧
          patch.version = next.document.version ∧
          patch.changed.start ≤
            patch.replacedStop session.document.lineCount next.document.lineCount ∧
          patch.replacedStop session.document.lineCount next.document.lineCount ≤
            session.document.lineCount := by
  intro opened session
  refine ⟨followAll_texts (sound_start text options) operations, ?_⟩
  intro operation patch next hperform
  have hevolves := evolves_perform (sound_of_start text options operations) operation
  rw [hperform] at hevolves
  obtain ⟨edit, hedited⟩ := hevolves.exists_edited
  exact ⟨hedited.start_le, hedited.stop_le, hedited.version_eq, hedited.start_le_replacedStop,
    hedited.replacedStop_le⟩

/-- The pasted lines go below the selection, and then a shorter text takes the place of all. -/
theorem mirror_paste_ingest :
    let opened := start "a\nb".toList { clipboardEnabled := true }
    let operations : List Operation := [.select ⟨0, 0⟩ ⟨0, 1⟩, .paste "x\ny".toList]
    let session := opened.performAll operations
    opened.followAll ["a".toList, "b".toList] operations = session.document.texts ∧
      ∃ patch next, session.perform (.ingest "z".toList) = (.patched patch, next) ∧
        patch.changed = ⟨0, 1⟩ ∧ next.document.texts = ["z".toList] ∧
          patch.replacedStop session.document.lineCount next.document.lineCount = 4 ∧
            patch.version = next.document.version := by
  intro opened operations session
  have hperform : session.perform (.ingest "z".toList) =
      (.patched ⟨⟨0, 1⟩, 2⟩, ⟨.ofTexts ["z".toList] 2, none, { clipboardEnabled := true }⟩) := by
    decide
  obtain ⟨hmirror, hpatch⟩ := mirror_eq_texts "a\nb".toList { clipboardEnabled := true } operations
  obtain ⟨-, -, hversion, -, -⟩ := hpatch _ _ _ hperform
  exact ⟨hmirror, _, _, hperform, rfl, by decide, by decide, hversion⟩

end Session

end MarkupEditor
