import MarkupEditor.Proofs.Document.CommandEdits
import MarkupEditor.Proofs.Session.Selection

/-!
# The document of a session

An operation leaves the document as it is or makes one edit, which the patch in its reply reports.
So the document stays well formed along every run, and its text tells its lines. A command is the
one edit that a host cannot foresee, and it only adds to the text.
-/

namespace MarkupEditor

/-- The patch of a reply, if there is one. Only changes of the document are replied to by a patch. -/
def Reply.patch? : Reply → Option Patch
  | .patched patch => some patch
  | .selected _ | .cleared | .unchanged | .copied _ | .refused _ => none

namespace Document

variable {doc next : Document} {patch? : Option Patch}

/-- What an operation may do to a document: nothing, or an edit that its patch reports. -/
inductive Evolves (doc : Document) : Option Patch → Document → Prop
  | kept : Evolves doc none doc
  | edited {edit : Edit} {patch : Patch} {next : Document} (hedited : doc.Edited edit patch next) :
      Evolves doc (some patch) next

theorem Evolves.eq_of_none (hevolves : doc.Evolves none next) : next = doc := by
  cases hevolves with
  | kept => rfl

theorem Evolves.exists_edited {patch : Patch} (hevolves : doc.Evolves (some patch) next) :
    ∃ edit, doc.Edited edit patch next := by
  cases hevolves with
  | edited hedited => exact ⟨_, hedited⟩

theorem Evolves.wellFormed (hevolves : doc.Evolves patch? next) (hdoc : doc.WellFormed) :
    next.WellFormed := by
  cases hevolves with
  | kept => exact hdoc
  | edited hedited => exact hedited.wellFormed hdoc

namespace WellFormed

theorem texts_ne_nil (hdoc : doc.WellFormed) : doc.texts ≠ [] := by
  intro hnil
  exact hdoc.lines_ne_nil (List.map_eq_nil_iff.mp hnil)

theorem splitOn_text (hdoc : doc.WellFormed) : doc.text.splitOn '\n' = doc.texts :=
  Text.splitOn_unlines hdoc.texts_ne_nil hdoc.newline_not_mem

theorem lineCount_eq (hdoc : doc.WellFormed) : doc.lineCount = doc.text.count '\n' + 1 := by
  rw [← length_texts]
  exact (Text.count_newline_unlines hdoc.texts_ne_nil hdoc.newline_not_mem).symm

/-- The text of a well-formed document tells its lines. -/
theorem text_eq_iff {other : Document} (hdoc : doc.WellFormed) (hother : other.WellFormed) :
    doc.text = other.text ↔ doc.lines = other.lines := by
  constructor
  · intro htext
    have htexts : doc.texts = other.texts := by
      rw [← hdoc.splitOn_text, htext, hother.splitOn_text]
    calc doc.lines
        = Line.enumerate doc.texts := Line.eq_enumerate hdoc.index_eq
      _ = Line.enumerate other.texts := by rw [htexts]
      _ = other.lines := (Line.eq_enumerate hother.index_eq).symm
  · intro hlines
    simp only [Document.text, Document.texts, hlines]

end WellFormed

end Document

namespace Session

variable {session next : Session}

/-- The document is well formed, and the captured selection is current on it. -/
structure Sound (session : Session) : Prop where
  wellFormed : session.document.WellFormed
  current : session.Current

theorem texts_replace (session : Session) (text : Text) :
    (session.replace text).2.document.texts = text.lines :=
  Line.map_text_enumerate text.lines

theorem lineCount_replace (session : Session) (text : Text) :
    (session.replace text).2.document.lineCount = text.lines.length :=
  Line.length_enumerate text.lines

theorem evolves_of_replace (session : Session) (text : Text) :
    session.document.Evolves (some (session.replace text).1) (session.replace text).2.document := by
  have hcount : (session.document.replaceText text).lineCount = text.lines.length :=
    Line.length_enumerate text.lines
  have hpatch : (session.replace text).1 =
      ⟨⟨0, text.lines.length⟩, session.document.version + 1⟩ := by
    rw [← hcount]
    rfl
  rw [hpatch]
  exact .edited (session.document.edited_replaceText text)

theorem evolves_of_step {operation : Operation} {reply : Reply} (hsound : session.Sound)
    (hstep : session.Step operation reply next) :
    session.document.Evolves reply.patch? next.document := by
  cases hstep with
  | select anchor focus => exact .kept
  | clearSelection => exact .kept
  | @apply command selection patch document hallows hselection hformat =>
      have hcurrent := hsound.current selection hselection
      obtain ⟨edit, hedited, -⟩ :=
        Document.exists_edit_of_format hsound.wellFormed hcurrent hformat
      exact .edited hedited
  | @ingest text hlines => exact session.evolves_of_replace text
  | @paste text selection hclipboard hselection =>
      apply Document.Evolves.edited
      exact Document.edited_insertLines hsound.wellFormed (Nat.min_le_right _ _)
        (Text.lines_ne_nil text) fun _ => Text.newline_not_mem_of_mem_lines
  | reset => exact session.evolves_of_replace []
  | unchanged | copy | ingestRefused | pasteDisabled | pasteNowhere | copyDisabled | copyNothing =>
      exact .kept

theorem sound_of_step {operation : Operation} {reply : Reply} (hsound : session.Sound)
    (hstep : session.Step operation reply next) : next.Sound where
  wellFormed := (evolves_of_step hsound hstep).wellFormed hsound.wellFormed
  current := current_of_step hsound.current hstep

theorem sound_performAll (hsound : session.Sound) (operations : List Operation) :
    (session.performAll operations).Sound := by
  induction operations generalizing session with
  | nil => exact hsound
  | cons operation operations ih =>
      have hnext := sound_of_step hsound (session.step_perform operation)
      exact ih hnext

theorem sound_start (text : Text) (options : Options) : (start text options).Sound where
  wellFormed := Document.wellFormed_ofText text
  current := current_of_selection_eq_none rfl

/-- Every session that a host can reach is sound. -/
theorem sound_of_start (text : Text) (options : Options) (operations : List Operation) :
    ((start text options).performAll operations).Sound :=
  sound_performAll (sound_start text options) operations

/-- **The text tells the document.** In every session that a host can reach, the document has a line,
numbers its lines by their places and breaks none. So its text splits into its lines, counts them by
its line feeds, and differs from the text of any other document that a host can reach with other
lines. -/
theorem text_determines_lines (text : Text) (options : Options) (operations : List Operation) :
    let session := (start text options).performAll operations
    session.document.WellFormed ∧
      session.text.splitOn '\n' = session.document.texts ∧
      session.document.lineCount = session.text.count '\n' + 1 ∧
      ∀ otherText otherOptions otherOperations,
        let other := (start otherText otherOptions).performAll otherOperations
        session.text = other.text ↔ session.document.lines = other.document.lines := by
  intro session
  have hdoc : session.document.WellFormed := (sound_of_start text options operations).wellFormed
  refine ⟨hdoc, hdoc.splitOn_text, hdoc.lineCount_eq, ?_⟩
  intro otherText otherOptions otherOperations other
  exact hdoc.text_eq_iff (sound_of_start otherText otherOptions otherOperations).wellFormed

/-- **Commands lose no text.** Whenever a command has an effect in a session that a host can reach,
all characters of the text are still there in their order, unless a rule has taken the place of a
line. -/
theorem text_sublist_of_apply (text : Text) (options : Options) (operations : List Operation)
    (command : Command) (patch : Patch) (next : Session) :
    let session := (start text options).performAll operations
    (∀ selection, session.selection = some selection →
      command = .horizontalRule → selection.isMultiline = true) →
    session.apply command = some (patch, next) → session.text.Sublist next.text := by
  intro session hrule happly
  have hsound : session.Sound := sound_of_start text options operations
  obtain ⟨-, selection, document, hselection, hformat, rfl⟩ := apply_eq_some_iff.mp happly
  obtain ⟨edit, hedited, hwrites⟩ := Document.exists_edit_of_format hsound.wellFormed
    (hsound.current selection hselection) hformat
  exact hedited.text_sublist (hwrites.flatMap_sublist (hrule selection hselection))

/-- Over several lines a rule writes only blank lines, above and below. -/
theorem text_sublist_of_rule :
    let session := (start "ab\ncd".toList {}).performAll [.select ⟨1, 0⟩ ⟨0, 1⟩]
    ∃ patch next, session.apply .horizontalRule = some (patch, next) ∧
      next.text = "\nab\ncd\n".toList ∧ session.text.Sublist next.text := by
  intro session
  have happly : session.apply .horizontalRule = some (⟨⟨0, 4⟩, 1⟩,
      ⟨.ofTexts ["".toList, "ab".toList, "cd".toList, "".toList] 1, none, {}⟩) := by decide
  have hselection : ∀ selection, session.selection = some selection →
      Command.horizontalRule = .horizontalRule → selection.isMultiline = true := by
    intro selection hselection _
    obtain rfl : (⟨0, 1, 0, 1, [⟨0, "ab".toList⟩, ⟨1, "cd".toList⟩], "ab\ncd".toList⟩ : Selection) =
        selection := Option.some.inj hselection
    decide
  exact ⟨_, _, happly, by decide, text_sublist_of_apply _ _ _ _ _ _ hselection happly⟩

end Session

end MarkupEditor
