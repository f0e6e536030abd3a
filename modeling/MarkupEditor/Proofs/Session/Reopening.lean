import MarkupEditor.Proofs.Session.LineInvariants

/-!
# Reopening a saved text

The text of a session, read again, gives its lines back, except that a line which ends in a carriage
return loses it: in a text that is read, the return belongs to the ending of the line. Such a line
comes from two carriage returns in front of a line feed or at the end of a given text, since reading
takes only one of them and commands put none at the end of a line.
-/

namespace MarkupEditor

namespace Text

/-- The text ends in a carriage return. -/
def EndsInReturn (text : Text) : Prop :=
  text.getLast? = some '\r'

instance (text : Text) : Decidable text.EndsInReturn :=
  inferInstanceAs (Decidable (_ = _))

section EndsInReturn

variable {text line : Text}

theorem endsInReturn_append (front : Text) (htext : text ≠ []) :
    EndsInReturn (front ++ text) ↔ text.EndsInReturn := by
  obtain ⟨c, rest, rfl⟩ := List.exists_cons_of_ne_nil htext
  rw [EndsInReturn, List.getLast?_append, List.getLast?_cons, Option.some_or, EndsInReturn,
    List.getLast?_cons]

/-- A front that does not end in a carriage return puts none at the end of a text. -/
theorem not_endsInReturn_append {front : Text} (hfront : ¬front.EndsInReturn)
    (htext : ¬text.EndsInReturn) : ¬EndsInReturn (front ++ text) := by
  by_cases hempty : text = []
  · rwa [hempty, List.append_nil]
  · rwa [endsInReturn_append front hempty]

theorem dropReturn_eq_self_iff : text.dropReturn = text ↔ ¬text.EndsInReturn := by
  unfold dropReturn EndsInReturn
  split
  · rename_i hlast
    obtain ⟨front, rfl⟩ := List.getLast?_eq_some_iff.mp hlast
    simp
  · rename_i hlast
    simp [hlast]

theorem map_dropReturn_eq_self_iff {lines : List Text} :
    lines.map dropReturn = lines ↔ ∀ line ∈ lines, ¬line.EndsInReturn := by
  calc lines.map dropReturn = lines
      ↔ lines.map dropReturn = lines.map id := by rw [List.map_id]
    _ ↔ ∀ line ∈ lines, line.dropReturn = id line := List.map_inj_left
    _ ↔ ∀ line ∈ lines, ¬line.EndsInReturn := by simp only [id_eq, dropReturn_eq_self_iff]

/-- No piece of the text between line feeds ends in two carriage returns. -/
def SingleReturns (text : Text) : Prop :=
  ∀ piece ∈ text.splitOn '\n', ¬['\r', '\r'] <:+ piece

instance (text : Text) : Decidable text.SingleReturns :=
  inferInstanceAs (Decidable (∀ piece ∈ _, _))

theorem SingleReturns.not_endsInReturn (htext : text.SingleReturns) :
    ∀ line ∈ text.lines, ¬line.EndsInReturn := by
  intro line hline hreturn
  obtain ⟨piece, hpiece, rfl⟩ := List.mem_map.mp hline
  have hsingle := htext piece hpiece
  unfold dropReturn at hreturn
  split at hreturn
  · rename_i hlast
    obtain ⟨front, rfl⟩ := List.getLast?_eq_some_iff.mp hlast
    rw [List.dropLast_concat] at hreturn
    obtain ⟨inner, rfl⟩ := List.getLast?_eq_some_iff.mp hreturn
    exact hsingle ⟨inner, by simp⟩
  · contradiction

end EndsInReturn

end Text

/-! ### Commands put no carriage return at the end of a line -/

namespace Command

variable {command : Command} {value : Text}

theorem not_endsInReturn_markup (hvalue : ¬value.EndsInReturn) :
    ¬(command.markup value).EndsInReturn := by
  have hclosed (front : Text) {back : Text} (hback : back ≠ []) (hlast : ¬back.EndsInReturn) :
      ¬Text.EndsInReturn (front ++ back) := by
    rwa [Text.endsInReturn_append front hback]
  cases command with
  | heading | blockquote | orderedList | unorderedList =>
      exact Text.not_endsInReturn_append (by decide) hvalue
  | bold | italic | code | link | image => exact hclosed _ (by decide) (by decide)
  | horizontalRule => exact hclosed [] (by decide) (by decide)

theorem not_endsInReturn_markupLine? {line : Text} (hline : ¬line.EndsInReturn) (counter : Nat) :
    ¬((command.markupLine? line counter).getD line).EndsInReturn := by
  cases command with
  | blockquote | unorderedList => exact Text.not_endsInReturn_append (by decide) hline
  | orderedList =>
      have hnumber : ¬Text.EndsInReturn (Text.ofNat counter ++ ". ".toList) := by
        rw [Text.endsInReturn_append _ (by decide)]
        decide
      exact Text.not_endsInReturn_append hnumber hline
  | heading | bold | italic | code | horizontalRule | link | image => exact hline

end Command

/-- A line that does not end in a carriage return stays one that does not. -/
theorem lineInvariant_not_endsInReturn : LineInvariant fun line => ¬line.EndsInReturn where
  blank := by decide
  writes := by
    intro command multiline removed written hwrites hremoved
    have hempty : ¬(command.markup []).EndsInReturn :=
      Command.not_endsInReturn_markup (by decide)
    cases hwrites with
    | rule hrule text =>
        rw [List.forall_mem_singleton] at hremoved ⊢
        exact Command.not_endsInReturn_markup hremoved
    | @range hrule value hvalue front behind =>
        rw [List.forall_mem_singleton] at hremoved ⊢
        by_cases hbehind : behind = []
        · have hmarkup : command.markup value ≠ [] := by
            intro hnil
            exact hvalue (List.sublist_nil.mp (hnil ▸ Command.sublist_markup hrule value))
          rw [hbehind, List.append_nil, Text.endsInReturn_append _ hvalue] at hremoved
          rw [hbehind, List.append_nil, Text.endsInReturn_append _ hmarkup]
          exact Command.not_endsInReturn_markup hremoved
        · rw [Text.endsInReturn_append _ hbehind] at hremoved ⊢
          exact hremoved
    | caret | blank => exact List.forall_mem_singleton.mpr hempty
    | block htexts =>
        exact Command.forall_mem_blockTexts (by decide) fun text htext =>
          Command.not_endsInReturn_markupLine? (hremoved text htext)

namespace Session

theorem texts_ofText_text {doc : Document} (hdoc : doc.WellFormed) :
    (Document.ofText doc.text).texts = doc.texts.map Text.dropReturn := by
  rw [Document.ofText_eq_ofTexts, Document.texts_ofTexts, Document.text,
    Text.lines_unlines hdoc.texts_ne_nil hdoc.newline_not_mem]

/-- A session takes over its own text. -/
theorem exists_ingest_text {session : Session} (hdoc : session.document.WellFormed) :
    ∃ patch next, session.perform (.ingest session.text) = (.patched patch, next) ∧
      next.document.texts = session.document.texts.map Text.dropReturn := by
  have hlines : session.text.lines = session.document.texts.map Text.dropReturn :=
    Text.lines_unlines hdoc.texts_ne_nil hdoc.newline_not_mem
  have hstep := session.step_perform (.ingest session.text)
  generalize hperform : session.perform (.ingest session.text) = result at hstep
  obtain ⟨reply, next⟩ := result
  change session.Step _ reply next at hstep
  cases hstep with
  | ingest hallowed => exact ⟨_, _, rfl, (session.texts_replace session.text).trans hlines⟩
  | ingestRefused hoff hcount =>
      rw [hlines, List.length_map, Document.length_texts] at hcount
      exact absurd hcount (Nat.lt_irrefl _)

/-- **Saved texts reopen.** In every session that a host can reach, the document read from its text
has its lines, each without a carriage return at its end; so it has the same lines exactly if none
ends in one. No line does if none of the given texts has two carriage returns in front of a line
feed or at its end. The session itself takes its text over, to the same effect. -/
theorem texts_reopened (text : Text) (options : Options) (operations : List Operation) :
    let session := (start text options).performAll operations
    let reopened := Document.ofText session.text
    reopened.texts = session.document.texts.map Text.dropReturn ∧
      (reopened.texts = session.document.texts ↔
        ∀ line ∈ session.document.texts, ¬line.EndsInReturn) ∧
      ((∀ given ∈ text :: operations.filterMap Operation.given?, given.SingleReturns) →
        reopened.texts = session.document.texts) ∧
      ∃ patch next, session.perform (.ingest session.text) = (.patched patch, next) ∧
        next.document.texts = reopened.texts := by
  intro session reopened
  have hdoc : session.document.WellFormed := (sound_of_start text options operations).wellFormed
  have hreopened : reopened.texts = session.document.texts.map Text.dropReturn :=
    texts_ofText_text hdoc
  have hsame : reopened.texts = session.document.texts ↔
      ∀ line ∈ session.document.texts, ¬line.EndsInReturn := by
    rw [hreopened, Text.map_dropReturn_eq_self_iff]
  refine ⟨hreopened, hsame, ?_, ?_⟩
  · intro hgiven
    rw [hsame]
    exact lineInvariant_not_endsInReturn.forall_texts_of_start text options fun given hmem =>
      (hgiven given hmem).not_endsInReturn
  · rw [hreopened]
    exact exists_ingest_text hdoc

/-- A line that has kept a carriage return is not there when its text is read again, nor when the
session takes the text over. -/
theorem not_texts_reopened :
    let session := (start "a\r\r".toList {}).performAll []
    (Document.ofText session.text).texts ≠ session.document.texts ∧
      ∃ patch next, session.perform (.ingest session.text) = (.patched patch, next) ∧
        next.document.texts ≠ session.document.texts :=
  ⟨by decide, ⟨⟨0, 1⟩, 1⟩, ⟨.ofTexts ["a".toList] 1, none, {}⟩, by decide, by decide⟩

/-- Returns inside a line and at its ending do no harm, wherever they come from. -/
theorem texts_reopened_of_paste :
    let operations := [.select ⟨0, 0⟩ ⟨0, 3⟩, .paste "c\r\nd\r".toList, .apply .bold]
    let session := (start "a\rb\r\n".toList { clipboardEnabled := true }).performAll operations
    session.text = "**a\rb**\nc\nd\n".toList ∧
      (Document.ofText session.text).texts = session.document.texts ∧
      ∀ line ∈ session.document.texts, ¬line.EndsInReturn := by
  intro operations session
  obtain ⟨-, hsame, hgiven, -⟩ :=
    texts_reopened "a\rb\r\n".toList { clipboardEnabled := true } operations
  have hreopened : (Document.ofText session.text).texts = session.document.texts :=
    hgiven (by decide)
  exact ⟨by decide, hreopened, hsame.mp hreopened⟩

end Session

end MarkupEditor
