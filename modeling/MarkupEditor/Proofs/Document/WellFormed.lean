import MarkupEditor.Document
import MarkupEditor.Proofs.Text.Lines

/-!
# Documents by the texts of their lines

A well-formed document is determined by the texts of its lines: each line is numbered by its place,
there is at least one line, and no text holds a line feed. On such documents every operation is one
on the list of texts. Overwriting a line replaces an entry of the list and inserting lines inserts
entries, so the numbers need no further thought.
-/

namespace MarkupEditor

namespace Line

@[simp]
theorem length_enumerate (texts : List Text) : (enumerate texts).length = texts.length := by
  simp [enumerate]

@[simp]
theorem getElem?_enumerate (texts : List Text) (i : Nat) :
    (enumerate texts)[i]? = texts[i]?.map (Line.mk i) := by
  simp [enumerate]

@[simp]
theorem map_text_enumerate (texts : List Text) : (enumerate texts).map text = texts := by
  apply List.ext_getElem?
  intro i
  cases htext : texts[i]? <;> simp [htext]

/-- Lines that are numbered by their places are those of their texts. -/
theorem eq_enumerate {lines : List Line}
    (hindex : ∀ i (line : Line), lines[i]? = some line → line.index = i) :
    lines = enumerate (lines.map text) := by
  apply List.ext_getElem?
  intro i
  cases hline : lines[i]? with
  | none => simp [hline]
  | some line =>
      have hplace := hindex i line hline
      subst hplace
      simp [hline]

end Line

namespace Document

/-- The document with these lines, numbered by their places. -/
def ofTexts (texts : List Text) (version : Nat) : Document where
  lines := Line.enumerate texts
  version := version

@[simp]
theorem length_texts (doc : Document) : doc.texts.length = doc.lineCount := by
  simp [texts, lineCount]

section OfTexts

variable (texts : List Text) (version : Nat)

@[simp]
theorem texts_ofTexts : (ofTexts texts version).texts = texts := by
  simp [Document.texts, ofTexts]

@[simp]
theorem lineCount_ofTexts : (ofTexts texts version).lineCount = texts.length := by
  simp [lineCount, ofTexts]

@[simp]
theorem line?_ofTexts (index : Nat) :
    (ofTexts texts version).line? index = texts[index]?.map (Line.mk index) := by
  simp [line?, ofTexts]

theorem setText_ofTexts (index : Nat) (text : Text) :
    (ofTexts texts version).setText index text = ofTexts (texts.set index text) version := by
  have hlines : (Line.enumerate texts).modify index (fun line => { line with text }) =
      Line.enumerate (texts.set index text) := by
    apply List.ext_getElem?
    intro i
    by_cases hi : index = i
    · subst hi
      cases htext : texts[index]? <;> simp [htext, List.getElem?_set_self']
    · simp [hi]
  simp only [setText, ofTexts, hlines]

end OfTexts

/-- Renumbering from a place on suffices if the lines before it are numbered by their places. -/
theorem reindexFrom_eq_enumerate {start : Nat} {lines : List Line}
    (hindex : ∀ i line, i < start → lines[i]? = some line → line.index = i) :
    reindexFrom start lines = Line.enumerate (lines.map Line.text) := by
  apply List.ext_getElem?
  intro i
  cases hline : lines[i]? with
  | none => simp [reindexFrom, hline]
  | some line =>
      by_cases hi : i < start
      · have hplace := hindex i line hi hline
        subst hplace
        simp [reindexFrom, hline, hi]
      · simp [reindexFrom, hline, hi]

theorem insertLines_ofTexts (texts : List Text) (version place : Nat) (inserted : List Text) :
    (ofTexts texts version).insertLines place inserted =
      ofTexts (texts.take place ++ inserted ++ texts.drop place) version := by
  obtain ⟨cut, hcut⟩ : ∃ cut, cut = min place texts.length := ⟨_, rfl⟩
  have hindex : ∀ i line, i < cut →
      ((Line.enumerate texts).take cut ++ inserted.map (Line.mk 0) ++
        (Line.enumerate texts).drop cut)[i]? = some line → line.index = i := by
    intro i line hi hline
    have hfront : i < ((Line.enumerate texts).take cut).length := by
      rw [List.length_take, Line.length_enumerate]
      omega
    rw [List.append_assoc, List.getElem?_append_left hfront, List.getElem?_take_of_lt hi,
      Line.getElem?_enumerate] at hline
    obtain ⟨text, -, rfl⟩ := Option.map_eq_some_iff.mp hline
    rfl
  have htake : texts.take place = texts.take cut := by rw [List.take_eq_take_min, hcut]
  have hdrop : texts.drop place = texts.drop cut := by rw [List.drop_eq_drop_min, hcut]
  have hlines : reindexFrom cut ((Line.enumerate texts).take cut ++ inserted.map (Line.mk 0) ++
      (Line.enumerate texts).drop cut) =
      Line.enumerate (texts.take place ++ inserted ++ texts.drop place) := by
    rw [reindexFrom_eq_enumerate hindex, htake, hdrop]
    simp [List.map_take, List.map_drop, Function.comp_def]
  simp only [insertLines, lineCount_ofTexts, ← hcut]
  simp only [ofTexts, hlines]

/-- A document has a line, numbers its lines by their places, and breaks no line. -/
structure WellFormed (doc : Document) : Prop where
  lines_ne_nil : doc.lines ≠ []
  index_eq : ∀ i (line : Line), doc.lines[i]? = some line → line.index = i
  newline_not_mem : ∀ text ∈ doc.texts, '\n' ∉ text

theorem WellFormed.eq_ofTexts {doc : Document} (hdoc : doc.WellFormed) :
    doc = ofTexts doc.texts doc.version := by
  have hlines : doc.lines = Line.enumerate doc.texts := Line.eq_enumerate hdoc.index_eq
  rw [ofTexts, ← hlines]

theorem wellFormed_ofTexts {texts : List Text} (version : Nat) (htexts : texts ≠ [])
    (hnewline : ∀ text ∈ texts, '\n' ∉ text) : (ofTexts texts version).WellFormed where
  lines_ne_nil := by
    intro hlines
    have hcount : texts.length = 0 := by
      rw [← lineCount_ofTexts texts version, lineCount, hlines, List.length_nil]
    exact htexts (List.eq_nil_of_length_eq_zero hcount)
  index_eq := by
    intro i line hline
    rw [ofTexts, Line.getElem?_enumerate] at hline
    obtain ⟨text, -, rfl⟩ := Option.map_eq_some_iff.mp hline
    rfl
  newline_not_mem := by
    rw [texts_ofTexts]
    exact hnewline

theorem ofText_eq_ofTexts (text : Text) : ofText text = ofTexts text.lines 0 :=
  rfl

theorem wellFormed_ofText (text : Text) : (ofText text).WellFormed := by
  rw [ofText_eq_ofTexts]
  apply wellFormed_ofTexts
  · exact Text.lines_ne_nil text
  · intro line hline
    exact Text.newline_not_mem_of_mem_lines hline

end Document

end MarkupEditor
