import MarkupEditor.Proofs.Markup.Blocks

/-!
# Passages

A document is often looked at as some passages one below the other. Where the last line above and the
first line below are not items of one kind, no block reaches over the boundary: the blocks of the
document are those of the passages, and its HTML is theirs, joined by line feeds. A line that is no
item keeps the passages on its two sides apart, whatever they are.
-/

namespace MarkupEditor

namespace Markup

section Boundaries

variable {lines above below : List Text} {bs cs : List Block} {kind : ListKind}

theorem blocks_ne_nil (hlines : lines ≠ []) : blocks lines ≠ [] := by
  intro hnil
  have hflat := (isPartition_blocks lines).flatMap_lines
  rw [hnil, List.flatMap_nil] at hflat
  exact hlines hflat.symm

theorem IsPartition.kind?_of_head? (hbs : IsPartition lines bs) :
    ∀ block ∈ bs.head?, ∃ text ∈ lines.head?, block.kind? = classify text := by
  intro block hblock
  obtain ⟨rest, rfl⟩ := List.head?_eq_some_iff.mp hblock
  have huniform := hbs.uniform block List.mem_cons_self
  obtain ⟨text, more, hlines⟩ := List.exists_cons_of_ne_nil huniform.lines_ne_nil
  refine ⟨text, ?_, (huniform.classify_eq text (by simp [hlines])).symm⟩
  rw [← hbs.flatMap_lines, List.flatMap_cons, hlines]
  rfl

theorem IsPartition.kind?_of_getLast? (hbs : IsPartition lines bs) :
    ∀ block ∈ bs.getLast?, ∃ text ∈ lines.getLast?, block.kind? = classify text := by
  intro block hblock
  obtain ⟨front, rfl⟩ := List.getLast?_eq_some_iff.mp hblock
  have huniform := hbs.uniform block (by simp)
  obtain ⟨more, text, hlines⟩ := (List.eq_nil_or_concat' block.lines).resolve_left
    huniform.lines_ne_nil
  refine ⟨text, ?_, (huniform.classify_eq text (by simp [hlines])).symm⟩
  rw [← hbs.flatMap_lines, List.flatMap_append, List.flatMap_singleton, hlines, ← List.append_assoc]
  exact List.getLast?_concat

theorem IsPartition.append (habove : IsPartition above bs) (hbelow : IsPartition below cs)
    (hboundary : ∀ last ∈ above.getLast?, ∀ first ∈ below.head?,
      classify last = none ∨ classify last ≠ classify first) :
    IsPartition (above ++ below) (bs ++ cs) := by
  refine ⟨?_, ?_, ?_⟩
  · rw [List.flatMap_append, habove.flatMap_lines, hbelow.flatMap_lines]
  · intro block hblock
    rcases List.mem_append.mp hblock with hblock | hblock
    · exact habove.uniform block hblock
    · exact hbelow.uniform block hblock
  · refine List.isChain_append.mpr ⟨habove.maximal, hbelow.maximal, ?_⟩
    intro last hlast first hfirst
    obtain ⟨lastText, hlastText, hlastKind⟩ := habove.kind?_of_getLast? last hlast
    obtain ⟨firstText, hfirstText, hfirstKind⟩ := hbelow.kind?_of_head? first hfirst
    rw [Block.Separate, hlastKind, hfirstKind]
    exact hboundary lastText hlastText firstText hfirstText

/-- No block reaches over a boundary between lines that are not items of one kind. -/
theorem blocks_append (hboundary : ∀ last ∈ above.getLast?, ∀ first ∈ below.head?,
      classify last = none ∨ classify last ≠ classify first) :
    blocks (above ++ below) = blocks above ++ blocks below :=
  ((isPartition_blocks above).append (isPartition_blocks below) hboundary).eq_blocks.symm

/-- A line that is no item is a block, whatever stands above and below it. -/
theorem blocks_append_cons {text : Text} (htext : classify text = none) :
    blocks (above ++ text :: below) = blocks above ++ .line text :: blocks below := by
  have hsingle : blocks [text] = [.line text] := by
    simp [blocks, Block.prepend, Block.single, htext]
  have hbelow : blocks ([text] ++ below) = blocks [text] ++ blocks below := by
    apply blocks_append
    intro last hlast first _
    obtain rfl : text = last := by simpa using hlast
    exact Or.inl htext
  have habove : blocks (above ++ ([text] ++ below)) = blocks above ++ blocks ([text] ++ below) := by
    apply blocks_append
    intro last _ first hfirst
    obtain rfl : text = first := by simpa using hfirst
    rw [htext]
    exact em _
  rw [← List.singleton_append, habove, hbelow, hsingle]
  rfl

theorem blocks_of_forall_item (hlines : lines ≠ [])
    (hkind : ∀ text ∈ lines, classify text = some kind) : blocks lines = [.run kind lines] := by
  symm
  apply IsPartition.eq_blocks
  refine ⟨by simp [Block.lines], ?_, List.isChain_singleton _⟩
  rintro block hblock
  obtain rfl := List.mem_singleton.mp hblock
  exact ⟨hlines, hkind⟩

theorem blocks_of_forall_line (hkind : ∀ text ∈ lines, classify text = none) :
    blocks lines = lines.map .line := by
  induction lines with
  | nil => rfl
  | cons text lines ih =>
      obtain ⟨htext, hrest⟩ := List.forall_mem_cons.mp hkind
      have hcons := @blocks_append_cons [] lines text htext
      rw [List.nil_append] at hcons
      rw [hcons, ih hrest]
      rfl

end Boundaries

/-! ### The HTML of passages -/

/-- The HTML of a passage. A passage without lines is left out. -/
def renderPassage (lines : List Text) : List Text :=
  if lines.isEmpty then [] else [render (Text.unlines lines)]

/-- The HTML of the blocks that lines read from a source fall into. -/
def blockHtmls (lines : List Text) : List Text :=
  (blocks (lines.map Text.dropReturn)).map Block.html

section Passages

variable {lines : List Text}

theorem render_unlines (hlines : lines ≠ []) (hnewline : ∀ line ∈ lines, '\n' ∉ line) :
    render (Text.unlines lines) = Text.unlines (blockHtmls lines) := by
  rw [render, Text.lines_unlines hlines hnewline, renderLines_eq_unlines_blocks, blockHtmls]

theorem blockHtmls_ne_nil (hlines : lines ≠ []) : blockHtmls lines ≠ [] := by
  intro hnil
  have hread : lines.map Text.dropReturn ≠ [] := fun hempty =>
    hlines (List.map_eq_nil_iff.mp hempty)
  exact blocks_ne_nil hread (List.map_eq_nil_iff.mp hnil)

/-- Joined with other lines, a passage stands for its blocks. -/
theorem flatMap_renderPassage (hnewline : ∀ line ∈ lines, '\n' ∉ line) :
    ((renderPassage lines).flatMap fun html => '\n' :: html) =
      (blockHtmls lines).flatMap fun html => '\n' :: html := by
  cases lines with
  | nil => rfl
  | cons line lines =>
      have hlines := List.cons_ne_nil line lines
      rw [renderPassage, if_neg (by simp), List.flatMap_singleton, render_unlines hlines hnewline,
        Text.cons_unlines (blockHtmls_ne_nil hlines)]

theorem blocks_passages (above lines below : List Text) :
    blocks ((above ++ [] :: lines ++ [] :: below).map Text.dropReturn) =
      blocks (above.map Text.dropReturn) ++ .line [] :: blocks (lines.map Text.dropReturn) ++
        .line [] :: blocks (below.map Text.dropReturn) := by
  have hblank : Text.dropReturn [] = [] := rfl
  have hkind : classify [] = none := rfl
  simp only [List.map_append, List.map_cons, hblank]
  rw [blocks_append_cons hkind, blocks_append_cons hkind]

theorem blockHtmls_passages (above lines below : List Text) :
    blockHtmls (above ++ [] :: lines ++ [] :: below) =
      blockHtmls above ++ [] :: blockHtmls lines ++ [] :: blockHtmls below := by
  have hblank : (Block.line []).html = [] := rfl
  rw [blockHtmls, blocks_passages]
  simp only [blockHtmls, List.map_append, List.map_cons, hblank]

/-- **Passages between blank lines.** A passage that is set off by blank lines is rendered by itself,
and what stands above and below it is rendered by itself, too. -/
theorem render_passages {above below : List Text} (hlines : lines ≠ [])
    (hnewline : ∀ line ∈ above ++ [] :: lines ++ [] :: below, '\n' ∉ line) :
    render (Text.unlines (above ++ [] :: lines ++ [] :: below)) =
      Text.unlines (renderPassage above ++ [[], render (Text.unlines lines), []] ++
        renderPassage below) := by
  obtain ⟨habove, hinner, hbelow⟩ : (∀ line ∈ above, '\n' ∉ line) ∧
      (∀ line ∈ lines, '\n' ∉ line) ∧ ∀ line ∈ below, '\n' ∉ line := by
    simp only [List.forall_mem_append, List.forall_mem_cons] at hnewline
    exact ⟨hnewline.1.1, hnewline.1.2.2, hnewline.2.2⟩
  have hpassage : renderPassage lines = [render (Text.unlines lines)] := by
    simp [renderPassage, hlines]
  have hshape : renderPassage above ++ [[], render (Text.unlines lines), []] ++
      renderPassage below =
        renderPassage above ++ [[]] ++ renderPassage lines ++ [[]] ++ renderPassage below := by
    simp [hpassage]
  rw [render_unlines (by simp) hnewline, blockHtmls_passages, hshape]
  apply Text.unlines_congr
  simp only [List.flatMap_append, List.flatMap_cons, flatMap_renderPassage habove,
    flatMap_renderPassage hinner, flatMap_renderPassage hbelow]
  simp

end Passages

end Markup

end MarkupEditor
