import MarkupEditor.Proofs.Markup.Concatenation

/-!
# Seams

Two texts, one below the other, are rendered as each of them is by itself, with a line feed in
between. There is one exception: where the last line of the upper text and the first line of the
lower one are items of one kind, the run at the end of the one goes on in the other. Then the tag
that closes it and the tag that opens it are missing at the seam, and the line feed with them.
Nothing else changes, neither above nor below.
-/

namespace MarkupEditor.Markup

/-- The kind of list that the last line is an item of, if it is an item. -/
def lastKind (lines : List Text) : Option ListKind :=
  lines.getLast?.bind classify

/-! ### The blocks at a seam -/

section Blocks

variable {above below : List Text} {front back : List Block} {kind : ListKind}
  {items more : List Text}

theorem Block.exists_run_of_kind? {block : Block} (hkind : block.kind? = some kind) :
    ∃ items, block = run kind items := by
  cases block with
  | line text => simp [kind?] at hkind
  | run other items =>
      obtain rfl : other = kind := Option.some.inj hkind
      exact ⟨items, rfl⟩

theorem exists_last_run (hkind : lastKind above = some kind) :
    ∃ front items, blocks above = front ++ [.run kind items] := by
  obtain ⟨text, htext, hclassify⟩ := Option.bind_eq_some_iff.mp hkind
  have hlines : above ≠ [] := List.ne_nil_of_mem (List.mem_of_getLast? htext)
  obtain ⟨front, block, hblocks⟩ :=
    (List.eq_nil_or_concat' (blocks above)).resolve_left (blocks_ne_nil hlines)
  have hlast : block ∈ (blocks above).getLast? := by simp [hblocks]
  obtain ⟨other, hother, hblock⟩ := (isPartition_blocks above).kind?_of_getLast? block hlast
  obtain rfl : text = other := Option.some.inj (htext.symm.trans hother)
  obtain ⟨items, rfl⟩ := Block.exists_run_of_kind? (hblock.trans hclassify)
  exact ⟨front, items, hblocks⟩

theorem exists_first_run (hkind : headKind below = some kind) :
    ∃ more back, blocks below = .run kind more :: back := by
  obtain ⟨text, htext, hclassify⟩ := Option.bind_eq_some_iff.mp hkind
  have hlines : below ≠ [] := List.ne_nil_of_mem (List.mem_of_head? htext)
  obtain ⟨block, back, hblocks⟩ := List.exists_cons_of_ne_nil (blocks_ne_nil hlines)
  have hfirst : block ∈ (blocks below).head? := by simp [hblocks]
  obtain ⟨other, hother, hblock⟩ := (isPartition_blocks below).kind?_of_head? block hfirst
  obtain rfl : text = other := Option.some.inj (htext.symm.trans hother)
  obtain ⟨more, rfl⟩ := Block.exists_run_of_kind? (hblock.trans hclassify)
  exact ⟨more, back, hblocks⟩

/-- The run at the end of the upper lines and the one at the start of the lower lines become one,
and all other blocks stay. -/
theorem IsPartition.merge (habove : IsPartition above (front ++ [.run kind items]))
    (hbelow : IsPartition below (.run kind more :: back)) :
    IsPartition (above ++ below) (front ++ .run kind (items ++ more) :: back) := by
  obtain ⟨hfrontUniform, hupper⟩ := List.forall_mem_append.mp habove.uniform
  obtain ⟨hlower, hbackUniform⟩ := List.forall_mem_cons.mp hbelow.uniform
  have hupper : (Block.run kind items).Uniform := hupper _ (List.mem_singleton_self _)
  refine ⟨?_, ?_, ?_⟩
  · rw [← habove.flatMap_lines, ← hbelow.flatMap_lines]
    simp [Block.lines]
  · rw [List.forall_mem_append, List.forall_mem_cons]
    refine ⟨hfrontUniform, ⟨?_, ?_⟩, hbackUniform⟩
    · exact List.append_ne_nil_of_left_ne_nil hupper.lines_ne_nil more
    · exact List.forall_mem_append.mpr ⟨hupper.classify_eq, hlower.classify_eq⟩
  · -- whether two blocks are separate depends only on their kinds, and the kind has stayed
    obtain ⟨hfront, -, hbefore⟩ := List.isChain_append.mp habove.maximal
    obtain ⟨hafter, hback⟩ := List.isChain_cons.mp hbelow.maximal
    refine List.isChain_append.mpr ⟨hfront, List.isChain_cons.mpr ⟨hafter, hback⟩, ?_⟩
    intro block hblock merged hmerged
    obtain rfl : Block.run kind (items ++ more) = merged := Option.some.inj hmerged
    exact hbefore block hblock (.run kind items) rfl

end Blocks

/-! ### The HTML at a seam -/

section Html

variable {above below : List Text} {kind : ListKind}

theorem renderLines_append_of_separate (habove : above ≠ []) (hbelow : below ≠ [])
    (hkinds : lastKind above = none ∨ lastKind above ≠ headKind below) :
    renderLines (above ++ below) = renderLines above ++ '\n' :: renderLines below := by
  have hblocks : blocks (above ++ below) = blocks above ++ blocks below := by
    apply blocks_append
    intro last hlast first hfirst
    have hlastKind : lastKind above = classify last := by simp [lastKind, Option.mem_def.mp hlast]
    have hheadKind : headKind below = classify first := by
      simp [headKind, Option.mem_def.mp hfirst]
    rwa [hlastKind, hheadKind] at hkinds
  have hne {lines : List Text} (hlines : lines ≠ []) : (blocks lines).map Block.html ≠ [] :=
    fun hnil => blocks_ne_nil hlines (List.map_eq_nil_iff.mp hnil)
  simp only [renderLines_eq_unlines_blocks, hblocks, List.map_append]
  exact Text.unlines_append (hne habove) (hne hbelow)

theorem exists_renderLines_append_of_eq (habove : lastKind above = some kind)
    (hbelow : headKind below = some kind) :
    ∃ upper lower, renderLines above = upper ++ kind.closeTag ∧
      renderLines below = kind.openTag ++ lower ∧ renderLines (above ++ below) = upper ++ lower := by
  obtain ⟨front, items, habove⟩ := exists_last_run habove
  obtain ⟨more, back, hbelow⟩ := exists_first_run hbelow
  have hmerged : blocks (above ++ below) = front ++ .run kind (items ++ more) :: back := by
    have hpartition := (habove ▸ isPartition_blocks above).merge (hbelow ▸ isPartition_blocks below)
    exact hpartition.eq_blocks.symm
  refine ⟨(front.flatMap fun block => block.html ++ ['\n']) ++ kind.openTag ++
      items.flatMap renderLine,
    more.flatMap renderLine ++ kind.closeTag ++ back.flatMap fun block => '\n' :: block.html,
    ?_, ?_, ?_⟩
  · rw [renderLines_eq_unlines_blocks, habove, List.map_append, List.map_singleton,
      Text.unlines_append_cons, List.flatMap_map]
    simp [Block.html]
  · rw [renderLines_eq_unlines_blocks, hbelow, List.map_cons, Text.unlines_cons, List.flatMap_map]
    simp [Block.html]
  · rw [renderLines_eq_unlines_blocks, hmerged, List.map_append, List.map_cons,
      Text.unlines_append_cons, List.flatMap_map, List.flatMap_map]
    simp [Block.html]

end Html

/-- **Rendering at a seam.** If the last line of the upper text and the first line of the lower one
are items of one kind, the HTML of the upper text ends by closing a list of this kind and that of
the lower text starts by opening one, and together the texts are rendered without these two tags.
Otherwise the HTML of the two is joined by a line feed. -/
theorem render_append_newline (above below : Text) :
    (∀ kind, lastKind above.lines = some kind → headKind below.lines = some kind →
      ∃ upper lower, render above = upper ++ kind.closeTag ∧ render below = kind.openTag ++ lower ∧
        render (above ++ '\n' :: below) = upper ++ lower) ∧
    (lastKind above.lines = none ∨ lastKind above.lines ≠ headKind below.lines →
      render (above ++ '\n' :: below) = render above ++ '\n' :: render below) := by
  simp only [render, Text.lines_append_newline]
  constructor
  · intro kind habove hbelow
    exact exists_renderLines_append_of_eq habove hbelow
  · intro hkinds
    exact renderLines_append_of_separate (Text.lines_ne_nil above) (Text.lines_ne_nil below) hkinds

/-- The bullets above and below the first seam make one list; at the second seam a numbered item
follows them, and starts a list of its own. -/
theorem render_append_newline_bullets :
    let above : Text := "text\n- a\r".toList
    let bullets : Text := " - b\r\n- c".toList
    let below : Text := "1. d".toList
    (lastKind above.lines = some .unordered ∧ headKind bullets.lines = some .unordered ∧
      ∃ upper lower, render above = upper ++ "</ul>".toList ∧
        render bullets = "<ul>".toList ++ lower ∧
        render (above ++ '\n' :: bullets) = upper ++ lower) ∧
    lastKind bullets.lines ≠ headKind below.lines ∧
      render (bullets ++ '\n' :: below) = render bullets ++ '\n' :: render below := by
  intro above bullets below
  have habove : lastKind above.lines = some .unordered := by decide
  have hbullets : headKind bullets.lines = some .unordered := by decide
  have hbelow : lastKind bullets.lines ≠ headKind below.lines := by decide
  exact ⟨⟨habove, hbullets, (render_append_newline above bullets).1 .unordered habove hbullets⟩,
    hbelow, (render_append_newline bullets below).2 (Or.inr hbelow)⟩

end MarkupEditor.Markup
