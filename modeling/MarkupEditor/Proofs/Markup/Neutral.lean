import MarkupEditor.Proofs.Markup.Nesting

/-!
# What rendering keeps

Rendering replaces marks by tags and moves the target of a reference in front of its label. The
characters in between are captured once and written once. This is followed here for the neutral
characters, those that occur in no mark, no tag and no front of a line: each step of the table, the
grouping into runs and the line endings leave their number as it is.
-/

namespace MarkupEditor.Markup

open Character

/-- A character that no mark and no tag contains: a capital letter of the ASCII range, or a
character beyond that range that is no decimal digit. -/
def Neutral (c : Char) : Prop :=
  c.isUpper = true ∨ (127 < c.toNat ∧ isDigit c = false)

instance (c : Char) : Decidable (Neutral c) :=
  inferInstanceAs (Decidable (_ ∨ _))

/-- A text without neutral characters. -/
def Scaffold (text : Text) : Prop :=
  ∀ c ∈ text, ¬Neutral c

instance (text : Text) : Decidable (Scaffold text) :=
  List.decidableBAll (fun c => ¬Neutral c) text

section Characters

variable {c : Char} {text name body : Text}

theorem isDigit_eq_false_of_isUpper (hupper : c.isUpper = true) : isDigit c = false := by
  have hletters : 'A'.val ≤ c.val ∧ c.val ≤ 'Z'.val := of_decide_eq_true hupper
  have hbounds : 65 ≤ c.toNat ∧ c.toNat ≤ 90 := hletters
  -- between the ASCII digits and the next range of digits
  rw [isDigit, digitRanges, Ranges.covers, if_neg (by omega), Ranges.covers, if_pos (by omega),
    Bool.or_false, decide_eq_false_iff_not]
  omega

theorem Neutral.isDigit_eq_false (hc : Neutral c) : isDigit c = false := by
  rcases hc with hupper | ⟨-, hdigit⟩
  · exact isDigit_eq_false_of_isUpper hupper
  · exact hdigit

theorem Scaffold.count_eq_zero (htext : Scaffold text) (hc : Neutral c) : text.count c = 0 :=
  List.count_eq_zero_of_not_mem fun hmem => htext c hmem hc

theorem Scaffold.append (hname : Scaffold name) (htext : Scaffold text) :
    Scaffold (name ++ text) :=
  List.forall_mem_append.mpr ⟨hname, htext⟩

theorem count_enclosed {opening closing : Text} (hopening : Scaffold opening)
    (hclosing : Scaffold closing) (hc : Neutral c) :
    (opening ++ (body ++ closing)).count c = body.count c := by
  rw [List.count_append, List.count_append, hopening.count_eq_zero hc, hclosing.count_eq_zero hc,
    Nat.zero_add, Nat.add_zero]

/-- A label and a target, in whichever order, with signs around and between them. -/
theorem count_reference {opening between closing first second : Text} (hopening : Scaffold opening)
    (hbetween : Scaffold between) (hclosing : Scaffold closing) (hc : Neutral c) :
    (opening ++ first ++ between ++ second ++ closing).count c = first.count c + second.count c := by
  rw [List.count_append, List.count_append, List.count_append, List.count_append,
    hopening.count_eq_zero hc, hbetween.count_eq_zero hc, hclosing.count_eq_zero hc,
    Nat.zero_add, Nat.add_zero, Nat.add_zero]

theorem count_element (hname : Scaffold name) (hc : Neutral c) :
    (element name body).count c = body.count c := by
  have hopening : Scaffold ('<' :: name ++ ['>']) := by
    simp only [Scaffold, List.cons_append, List.forall_mem_cons, List.forall_mem_append]
    exact ⟨by decide, hname, by decide, by simp⟩
  have hclosing : Scaffold ('<' :: '/' :: name ++ ['>']) := by
    simp only [Scaffold, List.cons_append, List.forall_mem_cons, List.forall_mem_append]
    exact ⟨by decide, by decide, hname, by decide, by simp⟩
  rw [element_eq_between, List.append_assoc, count_enclosed hopening hclosing hc]

end Characters

/-! ### The steps of the table -/

section Steps

variable {construct : Construct} {kind : ListKind} {piece html front body : Text} {c : Char}

theorem Marker.scaffold {marker : Text} (hmarker : Marker kind marker) : Scaffold marker := by
  have hindented : ∀ {indent rest : Text}, indent = [] ∨ indent = [' '] → Scaffold rest →
      Scaffold (indent ++ rest) := by
    rintro indent rest (rfl | rfl) hrest
    · exact hrest
    · exact Scaffold.append (by decide) hrest
  cases hmarker with
  | @ordered indent number hindent _ hdigits =>
      rw [List.append_assoc]
      have hnumber : Scaffold number := by
        intro c hc hneutral
        have hdigit := hdigits c hc
        rw [hneutral.isDigit_eq_false] at hdigit
        contradiction
      exact hindented hindent (hnumber.append (by decide))
  | unordered hindent => exact hindented hindent (by decide)

theorem Front.scaffold (hfront : Front construct front) : Scaffold front := by
  cases hfront with
  | heading | blockquote | rule => decide
  | orderedItem hmarker => exact hmarker.scaffold
  | unorderedItem hmarker => exact hmarker.scaffold

theorem count_enclose (hmem : construct ∉ inlineConstructs) (hrule : construct = .rule → body = [])
    (hc : Neutral c) : (construct.enclose body).count c = body.count c := by
  cases construct with
  | heading | blockquote | orderedItem | unorderedItem => exact count_element (by decide) hc
  | rule =>
      rw [hrule rfl]
      exact (by decide : Scaffold "<hr>".toList).count_eq_zero hc
  | bold | italic | code | image | link => exact absurd (by decide) hmem

theorem count_imageHtml (label target : Text) (hc : Neutral c) :
    (imageHtml label target).count c = target.count c + label.count c :=
  count_reference (by decide) (by decide) (by decide) hc

theorem count_anchorHtml (label target : Text) (hc : Neutral c) :
    (anchorHtml label target).count c = target.count c + label.count c :=
  count_reference (by decide) (by decide) (by decide) hc

theorem ReferencePiece.count_eq {label target : Text} (hpiece : ReferencePiece label target piece)
    (hc : Neutral c) : piece.count c = target.count c + label.count c := by
  obtain ⟨-, -, rfl⟩ := hpiece
  have hshape : '[' :: (label ++ ']' :: '(' :: (target ++ [')'])) =
      ['['] ++ label ++ [']', '('] ++ target ++ [')'] := by
    simp
  rw [hshape, count_reference (by decide) (by decide) (by decide) hc, Nat.add_comm]

/-- What a step reads in a piece it writes into the HTML of the piece. -/
theorem Construct.Piece.count_eq (hmem : construct ∈ inlineConstructs)
    (hpiece : construct.Piece piece html) (hc : Neutral c) : html.count c = piece.count c := by
  by_cases hmarked : construct ∈ [Construct.bold, .italic, .code]
  · obtain ⟨body, mark, more, rfl, rfl, hsub⟩ := exists_body_of_piece hmarked hpiece
    have hmarks : Scaffold inlineMarks := by decide
    have hdelimiter : Scaffold (mark :: more) := fun d hd => hmarks d (hsub hd)
    have hname : Scaffold construct.tagName := by cases construct <;> decide
    rw [count_element hname hc, count_enclosed hdelimiter hdelimiter hc]
  · cases construct with
    | image =>
        obtain ⟨label, target, reference, hreference, rfl, rfl⟩ := hpiece
        have hexclamation : Scaffold ['!'] := by decide
        rw [count_imageHtml label target hc, ← hreference.count_eq hc, ← List.singleton_append,
          List.count_append, hexclamation.count_eq_zero hc, Nat.zero_add]
    | link =>
        obtain ⟨label, target, hreference, rfl⟩ := hpiece
        rw [count_anchorHtml label target hc, hreference.count_eq hc]
    | bold | italic | code => exact absurd (by decide) hmarked
    | heading | blockquote | rule | orderedItem | unorderedItem => exact absurd hmem (by decide)

/-- **One step.** A step of the table keeps the number of every neutral character. -/
theorem count_rewrite (construct : Construct) (line : Text) (hc : Neutral c) :
    (construct.rewrite line).count c = line.count c := by
  by_cases hmem : construct ∈ inlineConstructs
  · rcases rewrite_cases hmem line with
      ⟨hsame, -⟩ | ⟨front, piece, html, behind, hpiece, -, rfl, hrewrite⟩
    · rw [hsame]
    · rw [hrewrite]
      simp only [List.count_append, hpiece.count_eq hmem hc]
  · cases hbody : construct.body? line with
    | none => rw [rewrite_of_body?_eq_none hmem hbody]
    | some body =>
        obtain ⟨-, hrule, front, hfront, rfl⟩ := body?_eq_some_iff.mp hbody
        rw [rewrite_of_body? hbody, count_enclose hmem hrule hc, List.count_append,
          hfront.scaffold.count_eq_zero hc, Nat.zero_add]

theorem count_rewriteAll (constructs : List Construct) (line : Text) (hc : Neutral c) :
    (rewriteAll constructs line).count c = line.count c := by
  induction constructs generalizing line with
  | nil => rfl
  | cons step constructs ih => rw [rewriteAll_cons, ih, count_rewrite step line hc]

end Steps

/-! ### Documents -/

section Documents

variable {c : Char}

theorem Block.count_html (block : Block) (hc : Neutral c) :
    block.html.count c = block.lines.flatten.count c := by
  cases block with
  | line text =>
      rw [Block.html, Block.lines, List.flatten_singleton]
      exact count_rewriteAll Construct.all text hc
  | run kind items =>
      have hname : Scaffold kind.tag := by cases kind <;> decide
      rw [Block.html, ListKind.openTag_append, count_element hname hc, Block.lines]
      induction items with
      | nil => rfl
      | cons item items ih =>
          rw [List.flatMap_cons, List.flatten_cons, List.count_append, List.count_append, ih]
          exact congrArg (· + _) (count_rewriteAll Construct.all item hc)

theorem count_renderLines (lines : List Text) (hc : Neutral c) :
    (renderLines lines).count c = lines.flatten.count c := by
  have hnewline : c ≠ '\n' := by
    rintro rfl
    exact absurd hc (by decide)
  have hblocks : ∀ bs : List Block,
      (bs.map Block.html).flatten.count c = (bs.flatMap Block.lines).flatten.count c := by
    intro bs
    induction bs with
    | nil => rfl
    | cons block bs ih =>
        rw [List.map_cons, List.flatten_cons, List.count_append, ih, block.count_html hc,
          List.flatMap_cons, List.flatten_append, List.count_append]
  rw [renderLines_eq_unlines_blocks, Text.count_unlines hnewline, hblocks,
    (isPartition_blocks lines).flatMap_lines]

/-- **Rendering keeps the content.** A neutral character occurs in the rendering of a source exactly
as often as in the source. -/
theorem count_render (source : Text) {c : Char} (hc : Neutral c) :
    (render source).count c = source.count c := by
  have hnewline : c ≠ '\n' := by
    rintro rfl
    exact absurd hc (by decide)
  have hreturn : c ≠ '\r' := by
    rintro rfl
    exact absurd hc (by decide)
  rw [render, count_renderLines source.lines hc, Text.count_flatten_lines hnewline hreturn]

/-- An image whose label and target change places, in an item that is bold as well. -/
theorem count_render_item :
    Neutral 'É' ∧
      render "1. **É** ![É](B)\r\n2. _É_".toList =
        "<ol><li><strong>É</strong> <img src=\"B\" alt=\"É\"></li><li><em>É</em></li></ol>".toList ∧
      (render "1. **É** ![É](B)\r\n2. _É_".toList).count 'É' = 3 := by
  have hneutral : Neutral 'É' := by decide
  refine ⟨hneutral, by decide, ?_⟩
  rw [count_render _ hneutral]
  decide

end Documents

end MarkupEditor.Markup
