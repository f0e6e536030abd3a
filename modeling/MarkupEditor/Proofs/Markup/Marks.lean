import Mathlib.Data.List.Basic
import MarkupEditor.Proofs.Markup.Images
import MarkupEditor.Proofs.Markup.Rewriting

/-!
# Marks

Every piece of an inline construct holds a mark of the construct: two stars or one, an underscore, a
backtick, an opening bracket. So a step keeps a text without its marks. If such a text stands in front
of a piece, the step rewrites the piece, because the piece starts with the mark; only an image starts
with a character that may also stand in front of it. This is enough to follow the five steps over a
text in which a single piece stands between texts without any marks.
-/

namespace MarkupEditor.Markup

namespace Construct

/-- Characters of which every piece of the construct holds one. -/
def marks : Construct → List Char
  | bold => ['*']
  | italic => ['*', '_']
  | code => ['\x60']
  | image | link => ['[']
  | heading | blockquote | rule | orderedItem | unorderedItem => []

end Construct

section Steps

variable {construct : Construct} {constructs : List Construct}
  {front text piece html behind : Text}

/-- Every piece but an image starts with a mark. -/
theorem Construct.Piece.exists_eq_cons (himage : construct ≠ .image)
    (hpiece : construct.Piece piece html) :
    ∃ mark rest, piece = mark :: rest ∧ mark ∈ construct.marks := by
  cases construct with
  | bold =>
      obtain ⟨c, rest, -, -, rfl, -⟩ := hpiece
      exact ⟨_, _, rfl, by decide⟩
  | italic =>
      rcases hpiece with ⟨body, -, -, rfl, -⟩ | ⟨body, -, -, rfl, -⟩
      · exact ⟨_, _, rfl, by decide⟩
      · exact ⟨_, _, rfl, by decide⟩
  | code =>
      obtain ⟨body, -, -, rfl, -⟩ := hpiece
      exact ⟨_, _, rfl, by decide⟩
  | link =>
      obtain ⟨label, target, ⟨-, -, rfl⟩, -⟩ := hpiece
      exact ⟨_, _, rfl, by decide⟩
  | image => exact absurd rfl himage
  | heading | blockquote | rule | orderedItem | unorderedItem => exact hpiece.elim

theorem recogniser_eq_none (hmem : construct ∈ inlineConstructs) (himage : construct ≠ .image)
    {c : Char} (hc : c ∉ construct.marks) : construct.recogniser (c :: text) = none := by
  rw [Option.eq_none_iff_forall_ne_some]
  rintro ⟨html, behind⟩ hread
  obtain ⟨piece, hpiece, heq⟩ := (inline_recogniser hmem).eq_some_iff.mp hread
  obtain ⟨mark, tail, rfl, hmark⟩ := hpiece.exists_eq_cons himage
  exact hc ((List.cons.inj heq).1 ▸ hmark)

/-- No image starts in a text without brackets, unless at its end and with the bracket behind it. -/
theorem passes_image (hbracket : '[' ∉ front.tail)
    (hend : text.head? = some '[' → front.getLast? ≠ some '!') : imageAt.Passes front text := by
  intro suffix hsuffix hne
  rw [← Option.not_isSome_iff_eq_none, isSome_imageAt_iff]
  rintro ⟨body, heq, -⟩
  obtain ⟨before, rfl⟩ := hsuffix
  rcases suffix with _ | ⟨c, _ | ⟨d, suffix⟩⟩
  · contradiction
  · obtain ⟨rfl, hopen⟩ := List.cons.inj heq
    have hhead : text = '[' :: body := hopen
    exact hend (hhead ▸ rfl) List.getLast?_concat
  · obtain ⟨-, hopen⟩ := List.cons.inj heq
    obtain ⟨rfl, -⟩ := List.cons.inj hopen
    apply hbracket
    cases before <;> simp

/-- A step passes a text without its marks. -/
theorem passes_of_disjoint (hmem : construct ∈ inlineConstructs)
    (hfront : front.Disjoint construct.marks)
    (hend : construct = .image → text.head? = some '[' → front.getLast? ≠ some '!') :
    construct.recogniser.Passes front text := by
  by_cases himage : construct = .image
  · subst himage
    have hbracket : '[' ∉ front := List.disjoint_singleton.mp hfront
    exact passes_image (fun hin => hbracket (List.mem_of_mem_tail hin)) (hend rfl)
  · intro suffix hsuffix hne
    cases suffix with
    | nil => contradiction
    | cons c suffix =>
        exact recogniser_eq_none hmem himage fun hin => hfront (hsuffix.mem List.mem_cons_self) hin

theorem rewrite_piece_append (hmem : construct ∈ inlineConstructs)
    (hpiece : construct.Piece piece html) (behind : Text) :
    construct.rewrite (piece ++ behind) = html ++ behind := by
  have hinline := inline_recogniser hmem
  have hread : construct.recogniser (piece ++ behind) = some (html, behind) :=
    hinline.eq_some_iff.mpr ⟨piece, hpiece, rfl⟩
  rw [rewrite_eq_rewriteFirst hmem,
    hinline.rewriteFirst_of_readsFirst (Recogniser.readsFirst_nil hread)]
  rfl

theorem rewrite_append_of_disjoint (hmem : construct ∈ inlineConstructs)
    (hfront : front.Disjoint construct.marks)
    (hend : construct = .image → text.head? = some '[' → front.getLast? ≠ some '!') :
    construct.rewrite (front ++ text) = front ++ construct.rewrite text := by
  rw [rewrite_eq_rewriteFirst hmem]
  exact (passes_of_disjoint hmem hfront hend).rewriteFirst_append

/-- A step keeps a text without its marks. -/
theorem rewrite_of_disjoint (hmem : construct ∈ inlineConstructs)
    (htext : text.Disjoint construct.marks) : construct.rewrite text = text := by
  have hnil : construct.rewrite [] = [] := by
    rw [rewrite_eq_rewriteFirst hmem]
    rfl
  have happend : construct.rewrite (text ++ []) = text ++ construct.rewrite [] :=
    rewrite_append_of_disjoint hmem htext (by simp)
  rwa [List.append_nil, hnil, List.append_nil] at happend

theorem rewriteAll_of_disjoint (hsub : constructs ⊆ inlineConstructs)
    (htext : ∀ construct ∈ constructs, text.Disjoint construct.marks) :
    rewriteAll constructs text = text := by
  induction constructs with
  | nil => rfl
  | cons step constructs ih =>
      rw [List.cons_subset] at hsub
      obtain ⟨hstep, hrest⟩ := List.forall_mem_cons.mp htext
      rw [rewriteAll_cons, rewrite_of_disjoint hsub.1 hstep, ih hsub.2 hrest]

/-- The image step keeps a single bracket, unless it follows an exclamation mark. -/
theorem rewrite_image_bracket (hfront : '[' ∉ front) (hend : front.getLast? ≠ some '!')
    (hbehind : '[' ∉ behind) :
    Construct.image.rewrite (front ++ '[' :: behind) = front ++ '[' :: behind := by
  have hbracket : Construct.image.rewrite ('[' :: behind) =
      '[' :: Construct.image.rewrite behind := by
    change rewriteFirst imageAt ('[' :: behind) = _
    rw [rewriteFirst, imageAt_cons_eq_none (by decide)]
    rfl
  have hmem : Construct.image ∈ inlineConstructs := by decide
  rw [rewrite_append_of_disjoint hmem (List.disjoint_singleton.mpr hfront) fun _ _ => hend,
    hbracket, rewrite_of_disjoint hmem (List.disjoint_singleton.mpr hbehind)]

end Steps

/-! ### One piece in a line -/

instance decidableDisjoint (text marks : Text) : Decidable (text.Disjoint marks) :=
  @decidable_of_iff _ _ List.disjoint_left.symm (List.decidableBAll (fun c => c ∉ marks) text)

/-- The marks of all inline constructs, and the bracket that closes a label. -/
def inlineMarks : List Char := ['*', '_', '\x60', '[', ']']

theorem Construct.marks_subset (construct : Construct) : construct.marks ⊆ inlineMarks := by
  cases construct <;> decide

section Pieces

variable {construct : Construct} {earlier later : List Construct}
  {front piece html behind tail rest : Text}

theorem rewrite_piece (hmem : construct ∈ inlineConstructs)
    (hfront : front.Disjoint construct.marks) (hpiece : construct.Piece piece html) :
    construct.rewrite (front ++ (piece ++ behind)) = front ++ (html ++ behind) := by
  have hend : construct = .image → (piece ++ behind).head? = some '[' →
      front.getLast? ≠ some '!' := by
    rintro rfl hopen
    obtain ⟨label, target, reference, -, rfl, -⟩ := hpiece
    simp at hopen
  rw [rewrite_append_of_disjoint hmem hfront hend, rewrite_piece_append hmem hpiece]

/-- A piece between texts without marks is all that the inline steps rewrite, if the steps before its
own keep it. -/
theorem renderInline_of_piece (hsplit : inlineConstructs = earlier ++ construct :: later)
    (hpiece : construct.Piece piece html)
    (hearlier : rewriteAll earlier (front ++ (piece ++ behind)) = front ++ (piece ++ behind))
    (hfront : front.Disjoint inlineMarks) (hhtml : html.Disjoint inlineMarks)
    (hbehind : behind.Disjoint inlineMarks) :
    renderInline (front ++ (piece ++ behind)) = front ++ (html ++ behind) := by
  have hmem : construct ∈ inlineConstructs := by simp [hsplit]
  have hlater : later ⊆ inlineConstructs := by simp [hsplit]
  have hunmarked : (front ++ (html ++ behind)).Disjoint inlineMarks :=
    List.disjoint_append_left.mpr ⟨hfront, List.disjoint_append_left.mpr ⟨hhtml, hbehind⟩⟩
  have hown : construct.rewrite (front ++ (piece ++ behind)) = front ++ (html ++ behind) :=
    rewrite_piece hmem (List.disjoint_of_subset_right construct.marks_subset hfront) hpiece
  calc renderInline (front ++ (piece ++ behind))
      = rewriteAll later (construct.rewrite (rewriteAll earlier (front ++ (piece ++ behind)))) := by
        rw [renderInline_eq, hsplit, rewriteAll_append, rewriteAll_cons]
    _ = rewriteAll later (front ++ (html ++ behind)) := by rw [hearlier, hown]
    _ = front ++ (html ++ behind) :=
        rewriteAll_of_disjoint hlater fun other _ =>
          List.disjoint_of_subset_right other.marks_subset hunmarked

/-- A delimiter in the middle of a line gives it no form that it had not before. -/
theorem body?_delimiter_eq_none {delimiter : Char} (hdelimiter : delimiter ∈ delimiters)
    (hline : '\n' ∉ front ++ tail)
    (hform : ∀ body, construct.body? (front ++ tail) = some body → construct = .rule) :
    construct.body? (front ++ delimiter :: rest) = none := by
  rw [Option.eq_none_iff_forall_ne_some]
  intro body hbody
  obtain ⟨-, hrule, lead, hlead, heq⟩ := body?_eq_some_iff.mp hbody
  have hinside : ∃ inner, front = lead ++ inner ∧ body = inner ++ delimiter :: rest := by
    rcases List.append_eq_append_iff.mp heq with ⟨overlap, hleadEq, hbodyEq⟩ | ⟨inner, hfront, hbodyEq⟩
    · cases overlap with
      | nil => exact ⟨[], by simpa using hleadEq.symm, hbodyEq.symm⟩
      | cons c overlap =>
          -- the delimiter would belong to the front of the form
          obtain ⟨rfl, -⟩ := List.cons.inj hbodyEq
          exact absurd hdelimiter (hlead.inert delimiter (by simp [hleadEq]))
    · exact ⟨inner, hfront, hbodyEq⟩
  obtain ⟨inner, rfl, rfl⟩ := hinside
  have hnotRule : construct ≠ .rule := by
    intro hconstruct
    simpa using hrule hconstruct
  have hsome : construct.body? (lead ++ (inner ++ tail)) = some (inner ++ tail) := by
    refine body?_eq_some_iff.mpr ⟨?_, fun hconstruct => absurd hconstruct hnotRule, lead, hlead, rfl⟩
    rw [List.append_assoc, List.mem_append, not_or] at hline
    exact hline.2
  rw [← List.append_assoc] at hsome
  exact hnotRule (hform _ hsome)

/-- A line that is no heading, quote or item and holds no marks. -/
structure PlainLine (line : Text) : Prop where
  newline_not_mem : '\n' ∉ line
  disjoint : line.Disjoint inlineMarks
  ne_heading : ∀ body, line ≠ '#' :: ' ' :: body
  ne_quote : ∀ body, line ≠ '>' :: ' ' :: body
  classify_eq : classify line = none

namespace PlainLine

variable {line body removed : Text}

/-- A plain line may still be a rule. -/
theorem eq_rule_of_body? (hplain : PlainLine line) (hbody : construct.body? line = some body) :
    construct = .rule := by
  by_cases hrule : line = "---".toList
  · exact eq_of_body? hbody (ruleBody?_eq_some_iff.mpr ⟨rfl, hrule⟩)
  · rw [body?_of_not_form hplain.newline_not_mem hplain.ne_heading hplain.ne_quote hrule
      hplain.classify_eq] at hbody
    contradiction

theorem parts (hplain : PlainLine (front ++ removed ++ behind)) :
    (front.Disjoint inlineMarks ∧ removed.Disjoint inlineMarks ∧ behind.Disjoint inlineMarks) ∧
      '\n' ∉ front ∧ '\n' ∉ removed ∧ '\n' ∉ behind := by
  have hdisjoint := hplain.disjoint
  have hnewline := hplain.newline_not_mem
  simp only [List.disjoint_append_left] at hdisjoint
  simp only [List.mem_append, not_or] at hnewline
  exact ⟨⟨hdisjoint.1.1, hdisjoint.1.2, hdisjoint.2⟩, hnewline.1.1, hnewline.1.2, hnewline.2⟩

/-- Steps that see no mark in a piece keep a plain line with the piece in it. -/
theorem rewriteAll_of_disjoint (hplain : PlainLine (front ++ removed ++ behind))
    (hsub : earlier ⊆ inlineConstructs) (hpiece : ∀ step ∈ earlier, piece.Disjoint step.marks) :
    rewriteAll earlier (front ++ (piece ++ behind)) = front ++ (piece ++ behind) := by
  obtain ⟨⟨hfront, -, hbehind⟩, -⟩ := hplain.parts
  apply Markup.rewriteAll_of_disjoint hsub
  intro step hstep
  rw [List.disjoint_append_left, List.disjoint_append_left]
  exact ⟨List.disjoint_of_subset_right step.marks_subset hfront, hpiece step hstep,
    List.disjoint_of_subset_right step.marks_subset hbehind⟩

/-- A piece in the place of a part of a plain line is all that is rewritten in the line, if the steps
before its own keep it. -/
theorem renderLine_of_piece (hplain : PlainLine (front ++ removed ++ behind))
    (hsplit : inlineConstructs = earlier ++ construct :: later)
    (hpiece : construct.Piece piece html) (hnewline : '\n' ∉ piece)
    (hearlier : rewriteAll earlier (front ++ (piece ++ behind)) = front ++ (piece ++ behind))
    (hhtml : html.Disjoint inlineMarks) :
    renderLine (front ++ piece ++ behind) = front ++ html ++ behind := by
  obtain ⟨⟨hfront, -, hbehind⟩, hfrontLine, -, hbehindLine⟩ := hplain.parts
  have hline : '\n' ∉ front ++ (piece ++ behind) := by
    simp only [List.mem_append, not_or]
    exact ⟨hfrontLine, hnewline, hbehindLine⟩
  have hforms : ∀ other : Construct, other.body? (front ++ (piece ++ behind)) = none := by
    have hmem : construct ∈ inlineConstructs := by simp [hsplit]
    obtain ⟨first, inner, last, hends, hfirst, -⟩ := (inline_recogniser hmem).delimited hpiece
    rw [List.append_assoc] at hplain
    intro other
    rw [hends, List.cons_append]
    exact body?_delimiter_eq_none hfirst hplain.newline_not_mem fun _ => hplain.eq_rule_of_body?
  rw [List.append_assoc, List.append_assoc, renderLine_of_body?_eq_none hline hforms,
    renderInline_of_piece hsplit hpiece hearlier hfront hhtml hbehind]

end PlainLine

end Pieces

end MarkupEditor.Markup
