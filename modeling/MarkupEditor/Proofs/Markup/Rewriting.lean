import Mathlib.Data.List.Basic
import MarkupEditor.Markup.Construct
import MarkupEditor.Proofs.Markup.Pieces

/-!
# What the inline steps leave alone

An inline step looks for the leftmost piece of its construct and replaces it by a tag. Pieces start
and end with a delimiter, so text without delimiters in front of the searched text, or behind it,
is neither read nor moved: searching the whole line finds the same piece as searching the part in
between. Conversely a front without tags that stands there after a step stood there before it,
because the only thing that a step writes first is a tag.
-/

namespace MarkupEditor.Markup

/-- The characters by which inline constructs start and end. -/
def delimiters : List Char := ['*', '_', '\x60', '!', '[', ']', '(', ')']

/-- A text in which no piece starts or ends. -/
def Inert (text : Text) : Prop :=
  ∀ c ∈ text, c ∉ delimiters

instance (text : Text) : Decidable (Inert text) :=
  List.decidableBAll (fun c => c ∉ delimiters) text

/-- The recogniser reads the pieces of a construct and replaces them by tags. Which piece it reads
does not depend on what stands behind the piece. -/
structure Recogniser.Inline (recognise : Recogniser) (Piece : Text → Text → Prop) : Prop where
  eq_some_iff : ∀ {text html behind}, recognise text = some (html, behind) ↔
    ∃ piece, Piece piece html ∧ text = piece ++ behind
  delimited : ∀ {piece html}, Piece piece html →
    ∃ first body last, piece = first :: (body ++ [last]) ∧ first ∈ delimiters ∧ last ∈ delimiters
  tagged : ∀ {piece html}, Piece piece html → ∃ tail, html = '<' :: tail
  newline_not_mem : ∀ {piece html}, Piece piece html → '\n' ∉ piece → '\n' ∉ html

/-! ### The five constructs -/

theorem element_eq_cons (name body : Text) :
    element name body = '<' :: (name ++ '>' :: body ++ '<' :: '/' :: name ++ ['>']) := by
  simp [element]

theorem element_eq_between (name body : Text) :
    element name body = ('<' :: name ++ ['>']) ++ body ++ ('<' :: '/' :: name ++ ['>']) := by
  simp [element]

theorem newline_not_mem_element {name body : Text} (hname : '\n' ∉ name) (hbody : '\n' ∉ body) :
    '\n' ∉ element name body := by
  simp [element, hname, hbody]

theorem imageHtml_eq_cons (label target : Text) :
    imageHtml label target =
      '<' :: ("img src=\"".toList ++ target ++ "\" alt=\"".toList ++ label ++ "\">".toList) := by
  rfl

theorem anchorHtml_eq_cons (label target : Text) :
    anchorHtml label target =
      '<' :: ("a href=\"".toList ++ target ++ "\">".toList ++ label ++ "</a>".toList) := by
  rfl

theorem boldAt_inline : boldAt.Inline BoldPiece where
  eq_some_iff := boldAt_eq_some_iff
  delimited := by
    rintro _ _ ⟨c, rest, _, _, rfl, _⟩
    exact ⟨'*', '*' :: (c :: rest ++ ['*']), '*', by simp, by decide, by decide⟩
  tagged := by
    rintro _ _ ⟨c, rest, _, _, _, rfl⟩
    exact ⟨_, element_eq_cons _ _⟩
  newline_not_mem := by
    rintro _ _ ⟨c, rest, hline, _, _, rfl⟩ _
    exact newline_not_mem_element (by decide) hline

section Marked

variable {mark : Char} {name piece html : Text}

theorem MarkedPiece.delimited (hmark : mark ∈ delimiters)
    (hpiece : MarkedPiece mark name piece html) :
    ∃ first body last, piece = first :: (body ++ [last]) ∧ first ∈ delimiters ∧
      last ∈ delimiters := by
  obtain ⟨body, _, _, rfl, _⟩ := hpiece
  exact ⟨mark, body, mark, rfl, hmark, hmark⟩

theorem MarkedPiece.tagged (hpiece : MarkedPiece mark name piece html) :
    ∃ tail, html = '<' :: tail := by
  obtain ⟨body, _, _, _, rfl⟩ := hpiece
  exact ⟨_, element_eq_cons _ _⟩

theorem MarkedPiece.newline_not_mem (hname : '\n' ∉ name)
    (hpiece : MarkedPiece mark name piece html) (hline : '\n' ∉ piece) : '\n' ∉ html := by
  obtain ⟨body, _, _, rfl, rfl⟩ := hpiece
  simp only [List.mem_cons, List.mem_append, not_or] at hline
  exact newline_not_mem_element hname hline.2.1

end Marked

theorem italicAt_inline : italicAt.Inline ItalicPiece where
  eq_some_iff := italicAt_eq_some_iff
  delimited := by
    rintro _ _ (hpiece | hpiece)
    · exact hpiece.delimited (by decide)
    · exact hpiece.delimited (by decide)
  tagged := by
    rintro _ _ (hpiece | hpiece)
    · exact hpiece.tagged
    · exact hpiece.tagged
  newline_not_mem := by
    rintro _ _ (hpiece | hpiece) hline
    · exact hpiece.newline_not_mem (by decide) hline
    · exact hpiece.newline_not_mem (by decide) hline

theorem codeAt_inline : codeAt.Inline (MarkedPiece '\x60' "code".toList) where
  eq_some_iff := codeAt_eq_some_iff
  delimited hpiece := hpiece.delimited (by decide)
  tagged hpiece := hpiece.tagged
  newline_not_mem hpiece hline := hpiece.newline_not_mem (by decide) hline

theorem ReferencePiece.newline_not_mem {label target piece : Text}
    (hpiece : ReferencePiece label target piece) (hline : '\n' ∉ piece) :
    '\n' ∉ label ∧ '\n' ∉ target := by
  obtain ⟨_, _, rfl⟩ := hpiece
  simp only [List.mem_cons, List.mem_append, not_or] at hline
  exact ⟨hline.2.1, hline.2.2.2.2.1⟩

theorem imageAt_inline : imageAt.Inline ImagePiece where
  eq_some_iff := imageAt_eq_some_iff
  delimited := by
    rintro _ _ ⟨label, target, _, ⟨_, _, rfl⟩, rfl, _⟩
    exact ⟨'!', '[' :: (label ++ ']' :: '(' :: target), ')', by simp, by decide, by decide⟩
  tagged := by
    rintro _ _ ⟨label, target, _, _, _, rfl⟩
    exact ⟨_, imageHtml_eq_cons label target⟩
  newline_not_mem := by
    rintro _ _ ⟨label, target, reference, hreference, rfl, rfl⟩ hline
    rw [List.mem_cons, not_or] at hline
    obtain ⟨hlabel, htarget⟩ := hreference.newline_not_mem hline.2
    rw [imageHtml_eq_cons]
    simp [hlabel, htarget]

theorem linkAt_inline : linkAt.Inline LinkPiece where
  eq_some_iff := linkAt_eq_some_iff
  delimited := by
    rintro _ _ ⟨label, target, ⟨_, _, rfl⟩, _⟩
    exact ⟨'[', label ++ ']' :: '(' :: target, ')', by simp, by decide, by decide⟩
  tagged := by
    rintro _ _ ⟨label, target, _, rfl⟩
    exact ⟨_, anchorHtml_eq_cons label target⟩
  newline_not_mem := by
    rintro _ _ ⟨label, target, hreference, rfl⟩ hline
    obtain ⟨hlabel, htarget⟩ := hreference.newline_not_mem hline
    rw [anchorHtml_eq_cons]
    simp [hlabel, htarget]

/-! ### Searching beside inert text -/

section Rewriting

variable {recognise : Recogniser} {Piece : Text → Text → Prop} {front text behind html : Text}

theorem Inert.cons_iff {c : Char} : Inert (c :: text) ↔ c ∉ delimiters ∧ Inert text :=
  List.forall_mem_cons

namespace Recogniser.Inline

theorem eq_none_of_not_mem (hinline : recognise.Inline Piece) {c : Char}
    (hc : c ∉ delimiters) : recognise (c :: text) = none := by
  cases hread : recognise (c :: text) with
  | none => rfl
  | some read =>
      obtain ⟨piece, hpiece, heq⟩ := hinline.eq_some_iff.mp hread
      obtain ⟨first, body, last, rfl, hfirst, _⟩ := hinline.delimited hpiece
      rw [List.cons_append, List.cons.injEq] at heq
      exact absurd (heq.1 ▸ hfirst) hc

/-- A piece at the front of a text that ends with inert text does not reach into the inert text. -/
theorem exists_of_append_inert (hinline : recognise.Inline Piece) {piece suffix : Text}
    (hpiece : Piece piece html) (hsuffix : Inert suffix) (heq : text ++ suffix = piece ++ behind) :
    ∃ rest, text = piece ++ rest ∧ behind = rest ++ suffix := by
  rcases List.append_eq_append_iff.mp heq with ⟨overlap, hpieceEq, hsuffixEq⟩ | hinside
  · obtain ⟨first, body, last, hends, _, hlast⟩ := hinline.delimited hpiece
    rcases List.eq_nil_or_concat' overlap with rfl | ⟨overlap, c, rfl⟩
    · exact ⟨[], by simp [hpieceEq], by simp [hsuffixEq]⟩
    · -- the last character of the piece would stand in the inert text
      have hlists : text ++ overlap ++ [c] = first :: body ++ [last] := by
        rw [List.append_assoc, ← hpieceEq, hends]
        rfl
      have hc : c = last := List.singleton_inj.mp (List.append_inj' hlists rfl).2
      have hmem : c ∈ suffix := by simp [hsuffixEq]
      exact absurd (hc ▸ hlast) (hsuffix c hmem)
  · exact hinside

/-- A recogniser does not see inert text at the end of a text. -/
theorem append_inert (hinline : recognise.Inline Piece) {suffix : Text} (hsuffix : Inert suffix) :
    recognise (text ++ suffix) =
      (recognise text).map fun (html, behind) => (html, behind ++ suffix) := by
  cases hread : recognise text with
  | some read =>
      obtain ⟨piece, hpiece, rfl⟩ := hinline.eq_some_iff.mp hread
      exact hinline.eq_some_iff.mpr ⟨piece, hpiece, List.append_assoc _ _ _⟩
  | none =>
      rw [Option.map_none, Option.eq_none_iff_forall_ne_some]
      rintro ⟨html, behind⟩ hlong
      obtain ⟨piece, hpiece, heq⟩ := hinline.eq_some_iff.mp hlong
      obtain ⟨rest, rfl, _⟩ := hinline.exists_of_append_inert hpiece hsuffix heq
      rw [hinline.eq_some_iff.mpr ⟨piece, hpiece, rfl⟩] at hread
      simp at hread

theorem rewriteFirst_of_inert (hinline : recognise.Inline Piece) (htext : Inert text) :
    rewriteFirst recognise text = text := by
  induction text with
  | nil => rfl
  | cons c text ih =>
      obtain ⟨hc, htext⟩ := Inert.cons_iff.mp htext
      rw [rewriteFirst, hinline.eq_none_of_not_mem hc, ih htext]

theorem rewriteFirst_inert_append (hinline : recognise.Inline Piece) (hfront : Inert front) :
    rewriteFirst recognise (front ++ text) = front ++ rewriteFirst recognise text := by
  induction front with
  | nil => rfl
  | cons c front ih =>
      obtain ⟨hc, hfront⟩ := Inert.cons_iff.mp hfront
      rw [List.cons_append, rewriteFirst, hinline.eq_none_of_not_mem hc, ih hfront]
      rfl

theorem rewriteFirst_append_inert (hinline : recognise.Inline Piece) {suffix : Text}
    (hsuffix : Inert suffix) :
    rewriteFirst recognise (text ++ suffix) = rewriteFirst recognise text ++ suffix := by
  induction text with
  | nil => exact hinline.rewriteFirst_of_inert hsuffix
  | cons c text ih =>
      have happend : recognise (c :: (text ++ suffix)) =
          (recognise (c :: text)).map fun (html, behind) => (html, behind ++ suffix) := by
        rw [← List.cons_append]
        exact hinline.append_inert hsuffix
      rw [List.cons_append, rewriteFirst, rewriteFirst, happend]
      cases recognise (c :: text) with
      | none => simp [ih]
      | some read => simp

/-- A front without tags that stands there after the step stood there before it. -/
theorem exists_of_rewriteFirst_eq_append (hinline : recognise.Inline Piece) {rest : Text}
    (htag : '<' ∉ front) (heq : rewriteFirst recognise text = front ++ rest) :
    ∃ body, text = front ++ body ∧ rest = rewriteFirst recognise body := by
  induction front generalizing text with
  | nil => exact ⟨text, rfl, heq.symm⟩
  | cons c front ih =>
      rw [List.mem_cons, not_or] at htag
      cases text with
      | nil => simp [rewriteFirst] at heq
      | cons d text =>
          cases hread : recognise (d :: text) with
          | some read =>
              obtain ⟨piece, hpiece, _⟩ := hinline.eq_some_iff.mp hread
              obtain ⟨tail, htail⟩ := hinline.tagged hpiece
              simp only [rewriteFirst, hread, htail, List.cons_append, List.cons.injEq] at heq
              exact absurd heq.1 htag.1
          | none =>
              simp only [rewriteFirst, hread, List.cons_append, List.cons.injEq] at heq
              obtain ⟨body, rfl, hrest⟩ := ih htag.2 heq.2
              exact ⟨body, by rw [heq.1]; rfl, hrest⟩

theorem rewriteFirst_eq_nil_iff (hinline : recognise.Inline Piece) :
    rewriteFirst recognise text = [] ↔ text = [] := by
  constructor
  · intro hnil
    cases text with
    | nil => rfl
    | cons c text =>
        rw [rewriteFirst] at hnil
        cases hread : recognise (c :: text) with
        | none => simp [hread] at hnil
        | some read =>
            obtain ⟨piece, hpiece, _⟩ := hinline.eq_some_iff.mp hread
            obtain ⟨tail, htail⟩ := hinline.tagged hpiece
            simp [hread, htail] at hnil
  · rintro rfl
    rfl

theorem newline_not_mem_rewriteFirst (hinline : recognise.Inline Piece) (htext : '\n' ∉ text) :
    '\n' ∉ rewriteFirst recognise text := by
  induction text with
  | nil => simp [rewriteFirst]
  | cons c text ih =>
      rw [rewriteFirst]
      cases hread : recognise (c :: text) with
      | none =>
          rw [List.mem_cons, not_or] at htext ⊢
          exact ⟨htext.1, ih htext.2⟩
      | some read =>
          obtain ⟨piece, hpiece, heq⟩ := hinline.eq_some_iff.mp hread
          rw [heq, List.mem_append, not_or] at htext
          rw [List.mem_append, not_or]
          exact ⟨hinline.newline_not_mem hpiece htext.1, htext.2⟩

end Recogniser.Inline

end Rewriting

/-! ### The inline steps of the table -/

/-- The constructs of which any text may hold pieces, in the order of their steps. -/
def inlineConstructs : List Construct :=
  [.bold, .italic, .code, .image, .link]

namespace Construct

/-- The pieces of an inline construct, with the HTML that the step writes for them. -/
def Piece : Construct → Text → Text → Prop
  | bold => BoldPiece
  | italic => ItalicPiece
  | code => MarkedPiece '\x60' "code".toList
  | image => ImagePiece
  | link => LinkPiece
  | heading | blockquote | rule | orderedItem | unorderedItem => fun _ _ => False

/-- The recogniser that the step of an inline construct looks with. -/
def recogniser : Construct → Recogniser
  | bold => boldAt
  | italic => italicAt
  | code => codeAt
  | image => imageAt
  | link => linkAt
  | heading | blockquote | rule | orderedItem | unorderedItem => fun _ => none

end Construct

section Steps

variable {construct : Construct} {constructs : List Construct} {front text suffix : Text}

theorem inline_recogniser (hmem : construct ∈ inlineConstructs) :
    construct.recogniser.Inline construct.Piece := by
  cases construct with
  | bold => exact boldAt_inline
  | italic => exact italicAt_inline
  | code => exact codeAt_inline
  | image => exact imageAt_inline
  | link => exact linkAt_inline
  | heading | blockquote | rule | orderedItem | unorderedItem => exact absurd hmem (by decide)

theorem rewrite_eq_rewriteFirst (hmem : construct ∈ inlineConstructs) :
    construct.rewrite = rewriteFirst construct.recogniser := by
  cases construct with
  | bold | italic | code | image | link => rfl
  | heading | blockquote | rule | orderedItem | unorderedItem => exact absurd hmem (by decide)

theorem rewrite_inert_append (hmem : construct ∈ inlineConstructs) (hfront : Inert front)
    (hsuffix : Inert suffix) :
    construct.rewrite (front ++ text ++ suffix) = front ++ construct.rewrite text ++ suffix := by
  have hinline := inline_recogniser hmem
  rw [rewrite_eq_rewriteFirst hmem, hinline.rewriteFirst_append_inert hsuffix,
    hinline.rewriteFirst_inert_append hfront]

theorem rewrite_element {name body : Text} (hmem : construct ∈ inlineConstructs)
    (hname : Inert name) :
    construct.rewrite (element name body) = element name (construct.rewrite body) := by
  have hopening : Inert ('<' :: name ++ ['>']) := by
    simp only [Inert, List.cons_append, List.forall_mem_cons, List.forall_mem_append]
    exact ⟨by decide, hname, by decide, by simp⟩
  have hclosing : Inert ('<' :: '/' :: name ++ ['>']) := by
    simp only [Inert, List.cons_append, List.forall_mem_cons, List.forall_mem_append]
    exact ⟨by decide, by decide, hname, by decide, by simp⟩
  rw [element_eq_between, rewrite_inert_append hmem hopening hclosing, ← element_eq_between]

theorem newline_not_mem_rewrite (hmem : construct ∈ inlineConstructs) (htext : '\n' ∉ text) :
    '\n' ∉ construct.rewrite text := by
  rw [rewrite_eq_rewriteFirst hmem]
  exact (inline_recogniser hmem).newline_not_mem_rewriteFirst htext

end Steps

end MarkupEditor.Markup
