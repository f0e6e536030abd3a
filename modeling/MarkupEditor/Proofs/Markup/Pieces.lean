import MarkupEditor.Markup.Inline
import MarkupEditor.Proofs.Text.Places

/-!
# What the inline constructs read

A recogniser reads a piece at the front of a text and leaves what stands behind it. The pieces are
written down here as texts, with the condition on their bodies, so that no later argument has to
follow the search for a closing mark: a recogniser accepts a text exactly when the text is a piece
and something behind it, and which piece it is does not depend on what stands behind.
-/

namespace MarkupEditor.Markup

/-! ### Italic and code -/

section Marked

variable {mark : Char} {text body behind : Text}

/-- **Marked pieces.** A mark, a nonempty body without the mark, and the mark again. -/
theorem marked?_eq_some_iff :
    marked? mark text = some (body, behind) ↔
      body ≠ [] ∧ mark ∉ body ∧ text = mark :: (body ++ mark :: behind) := by
  constructor
  · intro hread
    cases text with
    | nil => simp [marked?] at hread
    | cons c rest =>
        rw [marked?] at hread
        by_cases hc : c = mark
        · by_cases hmem : mark ∈ rest
          · obtain ⟨inner, after, rfl, hinner⟩ := List.eq_append_cons_of_mem hmem
            rw [if_pos hc, Text.dropWhile_ne_append hinner, Text.takeWhile_ne_append hinner] at hread
            by_cases hempty : inner = []
            · simp [hempty] at hread
            · simp only [List.isEmpty_iff, hempty, if_false, Option.some.injEq,
                Prod.mk.injEq] at hread
              obtain ⟨rfl, rfl⟩ := hread
              exact ⟨hempty, hinner, by rw [hc]⟩
          · rw [if_pos hc, Text.dropWhile_ne_eq_nil hmem] at hread
            simp at hread
        · rw [if_neg hc] at hread
          simp at hread
  · rintro ⟨hne, hmark, rfl⟩
    rw [marked?, if_pos rfl, Text.dropWhile_ne_append hmark, Text.takeWhile_ne_append hmark]
    simp [hne]

end Marked

/-! ### Images and links -/

section Reference

variable {text label target behind : Text}

/-- **References.** A label in brackets and a target in parentheses right behind it. -/
theorem reference?_eq_some_iff :
    reference? text = some (label, target, behind) ↔
      ']' ∉ label ∧ ')' ∉ target ∧
        text = '[' :: (label ++ ']' :: '(' :: (target ++ ')' :: behind)) := by
  constructor
  · intro hread
    unfold reference? at hread
    split at hread
    · rename_i rest
      by_cases hmem : ']' ∈ rest
      · obtain ⟨inner, after, rfl, hinner⟩ := List.eq_append_cons_of_mem hmem
        rw [Text.dropWhile_ne_append hinner, Text.takeWhile_ne_append hinner] at hread
        split at hread
        · rename_i tail heq
          obtain ⟨rfl, rfl⟩ := List.cons.inj heq
          by_cases hclose : ')' ∈ tail
          · obtain ⟨address, later, rfl, haddress⟩ := List.eq_append_cons_of_mem hclose
            rw [Text.dropWhile_ne_append haddress, Text.takeWhile_ne_append haddress] at hread
            simp only [Option.some.injEq, Prod.mk.injEq] at hread
            obtain ⟨rfl, rfl, rfl⟩ := hread
            exact ⟨hinner, haddress, rfl⟩
          · rw [Text.dropWhile_ne_eq_nil hclose] at hread
            simp at hread
        · simp at hread
      · rw [Text.dropWhile_ne_eq_nil hmem] at hread
        simp at hread
    · simp at hread
  · rintro ⟨hlabel, htarget, rfl⟩
    simp only [reference?, Text.dropWhile_ne_append hlabel, Text.takeWhile_ne_append hlabel,
      Text.dropWhile_ne_append htarget, Text.takeWhile_ne_append htarget]

end Reference

/-! ### Bold -/

section Bold

variable {text body behind : Text}

theorem untilStars_cons (c : Char) (rest : Text) :
    untilStars (c :: rest) =
      if c = '*' ∧ rest.head? = some '*' then some ([], rest.tail)
      else if c = '\n' then none
      else (untilStars rest).map fun (body, behind) => (c :: body, behind) := by
  cases rest with
  | nil => simp [untilStars]
  | cons d rest =>
      by_cases hstars : c = '*' ∧ d = '*'
      · obtain ⟨rfl, rfl⟩ := hstars
        simp [untilStars]
      · rw [untilStars]
        · simp [hstars]
        · intro behind hcons hbehind
          simp_all

theorem stars_infix_cons {c : Char} :
    ['*', '*'] <:+: c :: text ↔ (c = '*' ∧ text.head? = some '*') ∨ ['*', '*'] <:+: text := by
  rw [List.infix_cons_iff, List.cons_prefix_cons, eq_comm]
  refine or_congr_left (and_congr_right fun _ => ?_)
  cases text with
  | nil => simp
  | cons d rest => simp [List.cons_prefix_cons, eq_comm]

theorem head?_append_stars : (body ++ '*' :: '*' :: behind).head? = (body ++ ['*']).head? := by
  cases body <;> rfl

theorem untilStars_append (hline : '\n' ∉ body) (hnear : ¬['*', '*'] <:+: body ++ ['*']) :
    untilStars (body ++ '*' :: '*' :: behind) = some (body, behind) := by
  induction body with
  | nil => rfl
  | cons c body ih =>
      rw [List.cons_append, stars_infix_cons, not_or] at hnear
      rw [List.mem_cons, not_or] at hline
      rw [List.cons_append, untilStars_cons, head?_append_stars, if_neg hnear.1,
        if_neg (Ne.symm hline.1), ih hline.2 hnear.2]
      rfl

/-- The text before the nearest two stars holds no two stars, also not with the first of those. -/
theorem untilStars_eq_some_iff :
    untilStars text = some (body, behind) ↔
      '\n' ∉ body ∧ ¬['*', '*'] <:+: body ++ ['*'] ∧ text = body ++ '*' :: '*' :: behind := by
  refine ⟨fun hread => ?_, ?_⟩
  · induction text generalizing body with
    | nil => simp [untilStars] at hread
    | cons c rest ih =>
        rw [untilStars_cons] at hread
        split_ifs at hread with hstars hline
        · obtain ⟨rfl, hhead⟩ := hstars
          obtain ⟨tail, rfl⟩ := List.head?_eq_some_iff.mp hhead
          rw [Option.some.injEq, Prod.mk.injEq] at hread
          obtain ⟨rfl, rfl⟩ := hread
          exact ⟨by simp, by decide, rfl⟩
        · obtain ⟨⟨inner, after⟩, hinner, heq⟩ := Option.map_eq_some_iff.mp hread
          rw [Prod.mk.injEq] at heq
          obtain ⟨rfl, rfl⟩ := heq
          obtain ⟨hnewline, hnear, rfl⟩ := ih hinner
          rw [head?_append_stars] at hstars
          refine ⟨?_, ?_, rfl⟩
          · rw [List.mem_cons, not_or]
            exact ⟨Ne.symm hline, hnewline⟩
          · rw [List.cons_append, stars_infix_cons, not_or]
            exact ⟨hstars, hnear⟩
  · rintro ⟨hline, hnear, rfl⟩
    exact untilStars_append hline hnear

/-- **Bold pieces.** Two stars, a body on one line, and the nearest two stars behind the first
character of the body. -/
theorem bold?_eq_some_iff :
    bold? text = some (body, behind) ↔
      ∃ c rest, body = c :: rest ∧ '\n' ∉ body ∧ ¬['*', '*'] <:+: rest ++ ['*'] ∧
        text = '*' :: '*' :: (body ++ '*' :: '*' :: behind) := by
  constructor
  · intro hread
    unfold bold? at hread
    split at hread
    · rename_i c rest
      split_ifs at hread with hline
      obtain ⟨⟨inner, after⟩, hinner, heq⟩ := Option.map_eq_some_iff.mp hread
      rw [Prod.mk.injEq] at heq
      obtain ⟨rfl, rfl⟩ := heq
      obtain ⟨hnewline, hnear, rfl⟩ := untilStars_eq_some_iff.mp hinner
      refine ⟨c, inner, rfl, ?_, hnear, rfl⟩
      rw [List.mem_cons, not_or]
      exact ⟨Ne.symm hline, hnewline⟩
    · simp at hread
  · rintro ⟨c, rest, rfl, hline, hnear, rfl⟩
    rw [List.mem_cons, not_or] at hline
    rw [List.cons_append, bold?, if_neg (Ne.symm hline.1), untilStars_append hline.2 hnear]
    rfl

end Bold

/-! ### Pieces and their HTML -/

def BoldPiece (piece html : Text) : Prop :=
  ∃ c rest, '\n' ∉ c :: rest ∧ ¬['*', '*'] <:+: rest ++ ['*'] ∧
    piece = '*' :: '*' :: (c :: rest ++ ['*', '*']) ∧ html = element "strong".toList (c :: rest)

def MarkedPiece (mark : Char) (name piece html : Text) : Prop :=
  ∃ body, body ≠ [] ∧ mark ∉ body ∧ piece = mark :: (body ++ [mark]) ∧ html = element name body

def ItalicPiece (piece html : Text) : Prop :=
  MarkedPiece '*' "em".toList piece html ∨ MarkedPiece '_' "em".toList piece html

def ReferencePiece (label target piece : Text) : Prop :=
  ']' ∉ label ∧ ')' ∉ target ∧ piece = '[' :: (label ++ ']' :: '(' :: (target ++ [')']))

def ImagePiece (piece html : Text) : Prop :=
  ∃ label target reference, ReferencePiece label target reference ∧
    piece = '!' :: reference ∧ html = imageHtml label target

def LinkPiece (piece html : Text) : Prop :=
  ∃ label target, ReferencePiece label target piece ∧ html = anchorHtml label target

section Recognisers

variable {text html behind : Text}

theorem boldAt_eq_some_iff :
    boldAt text = some (html, behind) ↔ ∃ piece, BoldPiece piece html ∧ text = piece ++ behind := by
  simp only [boldAt, Option.map_eq_some_iff, Prod.exists, Prod.mk.injEq, bold?_eq_some_iff]
  constructor
  · rintro ⟨body, after, ⟨c, rest, rfl, hline, hnear, rfl⟩, rfl, rfl⟩
    exact ⟨_, ⟨c, rest, hline, hnear, rfl, rfl⟩, by simp⟩
  · rintro ⟨piece, ⟨c, rest, hline, hnear, rfl, rfl⟩, rfl⟩
    exact ⟨_, _, ⟨c, rest, rfl, hline, hnear, by simp⟩, rfl, rfl⟩

theorem marked?_map_eq_some_iff {mark : Char} {name : Text} :
    (∃ body, marked? mark text = some (body, behind) ∧ element name body = html) ↔
      ∃ piece, MarkedPiece mark name piece html ∧ text = piece ++ behind := by
  simp only [marked?_eq_some_iff]
  constructor
  · rintro ⟨body, ⟨hne, hmark, rfl⟩, rfl⟩
    exact ⟨_, ⟨body, hne, hmark, rfl, rfl⟩, by simp⟩
  · rintro ⟨piece, ⟨body, hne, hmark, rfl, rfl⟩, rfl⟩
    exact ⟨body, ⟨hne, hmark, by simp⟩, rfl⟩

/-- A text starts with at most one of the two marks of emphasis. -/
theorem marked?_orElse_eq_some_iff {read : Text × Text} :
    (marked? '*' text <|> marked? '_' text) = some read ↔
      marked? '*' text = some read ∨ marked? '_' text = some read := by
  cases hstar : marked? '*' text with
  | none => simp
  | some starred =>
      obtain ⟨_, _, rfl⟩ := marked?_eq_some_iff.mp hstar
      simp [marked?]

theorem italicAt_eq_some_iff :
    italicAt text = some (html, behind) ↔
      ∃ piece, ItalicPiece piece html ∧ text = piece ++ behind := by
  have hstar := @marked?_map_eq_some_iff text html behind '*' "em".toList
  have hunderscore := @marked?_map_eq_some_iff text html behind '_' "em".toList
  simp only [ItalicPiece, or_and_right, exists_or, ← hstar, ← hunderscore, italicAt,
    Option.map_eq_some_iff, Prod.exists, Prod.mk.injEq, marked?_orElse_eq_some_iff]
  simp

theorem codeAt_eq_some_iff :
    codeAt text = some (html, behind) ↔
      ∃ piece, MarkedPiece '\x60' "code".toList piece html ∧ text = piece ++ behind := by
  rw [← marked?_map_eq_some_iff]
  simp only [codeAt, Option.map_eq_some_iff, Prod.exists, Prod.mk.injEq]
  constructor
  · rintro ⟨body, after, hread, rfl, rfl⟩
    exact ⟨body, hread, rfl⟩
  · rintro ⟨body, hread, rfl⟩
    exact ⟨body, behind, hread, rfl, rfl⟩

theorem linkAt_eq_some_iff :
    linkAt text = some (html, behind) ↔ ∃ piece, LinkPiece piece html ∧ text = piece ++ behind := by
  simp only [linkAt, Option.map_eq_some_iff, Prod.exists, Prod.mk.injEq, reference?_eq_some_iff]
  constructor
  · rintro ⟨label, target, after, ⟨hlabel, htarget, rfl⟩, rfl, rfl⟩
    exact ⟨_, ⟨label, target, ⟨hlabel, htarget, rfl⟩, rfl⟩, by simp⟩
  · rintro ⟨piece, ⟨label, target, ⟨hlabel, htarget, rfl⟩, rfl⟩, rfl⟩
    exact ⟨label, target, behind, ⟨hlabel, htarget, by simp⟩, rfl, rfl⟩

theorem imageAt_eq_some_iff :
    imageAt text = some (html, behind) ↔
      ∃ piece, ImagePiece piece html ∧ text = piece ++ behind := by
  constructor
  · intro hread
    unfold imageAt at hread
    split at hread
    · simp only [Option.map_eq_some_iff, Prod.exists, Prod.mk.injEq,
        reference?_eq_some_iff] at hread
      obtain ⟨label, target, after, ⟨hlabel, htarget, rfl⟩, rfl, rfl⟩ := hread
      exact ⟨_, ⟨label, target, _, ⟨hlabel, htarget, rfl⟩, rfl, rfl⟩, by simp⟩
    · simp at hread
  · rintro ⟨piece, ⟨label, target, reference, ⟨hlabel, htarget, rfl⟩, rfl, rfl⟩, rfl⟩
    have hread : reference? ('[' :: (label ++ ']' :: '(' :: (target ++ ')' :: behind))) =
        some (label, target, behind) := reference?_eq_some_iff.mpr ⟨hlabel, htarget, rfl⟩
    simp [imageAt, hread]

end Recognisers

end MarkupEditor.Markup
