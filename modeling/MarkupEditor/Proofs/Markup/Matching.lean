import Mathlib.Data.List.Infix
import Mathlib.Data.Nat.Find
import MarkupEditor.Proofs.Markup.Leftmost
import MarkupEditor.Proofs.Text.Places

/-!
# Matches by their places

What an inline step looks for is described here by places in the text alone: where a mark stands,
and where the next one does. A construct may match at many places, and at one place up to several
ends. Of all its matches a step rewrites the one that starts furthest left, up to the nearest end,
and keeps what stands outside of it; a text without a match is kept as it is.
-/

namespace MarkupEditor.Markup

/-! ### What a construct matches -/

/-- Where a construct stands in a text, and its HTML. The text goes on at `stop`. -/
structure Match where
  start : Nat
  stop : Nat
  html : Text
deriving DecidableEq, Repr

/-- Two stars at `start` and at `stop`, with at least one character and no line feed in between. -/
structure StarredAt (text : Text) (start stop : Nat) : Prop where
  opens : text.HasAt start "**".toList
  closes : text.HasAt stop "**".toList
  gap : start + 3 ≤ stop
  newline_not_mem : '\n' ∉ text.segment (start + 2) stop

instance (text : Text) (start stop : Nat) : Decidable (StarredAt text start stop) :=
  decidable_of_iff ((text.HasAt start "**".toList ∧ text.HasAt stop "**".toList) ∧
      start + 3 ≤ stop ∧ '\n' ∉ text.segment (start + 2) stop)
    ⟨fun ⟨⟨hopens, hcloses⟩, hgap, hline⟩ => ⟨hopens, hcloses, hgap, hline⟩,
      fun hstarred =>
        ⟨⟨hstarred.opens, hstarred.closes⟩, hstarred.gap, hstarred.newline_not_mem⟩⟩

/-- A mark at `start`, and the next one at `stop` with at least one character in between. -/
structure MarkedAt (text : Text) (mark : Char) (start stop : Nat) : Prop where
  opens : text.HasAt start [mark]
  closes : text.FirstFrom mark (start + 1) stop
  gap : start + 2 ≤ stop

/-- A bracket at `start`, whose next closing bracket, at `turn`, has a parenthesis right behind it,
and a closing parenthesis further on at `stop`. -/
structure ReferenceAt (text : Text) (start turn stop : Nat) : Prop where
  opens : text.HasAt start ['[']
  turns : text.FirstFrom ']' (start + 1) turn
  targets : text.HasAt (turn + 1) ['(']
  closes : text.HasAt stop [')']
  gap : turn + 2 ≤ stop

namespace Construct

/-- The matches of the inline constructs in a text. The HTML keeps what is enclosed as it is. -/
inductive Matches (text : Text) : Construct → Match → Prop
  | bold {start stop : Nat} (hstarred : StarredAt text start stop) :
      Matches text .bold ⟨start, stop + 2,
        "<strong>".toList ++ text.segment (start + 2) stop ++ "</strong>".toList⟩
  | italic {start stop : Nat}
      (hmarked : MarkedAt text '*' start stop ∨ MarkedAt text '_' start stop) :
      Matches text .italic ⟨start, stop + 1,
        "<em>".toList ++ text.segment (start + 1) stop ++ "</em>".toList⟩
  | code {start stop : Nat} (hmarked : MarkedAt text '\x60' start stop) :
      Matches text .code ⟨start, stop + 1,
        "<code>".toList ++ text.segment (start + 1) stop ++ "</code>".toList⟩
  | image {start turn stop : Nat} (hopens : text.HasAt start ['!'])
      (hreference : ReferenceAt text (start + 1) turn stop) :
      Matches text .image ⟨start, stop + 1,
        "<img src=\"".toList ++ text.segment (turn + 2) stop ++ "\" alt=\"".toList ++
          text.segment (start + 2) turn ++ "\">".toList⟩
  | link {start turn stop : Nat} (hreference : ReferenceAt text start turn stop) :
      Matches text .link ⟨start, stop + 1,
        "<a href=\"".toList ++ text.segment (turn + 2) stop ++ "\">".toList ++
          text.segment (start + 1) turn ++ "</a>".toList⟩

/-- The match that starts furthest left, and of those that start there the one that ends first. -/
structure FirstMatch (construct : Construct) (text : Text) (found : Match) : Prop where
  holds : construct.Matches text found
  leftmost : ∀ other, construct.Matches text other → found.start ≤ other.start
  nearest : ∀ other, construct.Matches text other → other.start = found.start →
    found.stop ≤ other.stop

end Construct

/-! ### Matches and what the recognisers read -/

section Marked

variable {text behind piece html name : Text} {mark : Char} {start stop : Nat}

theorem MarkedAt.exists_piece (hmarked : MarkedAt text mark start stop) (name : Text) :
    ∃ piece,
      MarkedPiece mark name piece
        (('<' :: name ++ ['>']) ++ text.segment (start + 1) stop ++ ('<' :: '/' :: name ++ ['>'])) ∧
        text.drop start = piece ++ text.drop (stop + 1) := by
  obtain ⟨hopens, ⟨hle, hcloses, hnot⟩, hgap⟩ := hmarked
  have hstop := hcloses.lt_length
  refine ⟨_, ⟨text.segment (start + 1) stop, ?_, hnot, rfl, (element_eq_between _ _).symm⟩, ?_⟩
  · apply List.ne_nil_of_length_pos
    rw [Text.length_segment hstop.le]
    omega
  · rw [hopens.drop_eq, List.length_singleton, Text.drop_eq_segment_append hle, hcloses.drop_eq]
    simp

theorem MarkedPiece.exists_markedAt (hpiece : MarkedPiece mark name piece html)
    (hdrop : text.drop start = piece ++ behind) : ∃ stop, MarkedAt text mark start stop := by
  obtain ⟨body, hne, hnot, rfl, -⟩ := hpiece
  have hopens : text.drop start = [mark] ++ (body ++ ([mark] ++ behind)) := by simp [hdrop]
  have hbody : text.drop (start + 1) = body ++ ([mark] ++ behind) := Text.drop_add_length hopens
  refine ⟨start + 1 + body.length, ⟨_, hopens.symm⟩, ⟨Nat.le_add_right _ _, ?_, ?_⟩, ?_⟩
  · exact ⟨behind, (Text.drop_add_length hbody).symm⟩
  · rwa [Text.segment_add_length hbody]
  · have hpos := List.length_pos_iff.mpr hne
    omega

end Marked

section Reference

variable {text behind piece label target : Text} {start turn stop : Nat}

/-- A reference up to the nearest closing parenthesis. -/
theorem ReferenceAt.exists_piece (hreference : ReferenceAt text start turn stop)
    (hnearest : ∀ other, ReferenceAt text start turn other → stop ≤ other) :
    ∃ piece,
      ReferencePiece (text.segment (start + 1) turn) (text.segment (turn + 2) stop) piece ∧
        text.drop start = piece ++ text.drop (stop + 1) := by
  obtain ⟨hopens, hturns, htargets, hcloses, hgap⟩ := hreference
  have htarget : ')' ∉ text.segment (turn + 2) stop := by
    intro hmem
    obtain ⟨other, hle, hlt, hother⟩ := Text.exists_hasAt_of_infix
      ((List.singleton_infix_iff _ _).mpr hmem) (List.cons_ne_nil _ _)
    exact absurd (hnearest other ⟨hopens, hturns, htargets, hother, hle⟩) (Nat.not_le.mpr hlt)
  refine ⟨_, ⟨hturns.not_mem, htarget, rfl⟩, ?_⟩
  rw [hopens.drop_eq, List.length_singleton, Text.drop_eq_segment_append hturns.start_le,
    hturns.hasAt.drop_eq, List.length_singleton, htargets.drop_eq, List.length_singleton,
    Text.drop_eq_segment_append hgap, hcloses.drop_eq]
  simp

theorem ReferencePiece.exists_referenceAt (hpiece : ReferencePiece label target piece)
    (hdrop : text.drop start = piece ++ behind) :
    ∃ turn stop, ReferenceAt text start turn stop := by
  obtain ⟨hlabel, -, rfl⟩ := hpiece
  have hopens : text.drop start =
      ['['] ++ (label ++ ([']'] ++ (['('] ++ (target ++ ([')'] ++ behind))))) := by simp [hdrop]
  have hinner : text.drop (start + 1) =
      label ++ ([']'] ++ (['('] ++ (target ++ ([')'] ++ behind)))) := Text.drop_add_length hopens
  have hturns := Text.drop_add_length hinner
  have htargets := Text.drop_add_length hturns
  have haddress := Text.drop_add_length htargets
  have hcloses := Text.drop_add_length haddress
  refine ⟨_, _, ⟨_, hopens.symm⟩, ⟨Nat.le_add_right _ _, ⟨_, hturns.symm⟩, ?_⟩,
    ⟨_, htargets.symm⟩, ⟨_, hcloses.symm⟩, Nat.le_add_right _ _⟩
  rwa [Text.segment_add_length hinner]

end Reference

section Bold

variable {text behind piece html : Text} {start stop : Nat}

/-- No two stars stand nearer, also not one of them and the first of the nearest two. -/
theorem StarredAt.not_stars_infix (hstarred : StarredAt text start stop)
    (hnearest : ∀ other, StarredAt text start other → stop ≤ other) :
    ¬['*', '*'] <:+: text.segment (start + 3) (stop + 1) := by
  intro hstars
  obtain ⟨other, hle, hlt, hother⟩ := Text.exists_hasAt_of_infix hstars (List.cons_ne_nil _ _)
  have hbefore : other < stop := Nat.lt_of_succ_lt_succ hlt
  have hline : '\n' ∉ text.segment (start + 2) other := fun hmem =>
    hstarred.newline_not_mem (Text.segment_subset hbefore.le hmem)
  exact absurd (hnearest other ⟨hstarred.opens, hother, hle, hline⟩) (Nat.not_le.mpr hbefore)

/-- A bold text up to the nearest two stars. -/
theorem StarredAt.exists_piece (hstarred : StarredAt text start stop)
    (hnearest : ∀ other, StarredAt text start other → stop ≤ other) :
    ∃ piece,
      BoldPiece piece
        ("<strong>".toList ++ text.segment (start + 2) stop ++ "</strong>".toList) ∧
        text.drop start = piece ++ text.drop (stop + 2) := by
  have hnear := hstarred.not_stars_infix hnearest
  obtain ⟨hopens, hcloses, hgap, hline⟩ := hstarred
  have hlength := @Text.length_segment text (start + 2) stop hcloses.lt_length.le
  obtain ⟨c, rest, hbody⟩ := List.exists_cons_of_ne_nil
    (List.ne_nil_of_length_pos (show 0 < (text.segment (start + 2) stop).length by omega))
  have hinner : text.drop (start + 2) =
      [c] ++ ((rest ++ ['*']) ++ ('*' :: text.drop (stop + 2))) := by
    rw [Text.drop_eq_segment_append (show start + 2 ≤ stop by omega), hbody, hcloses.drop_eq]
    simp
  have hrest : text.segment (start + 3) (stop + 1) = rest ++ ['*'] := by
    have hend : start + 3 + (rest ++ ['*']).length = stop + 1 := by
      rw [hbody, List.length_cons] at hlength
      rw [List.length_append, List.length_singleton]
      omega
    rw [← hend]
    exact Text.segment_add_length (Text.drop_add_length hinner)
  have hhtml := (element_eq_between "strong".toList (c :: rest)).symm
  refine ⟨_, ⟨c, rest, hbody ▸ hline, hrest ▸ hnear, rfl, hbody ▸ hhtml⟩, ?_⟩
  rw [hopens.drop_eq]
  change _ ++ text.drop (start + 2) = _
  rw [hinner]
  simp

theorem BoldPiece.exists_starredAt (hpiece : BoldPiece piece html)
    (hdrop : text.drop start = piece ++ behind) : ∃ stop, StarredAt text start stop := by
  obtain ⟨c, rest, hline, -, rfl, -⟩ := hpiece
  have hopens : text.drop start = "**".toList ++ ((c :: rest) ++ ("**".toList ++ behind)) := by
    simp [hdrop]
  have hbody : text.drop (start + 2) = (c :: rest) ++ ("**".toList ++ behind) :=
    Text.drop_add_length hopens
  refine ⟨_, ⟨_, hopens.symm⟩, ⟨_, (Text.drop_add_length hbody).symm⟩, ?_, ?_⟩
  · rw [List.length_cons]
    omega
  · rwa [Text.segment_add_length hbody]

end Bold

/-! ### Steps and first matches -/

section Steps

variable {construct : Construct} {text html behind : Text} {start : Nat} {found : Match}

/-- What the recogniser of a construct reads at a place starts a match there. -/
theorem Construct.exists_match_of_read (hinline : construct ∈ inlineConstructs)
    (hread : construct.recogniser (text.drop start) = some (html, behind)) :
    ∃ found, construct.Matches text found ∧ found.start = start := by
  obtain ⟨piece, hpiece, hdrop⟩ := (inline_recogniser hinline).eq_some_iff.mp hread
  cases construct with
  | bold =>
      obtain ⟨stop, hstarred⟩ := BoldPiece.exists_starredAt hpiece hdrop
      exact ⟨_, .bold hstarred, rfl⟩
  | italic =>
      rcases hpiece with hpiece | hpiece
      · obtain ⟨stop, hmarked⟩ := hpiece.exists_markedAt hdrop
        exact ⟨_, .italic (Or.inl hmarked), rfl⟩
      · obtain ⟨stop, hmarked⟩ := hpiece.exists_markedAt hdrop
        exact ⟨_, .italic (Or.inr hmarked), rfl⟩
  | code =>
      obtain ⟨stop, hmarked⟩ := MarkedPiece.exists_markedAt hpiece hdrop
      exact ⟨_, .code hmarked, rfl⟩
  | image =>
      obtain ⟨label, target, reference, hreference, rfl, -⟩ := hpiece
      have hopens : text.drop start = ['!'] ++ (reference ++ behind) := hdrop
      obtain ⟨turn, stop, hplaces⟩ :=
        hreference.exists_referenceAt (Text.drop_add_length hopens)
      exact ⟨_, .image ⟨_, hopens.symm⟩ hplaces, rfl⟩
  | link =>
      obtain ⟨label, target, hreference, -⟩ := hpiece
      obtain ⟨turn, stop, hplaces⟩ := hreference.exists_referenceAt hdrop
      exact ⟨_, .link hplaces, rfl⟩
  | heading | blockquote | rule | orderedItem | unorderedItem => exact absurd hinline (by decide)

theorem Construct.Matches.start_lt (hmatch : construct.Matches text found) :
    found.start < text.length := by
  cases hmatch with
  | bold hstarred => exact hstarred.opens.lt_length
  | italic hmarked =>
      rcases hmarked with hmarked | hmarked
      · exact hmarked.opens.lt_length
      · exact hmarked.opens.lt_length
  | code hmarked => exact hmarked.opens.lt_length
  | image hopens => exact hopens.lt_length
  | link hreference => exact hreference.opens.lt_length

/-- A first match is what the recogniser reads at its place. -/
theorem Construct.FirstMatch.read (hinline : construct ∈ inlineConstructs)
    (hfirst : construct.FirstMatch text found) :
    construct.recogniser (text.drop found.start) = some (found.html, text.drop found.stop) := by
  rw [(inline_recogniser hinline).eq_some_iff]
  obtain ⟨hmatch, -, hnearest⟩ := hfirst
  cases hmatch with
  | bold hstarred =>
      obtain ⟨piece, hpiece, hdrop⟩ := hstarred.exists_piece fun other hother =>
        Nat.le_of_add_le_add_right (hnearest _ (.bold hother) rfl)
      exact ⟨piece, hpiece, hdrop⟩
  | italic hmarked =>
      rcases hmarked with hmarked | hmarked
      · obtain ⟨piece, hpiece, hdrop⟩ := hmarked.exists_piece "em".toList
        exact ⟨piece, Or.inl hpiece, hdrop⟩
      · obtain ⟨piece, hpiece, hdrop⟩ := hmarked.exists_piece "em".toList
        exact ⟨piece, Or.inr hpiece, hdrop⟩
  | code hmarked =>
      obtain ⟨piece, hpiece, hdrop⟩ := hmarked.exists_piece "code".toList
      exact ⟨piece, hpiece, hdrop⟩
  | @image start turn stop hopens hreference =>
      obtain ⟨reference, hpiece, hdrop⟩ := hreference.exists_piece fun other hother =>
        Nat.le_of_add_le_add_right (hnearest _ (.image hopens hother) rfl)
      refine ⟨'!' :: reference, ⟨_, _, reference, hpiece, rfl, rfl⟩, ?_⟩
      rw [hopens.drop_eq]
      exact congrArg ('!' :: ·) hdrop
  | @link start turn stop hreference =>
      obtain ⟨piece, hpiece, hdrop⟩ := hreference.exists_piece fun other hother =>
        Nat.le_of_add_le_add_right (hnearest _ (.link hother) rfl)
      exact ⟨piece, ⟨_, _, hpiece, rfl⟩, hdrop⟩

theorem Construct.Matches.exists_firstMatch (hmatch : construct.Matches text found) :
    ∃ first, construct.FirstMatch text first := by
  classical
  -- the least start, and then the least end of the matches that start there
  have hstarts : ∃ start found, construct.Matches text found ∧ found.start = start :=
    ⟨_, found, hmatch, rfl⟩
  obtain ⟨leftmost, hleftmost, hstart⟩ := Nat.find_spec hstarts
  have hstops : ∃ stop other, construct.Matches text other ∧ other.start = Nat.find hstarts ∧
      other.stop = stop := ⟨_, leftmost, hleftmost, hstart, rfl⟩
  obtain ⟨first, hfirst, hleast, hstop⟩ := Nat.find_spec hstops
  refine ⟨first, hfirst, ?_, ?_⟩
  · intro other hother
    rw [hleast]
    exact Nat.find_min' hstarts ⟨other, hother, rfl⟩
  · intro other hother hsame
    rw [hstop]
    exact Nat.find_min' hstops ⟨other, hother, hsame.trans hleast, rfl⟩

theorem Construct.FirstMatch.readsFirst (hinline : construct ∈ inlineConstructs)
    (hfirst : construct.FirstMatch text found) :
    construct.recogniser.ReadsFirst text (text.take found.start) found.html
      (text.drop found.stop) := by
  have hlength : (text.take found.start).length = found.start :=
    List.length_take_of_le hfirst.holds.start_lt.le
  rw [Recogniser.readsFirst_iff_drop, hlength]
  refine ⟨List.take_prefix _ _, hfirst.read hinline, ?_⟩
  intro place hplace
  by_contra hread
  obtain ⟨read, hread⟩ := Option.ne_none_iff_exists'.mp hread
  obtain ⟨other, hother, rfl⟩ := Construct.exists_match_of_read hinline hread
  exact absurd (hfirst.leftmost other hother) (Nat.not_le.mpr hplace)

theorem Construct.FirstMatch.rewrite_eq (hinline : construct ∈ inlineConstructs)
    (hfirst : construct.FirstMatch text found) :
    construct.rewrite text = text.take found.start ++ found.html ++ text.drop found.stop := by
  rw [rewrite_eq_rewriteFirst hinline, List.append_assoc]
  exact (inline_recogniser hinline).rewriteFirst_of_readsFirst (hfirst.readsFirst hinline)

/-- A step that finds a match changes the text, since it writes a tag where a delimiter stood. -/
theorem Construct.FirstMatch.rewrite_ne (hinline : construct ∈ inlineConstructs)
    (hfirst : construct.FirstMatch text found) : construct.rewrite text ≠ text := by
  intro hsame
  have hread := hfirst.read hinline
  obtain ⟨piece, hpiece, -⟩ := (inline_recogniser hinline).eq_some_iff.mp hread
  obtain ⟨tail, htail⟩ := (inline_recogniser hinline).tagged hpiece
  have hdrop : text.drop found.start = '<' :: (tail ++ text.drop found.stop) := by
    have hparts : text.take found.start ++ text.drop found.start =
        text.take found.start ++ ('<' :: (tail ++ text.drop found.stop)) := by
      calc text.take found.start ++ text.drop found.start
          = text := List.take_append_drop _ _
        _ = construct.rewrite text := hsame.symm
        _ = text.take found.start ++ ('<' :: (tail ++ text.drop found.stop)) := by
          rw [hfirst.rewrite_eq hinline, htail, List.append_assoc, List.cons_append]
    exact List.append_cancel_left hparts
  rw [hdrop, (inline_recogniser hinline).eq_none_of_not_mem (by decide)] at hread
  contradiction

theorem exists_match_of_rewrite_ne (hinline : construct ∈ inlineConstructs)
    (hchanged : construct.rewrite text ≠ text) : ∃ found, construct.Matches text found := by
  rw [rewrite_eq_rewriteFirst hinline] at hchanged
  obtain ⟨front, html, behind, hreads⟩ :=
    (construct.recogniser.readsFirst_or_eq text).resolve_right hchanged
  obtain ⟨rest, rfl, hread⟩ := hreads.read
  have hplace : construct.recogniser ((front ++ rest).drop front.length) = some (html, behind) := by
    rwa [List.drop_left]
  obtain ⟨found, hfound, -⟩ := Construct.exists_match_of_read hinline hplace
  exact ⟨found, hfound⟩

/-- **Leftmost matches.** An inline step changes a text exactly if its construct matches somewhere.
Then there is a first match, and the step writes the HTML of this match in its place and keeps all
that stands outside of it. -/
theorem rewrites_first_match (hinline : construct ∈ inlineConstructs) (text : Text) :
    (construct.rewrite text ≠ text ↔ ∃ found, construct.Matches text found) ∧
    ((∃ found, construct.Matches text found) → ∃ found, construct.FirstMatch text found) ∧
    ∀ found, construct.FirstMatch text found →
      construct.rewrite text = text.take found.start ++ found.html ++ text.drop found.stop := by
  refine ⟨⟨exists_match_of_rewrite_ne hinline, ?_⟩, ?_, ?_⟩
  · rintro ⟨found, hfound⟩
    obtain ⟨first, hfirst⟩ := hfound.exists_firstMatch
    exact hfirst.rewrite_ne hinline
  · rintro ⟨found, hfound⟩
    exact hfound.exists_firstMatch
  · intro found hfirst
    exact hfirst.rewrite_eq hinline

/-- The first three stars open no bold text, since a line feed follows. The next ones do, and the text
in them starts with two stars of its own. -/
theorem rewrites_first_match_bold :
    let text : Text := "***\n****a***".toList
    let found : Match := ⟨4, 11, "<strong>**a</strong>".toList⟩
    Construct.bold ∈ inlineConstructs ∧ Construct.bold.FirstMatch text found ∧
      Construct.bold.rewrite text ≠ text ∧
      Construct.bold.rewrite text = text.take 4 ++ "<strong>**a</strong>".toList ++ "*".toList := by
  intro text found
  have hinline : Construct.bold ∈ inlineConstructs := by decide
  have hholds : Construct.bold.Matches text found :=
    @Construct.Matches.bold text 4 9 (by decide)
  have hplaces : ∀ start < text.length, ∀ stop < text.length, StarredAt text start stop →
      4 ≤ start ∧ (start = 4 → 9 ≤ stop) := by decide
  have hfirst : Construct.bold.FirstMatch text found := by
    refine ⟨hholds, ?_, ?_⟩
    · rintro _ ⟨hother⟩
      exact (hplaces _ hother.opens.lt_length _ hother.closes.lt_length hother).1
    · rintro _ ⟨hother⟩ hsame
      have hstop := (hplaces _ hother.opens.lt_length _ hother.closes.lt_length hother).2 hsame
      exact Nat.add_le_add_right hstop 2
  obtain ⟨hfires, -, hrewrite⟩ := rewrites_first_match hinline text
  exact ⟨hinline, hfirst, hfires.mpr ⟨found, hholds⟩, hrewrite found hfirst⟩

/-- Both marks of emphasis start a match, and the one that starts further left encloses the other. -/
example : Construct.italic.rewrite "a _b*c_ d*".toList = "a <em>b*c</em> d*".toList := by decide

end Steps

end MarkupEditor.Markup
