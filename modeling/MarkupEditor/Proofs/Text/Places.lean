import Mathlib.Data.List.TakeWhile
import MarkupEditor.Text

/-!
# Places in a text

A place is an offset in characters. What stands in a text is said by places alone: a word stands at
a place if the text from there on starts with it, and a segment is what lies between two places. A
text that is known from a place on, as parts in a row, tells the places at which the parts stand.
-/

namespace MarkupEditor.Text

/-- The word stands in the text from `place` on. -/
def HasAt (text : Text) (place : Nat) (word : Text) : Prop :=
  word <+: text.drop place

instance (text : Text) (place : Nat) (word : Text) : Decidable (text.HasAt place word) :=
  inferInstanceAs (Decidable (_ <+: _))

/-- The characters from `start` up to but not including `stop`. -/
def segment (text : Text) (start stop : Nat) : Text :=
  (text.take stop).drop start

/-- Of all places from `start` on, `place` is the first at which the character stands. -/
structure FirstFrom (text : Text) (c : Char) (start place : Nat) : Prop where
  start_le : start ≤ place
  hasAt : text.HasAt place [c]
  not_mem : c ∉ text.segment start place

section Places

variable {text front rest word : Text} {start stop place : Nat}

theorem HasAt.drop_eq (hword : text.HasAt place word) :
    text.drop place = word ++ text.drop (place + word.length) := by
  obtain ⟨behind, hbehind⟩ := hword
  rw [← List.drop_drop, ← hbehind, List.drop_left]

theorem HasAt.lt_length {c : Char} (hword : text.HasAt place (c :: word)) : place < text.length := by
  by_contra hle
  rw [HasAt, List.drop_eq_nil_of_le (Nat.le_of_not_lt hle)] at hword
  simp at hword

theorem drop_eq_segment_append (hle : start ≤ stop) :
    text.drop start = text.segment start stop ++ text.drop stop := by
  have hdrop : text.drop stop = (text.drop start).drop (stop - start) := by
    rw [List.drop_drop, Nat.add_sub_cancel' hle]
  rw [segment, List.drop_take, hdrop, List.take_append_drop]

theorem drop_add_length (hdrop : text.drop start = front ++ rest) :
    text.drop (start + front.length) = rest := by
  rw [← List.drop_drop, hdrop, List.drop_left]

theorem segment_add_length (hdrop : text.drop start = front ++ rest) :
    text.segment start (start + front.length) = front := by
  rw [segment, List.drop_take, hdrop, Nat.add_sub_cancel_left, List.take_left]

theorem length_segment (hstop : stop ≤ text.length) :
    (text.segment start stop).length = stop - start := by
  rw [segment, List.length_drop, List.length_take, Nat.min_eq_left hstop]

theorem segment_subset {more : Nat} (hle : stop ≤ more) :
    text.segment start stop ⊆ text.segment start more := by
  rw [segment, segment, List.drop_take, List.drop_take]
  exact (List.take_prefix_take_left (by omega)).subset

/-- A word inside of a segment stands at a place of the text. -/
theorem exists_hasAt_of_infix (hword : word <:+: text.segment start stop) (hne : word ≠ []) :
    ∃ place, start ≤ place ∧ place + word.length ≤ stop ∧ text.HasAt place word := by
  obtain ⟨before, behind, hsegment⟩ := hword
  have hlength := congrArg List.length hsegment
  have hpos := List.length_pos_iff.mpr hne
  simp only [segment, List.length_append, List.length_drop, List.length_take] at hlength
  refine ⟨start + before.length, by omega, by omega, behind ++ text.drop stop, ?_⟩
  have hdrop : text.drop start = before ++ (word ++ (behind ++ text.drop stop)) := by
    rw [drop_eq_segment_append (show start ≤ stop by omega), ← hsegment]
    simp only [List.append_assoc]
  exact (drop_add_length hdrop).symm

end Places

/-! ### Up to a mark -/

section Marks

variable {mark : Char} {text body behind : Text}

theorem dropWhile_ne_eq_nil (hmark : mark ∉ text) : text.dropWhile (· != mark) = [] := by
  rw [List.dropWhile_eq_nil_iff]
  intro c hc
  exact bne_iff_ne.mpr fun heq => hmark (heq ▸ hc)

theorem forall_ne_of_not_mem (hmark : mark ∉ body) : ∀ c ∈ body, (c != mark) = true :=
  fun _ hc => bne_iff_ne.mpr fun heq => hmark (heq ▸ hc)

theorem takeWhile_ne_append (hmark : mark ∉ body) :
    (body ++ mark :: behind).takeWhile (· != mark) = body := by
  rw [List.takeWhile_append_of_pos (forall_ne_of_not_mem hmark)]
  simp

theorem dropWhile_ne_append (hmark : mark ∉ body) :
    (body ++ mark :: behind).dropWhile (· != mark) = mark :: behind := by
  rw [List.dropWhile_append_of_pos (forall_ne_of_not_mem hmark)]
  simp

end Marks

end MarkupEditor.Text
