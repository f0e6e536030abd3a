import MarkupEditor.Text.Span

/-!
# Spans are cut between characters

A span is cut at byte positions, which are sums of character widths. No character has width zero, so
cutting at the width of a prefix gives that prefix back, and every span can be read as one of
characters: `slice` takes and drops, and `splice` keeps what lies before and after the span.
-/

namespace MarkupEditor.Text

@[simp]
theorem byteLength_nil : byteLength [] = 0 :=
  rfl

@[simp]
theorem byteLength_cons (c : Char) (text : Text) :
    byteLength (c :: text) = c.utf8Size + text.byteLength :=
  rfl

@[simp]
theorem byteLength_append (front rest : Text) :
    byteLength (front ++ rest) = front.byteLength + rest.byteLength := by
  induction front with
  | nil => simp
  | cons c front ih =>
      rw [List.cons_append, byteLength_cons, byteLength_cons, ih, Nat.add_assoc]

theorem byteIndex_eq (text : Text) (offset : Nat) :
    text.byteIndex offset = byteLength (text.take offset) := by
  induction text generalizing offset with
  | nil => simp [byteIndex]
  | cons c rest ih =>
      cases offset with
      | zero => simp [byteIndex]
      | succ offset => simp [byteIndex, ih]

@[simp]
theorem takeBytes_zero (text : Text) : takeBytes 0 text = [] := by
  cases text <;> rfl

@[simp]
theorem dropBytes_zero (text : Text) : dropBytes 0 text = text := by
  cases text <;> rfl

theorem takeBytes_append (front rest : Text) :
    takeBytes front.byteLength (front ++ rest) = front := by
  induction front with
  | nil => simp
  | cons c front ih =>
      have hwidth : 0 < c.utf8Size := c.utf8Size_pos
      obtain ⟨n, hn⟩ : ∃ n, c.utf8Size + byteLength front = n + 1 :=
        Nat.exists_eq_add_one.mpr (by omega)
      have hrest : n + 1 - c.utf8Size = byteLength front := by omega
      rw [byteLength_cons, hn, List.cons_append, takeBytes, hrest, ih]

theorem dropBytes_append (front rest : Text) :
    dropBytes front.byteLength (front ++ rest) = rest := by
  induction front with
  | nil => simp
  | cons c front ih =>
      have hwidth : 0 < c.utf8Size := c.utf8Size_pos
      obtain ⟨n, hn⟩ : ∃ n, c.utf8Size + byteLength front = n + 1 :=
        Nat.exists_eq_add_one.mpr (by omega)
      have hrest : n + 1 - c.utf8Size = byteLength front := by omega
      rw [byteLength_cons, hn, List.cons_append, dropBytes, hrest, ih]

/-- Cutting at the start of a character leaves the characters before it. -/
theorem takeBytes_byteIndex (text : Text) (offset : Nat) :
    takeBytes (text.byteIndex offset) text = text.take offset := by
  have hcut := takeBytes_append (text.take offset) (text.drop offset)
  rwa [List.take_append_drop, ← byteIndex_eq] at hcut

theorem dropBytes_byteIndex (text : Text) (offset : Nat) :
    dropBytes (text.byteIndex offset) text = text.drop offset := by
  have hcut := dropBytes_append (text.take offset) (text.drop offset)
  rwa [List.take_append_drop, ← byteIndex_eq] at hcut

theorem byteIndex_add (text : Text) (offset count : Nat) :
    text.byteIndex (offset + count) =
      text.byteIndex offset + byteIndex (text.drop offset) count := by
  rw [byteIndex_eq, byteIndex_eq, byteIndex_eq, List.take_add, byteLength_append]

theorem byteIndex_le_byteLength (text : Text) (offset : Nat) :
    text.byteIndex offset ≤ text.byteLength := by
  have hparts := byteLength_append (text.take offset) (text.drop offset)
  rw [List.take_append_drop] at hparts
  rw [byteIndex_eq]
  omega

theorem byteIndex_le_byteIndex (text : Text) {start stop : Nat} (hle : start ≤ stop) :
    text.byteIndex start ≤ text.byteIndex stop := by
  obtain ⟨count, rfl⟩ := Nat.exists_eq_add_of_le hle
  rw [byteIndex_add]
  exact Nat.le_add_right _ _

/-- A span that ends before its start is empty at its start. -/
theorem byteSpan_eq (text : Text) (start stop : Nat) :
    text.byteSpan start stop = (text.byteIndex start, text.byteIndex (max start stop)) := by
  have hstop : max (text.byteIndex stop) (text.byteIndex start) =
      text.byteIndex (max start stop) := by
    rcases Nat.le_total start stop with hle | hle
    · rw [Nat.max_eq_left (byteIndex_le_byteIndex text hle), Nat.max_eq_right hle]
    · rw [Nat.max_eq_right (byteIndex_le_byteIndex text hle), Nat.max_eq_left hle]
  simp only [byteSpan, hstop]

theorem slice_eq (text : Text) (start stop : Nat) :
    text.slice start stop = (text.drop start).take (stop - start) := by
  have hsum : max start stop = start + (stop - start) := by omega
  simp only [slice, byteSpan_eq, hsum, byteIndex_add, Nat.add_sub_cancel_left,
    dropBytes_byteIndex, takeBytes_byteIndex]

theorem splice_eq (text : Text) (start stop : Nat) (value : Text) :
    text.splice start stop value =
      text.take start ++ value ++ text.drop (max start stop) := by
  simp only [splice, byteSpan_eq, takeBytes_byteIndex, dropBytes_byteIndex]

section Parts

variable {text : Text} {start stop : Nat}

/-- A text is what lies before a span, in it and behind it. -/
theorem take_append_span (hle : start ≤ stop) :
    text.take start ++ (text.drop start).take (stop - start) ++ text.drop stop = text := by
  have htail : (text.drop start).drop (stop - start) = text.drop stop := by
    rw [List.drop_drop, Nat.add_sub_cancel' hle]
  calc text.take start ++ (text.drop start).take (stop - start) ++ text.drop stop
      = text.take start ++ ((text.drop start).take (stop - start) ++
          (text.drop start).drop (stop - start)) := by rw [htail, List.append_assoc]
    _ = text.take start ++ text.drop start := by rw [List.take_append_drop]
    _ = text := List.take_append_drop start text

theorem span_ne_nil (hlt : start < stop) (hstop : stop ≤ text.length) :
    (text.drop start).take (stop - start) ≠ [] := by
  intro hnil
  have hlength := congrArg List.length hnil
  rw [List.length_take, List.length_drop, List.length_nil] at hlength
  omega

end Parts

end MarkupEditor.Text
