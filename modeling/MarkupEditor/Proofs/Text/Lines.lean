import MarkupEditor.Text

/-!
# Split and joined lines

A text has at least one line, and no line holds a line feed. Joining puts one line feed in front of
every line but the first. Stated on the first line and the rest, this is what an induction over
lines uses.
-/

namespace MarkupEditor.Text

@[simp]
theorem unlines_nil : unlines [] = [] := by
  rfl

theorem unlines_cons (line : Text) (lines : List Text) :
    unlines (line :: lines) = line ++ lines.flatMap fun below => '\n' :: below := by
  induction lines generalizing line with
  | nil => simp [unlines]
  | cons next lines ih =>
      have hjoin : unlines (line :: next :: lines) = line ++ '\n' :: unlines (next :: lines) := by
        simp [unlines, List.intercalate_cons_cons]
      rw [hjoin, ih next, List.flatMap_cons, List.cons_append]

theorem newline_not_mem_of_mem_splitOn {text piece : Text} (hpiece : piece ∈ text.splitOn '\n') :
    '\n' ∉ piece := by
  induction text generalizing piece with
  | nil =>
      have hnil : piece = [] := by simpa using hpiece
      simp [hnil]
  | cons c rest ih =>
      rw [List.splitOn_cons_eq_if_modifyHead] at hpiece
      by_cases hc : c = '\n'
      · have hcases : piece = [] ∨ piece ∈ rest.splitOn '\n' := by simpa [hc] using hpiece
        rcases hcases with hnil | hrest
        · simp [hnil]
        · exact ih hrest
      · obtain ⟨first, others, hsplit⟩ := List.exists_cons_of_ne_nil (List.splitOn_ne_nil '\n' rest)
        have hcases : piece = c :: first ∨ piece ∈ others := by simpa [hc, hsplit] using hpiece
        rcases hcases with hhead | hothers
        · have hfirst : '\n' ∉ first := ih (by simp [hsplit])
          simp [hhead, hfirst, Ne.symm hc]
        · exact ih (by simp [hsplit, hothers])

theorem mem_of_mem_dropReturn {text : Text} {c : Char} (hc : c ∈ text.dropReturn) : c ∈ text := by
  unfold dropReturn at hc
  split at hc
  · exact List.mem_of_mem_take (by rwa [List.dropLast_eq_take] at hc)
  · exact hc

/-- What stands in front of a line does not change how the line ends. -/
theorem dropReturn_append {front line : Text} (hfront : front.getLast? ≠ some '\r') :
    dropReturn (front ++ line) = front ++ dropReturn line := by
  cases line with
  | nil =>
      rw [List.append_nil, dropReturn, if_neg hfront]
      exact (List.append_nil front).symm
  | cons c line =>
      have hlast : (front ++ c :: line).getLast? = (c :: line).getLast? := by
        rw [List.getLast?_append, List.getLast?_cons, Option.some_or]
      unfold dropReturn
      rw [hlast, List.dropLast_append_of_ne_nil (List.cons_ne_nil c line)]
      split <;> rfl

theorem newline_not_mem_of_mem_lines {text line : Text} (hline : line ∈ text.lines) :
    '\n' ∉ line := by
  obtain ⟨piece, hpiece, rfl⟩ := List.mem_map.mp hline
  intro hmem
  exact newline_not_mem_of_mem_splitOn hpiece (mem_of_mem_dropReturn hmem)

theorem lines_ne_nil (text : Text) : text.lines ≠ [] := by
  simp [lines, List.splitOn_ne_nil]

theorem lines_append_newline (above below : Text) :
    lines (above ++ '\n' :: below) = above.lines ++ below.lines := by
  rw [lines, List.splitOn_append_cons_self, List.map_append]
  rfl

/-! ### Joined lines -/

section Unlines

variable {lines more : List Text}

theorem cons_unlines (hlines : lines ≠ []) :
    '\n' :: unlines lines = lines.flatMap fun line => '\n' :: line := by
  obtain ⟨line, below, rfl⟩ := List.exists_cons_of_ne_nil hlines
  rw [unlines_cons, List.flatMap_cons, List.cons_append]

/-- A line with what stands above it, each line ended, and what stands below it, each on a new
line. -/
theorem unlines_append_cons (above : List Text) (line : Text) (below : List Text) :
    unlines (above ++ line :: below) =
      (above.flatMap fun other => other ++ ['\n']) ++ line ++
        below.flatMap fun other => '\n' :: other := by
  induction above with
  | nil => exact unlines_cons line below
  | cons first above ih =>
      rw [List.cons_append, unlines_cons, ← cons_unlines (by simp), ih]
      simp

theorem unlines_append (hlines : lines ≠ []) (hmore : more ≠ []) :
    unlines (lines ++ more) = unlines lines ++ '\n' :: unlines more := by
  obtain ⟨line, below, rfl⟩ := List.exists_cons_of_ne_nil hlines
  rw [List.cons_append, unlines_cons, unlines_cons, List.flatMap_append, ← cons_unlines hmore,
    List.append_assoc]

theorem splitOn_unlines (hlines : lines ≠ []) (hnewline : ∀ line ∈ lines, '\n' ∉ line) :
    (unlines lines).splitOn '\n' = lines :=
  List.splitOn_intercalate '\n' hnewline hlines

theorem count_newline_unlines (hlines : lines ≠ []) (hnewline : ∀ line ∈ lines, '\n' ∉ line) :
    (unlines lines).count '\n' + 1 = lines.length := by
  have hcount : (lines.flatMap fun line => '\n' :: line).count '\n' = lines.length := by
    clear hlines
    induction lines with
    | nil => rfl
    | cons line lines ih =>
        obtain ⟨hline, hrest⟩ := List.forall_mem_cons.mp hnewline
        rw [List.flatMap_cons, List.count_append, ih hrest, List.count_cons_self,
          List.count_eq_zero_of_not_mem hline, List.length_cons, Nat.add_comm]
  rw [← hcount, ← cons_unlines hlines, List.count_cons_self]

theorem length_lines (text : Text) : text.lines.length = text.count '\n' + 1 := by
  have hcount := count_newline_unlines (List.splitOn_ne_nil '\n' text) fun _ =>
    newline_not_mem_of_mem_splitOn
  rw [unlines, List.intercalate_splitOn] at hcount
  rw [lines, List.length_map, hcount]

theorem lines_unlines (hlines : lines ≠ []) (hnewline : ∀ line ∈ lines, '\n' ∉ line) :
    (unlines lines).lines = lines.map dropReturn := by
  rw [Text.lines, splitOn_unlines hlines hnewline]

theorem mem_unlines {line : Text} {c : Char} (hline : line ∈ lines) (hc : c ∈ line) :
    c ∈ unlines lines := by
  cases lines with
  | nil => contradiction
  | cons first lines =>
      rw [unlines_cons]
      rcases List.mem_cons.mp hline with rfl | hbelow
      · exact List.mem_append_left _ hc
      · have hmem : c ∈ '\n' :: line := List.mem_cons_of_mem _ hc
        exact List.mem_append_right _ (List.mem_flatMap.mpr ⟨line, hbelow, hmem⟩)

theorem mem_of_mem_lines {text line : Text} {c : Char} (hline : line ∈ text.lines) (hc : c ∈ line) :
    c ∈ text := by
  obtain ⟨piece, hpiece, rfl⟩ := List.mem_map.mp hline
  have hjoined := mem_unlines hpiece (mem_of_mem_dropReturn hc)
  rwa [unlines, List.intercalate_splitOn] at hjoined

/-- Joined lines are told by what they are with a line feed in front of each. -/
theorem unlines_congr
    (heq : (lines.flatMap fun line => '\n' :: line) = more.flatMap fun line => '\n' :: line) :
    unlines lines = unlines more := by
  cases lines with
  | nil =>
      cases more with
      | nil => rfl
      | cons line more => simp at heq
  | cons line lines =>
      cases more with
      | nil => simp at heq
      | cons other more =>
          rw [← cons_unlines (List.cons_ne_nil _ _), ← cons_unlines (List.cons_ne_nil _ _)] at heq
          exact List.tail_eq_of_cons_eq heq

/-- If nothing is lost from the lines, each read with a line feed in front of it, nothing is lost
from the joined text. -/
theorem unlines_sublist
    (hsub : (lines.flatMap fun line => '\n' :: line).Sublist
      (more.flatMap fun line => '\n' :: line)) :
    (unlines lines).Sublist (unlines more) := by
  by_cases hlines : lines = []
  · rw [hlines, unlines_nil]
    exact List.nil_sublist _
  · by_cases hmore : more = []
    · have hempty := cons_unlines hlines ▸ hsub
      rw [hmore, List.flatMap_nil, List.sublist_nil] at hempty
      contradiction
    · rw [← cons_unlines hlines, ← cons_unlines hmore] at hsub
      exact List.cons_sublist_cons.mp hsub

end Unlines

/-! ### Characters that no line ending holds -/

section Count

variable {c : Char}

theorem count_unlines (hnewline : c ≠ '\n') (lines : List Text) :
    (unlines lines).count c = lines.flatten.count c := by
  have hfed : ∀ below : List Text,
      (below.flatMap fun line => '\n' :: line).count c = below.flatten.count c := by
    intro below
    induction below with
    | nil => rfl
    | cons line below ih =>
        rw [List.flatMap_cons, List.count_append, List.count_cons_of_ne hnewline.symm, ih,
          List.flatten_cons, List.count_append]
  cases lines with
  | nil => rfl
  | cons line lines =>
      rw [unlines_cons, List.count_append, hfed, List.flatten_cons, List.count_append]

theorem count_dropReturn (hreturn : c ≠ '\r') (text : Text) :
    text.dropReturn.count c = text.count c := by
  unfold dropReturn
  split
  · rename_i hlast
    obtain ⟨front, rfl⟩ := List.getLast?_eq_some_iff.mp hlast
    rw [List.dropLast_concat, List.count_append, List.count_singleton]
    simp [hreturn.symm]
  · rfl

theorem count_flatten_lines (hnewline : c ≠ '\n') (hreturn : c ≠ '\r') (text : Text) :
    text.lines.flatten.count c = text.count c := by
  have hdropped : ∀ pieces : List Text,
      (pieces.map dropReturn).flatten.count c = pieces.flatten.count c := by
    intro pieces
    induction pieces with
    | nil => rfl
    | cons piece pieces ih =>
        rw [List.map_cons, List.flatten_cons, List.count_append, ih, count_dropReturn hreturn,
          List.flatten_cons, List.count_append]
  calc text.lines.flatten.count c
      = (text.splitOn '\n').flatten.count c := hdropped _
    _ = (unlines (text.splitOn '\n')).count c := (count_unlines hnewline _).symm
    _ = text.count c := by rw [unlines, List.intercalate_splitOn]

end Count

end MarkupEditor.Text
