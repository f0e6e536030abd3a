import MarkupEditor.Proofs.Markup.Leftmost
import MarkupEditor.Proofs.Markup.LineRendering

/-!
# Images before links

An image is a reference behind an exclamation mark, and the reference by itself is a link. The image
step comes first, so that no link is read out of an image, but it rewrites a single image. What
reaches the link step is therefore counted: the steps before write tags between brackets and never
bring two brackets together, so they make no image, and the image step takes one away and makes none,
although a reference may start in front of the tag it writes or inside of it. A line with at most one
image leaves no image to the link step. A line with two may lose the second to a link.
-/

namespace MarkupEditor.Markup

/-! ### Where images start -/

/-- The text closes a reference that is opened right in front of it. -/
def Closes (text : Text) : Prop :=
  ∃ label rest, ']' ∉ label ∧ ')' ∈ rest ∧ text = label ++ ']' :: '(' :: rest

/-- The number of places at which an image starts. -/
def imageCount : Text → Nat
  | [] => 0
  | c :: rest => (if (imageAt (c :: rest)).isSome then 1 else 0) + imageCount rest

section Closes

variable {text front rest : Text}

theorem append_cons_inj_of_not_mem {mark : Char} {other otherRest : Text} (hfront : mark ∉ front)
    (hother : mark ∉ other) (heq : front ++ mark :: rest = other ++ mark :: otherRest) :
    front = other ∧ rest = otherRest := by
  have htake := congrArg (List.takeWhile (· != mark)) heq
  rw [Text.takeWhile_ne_append hfront, Text.takeWhile_ne_append hother] at htake
  subst htake
  rw [List.append_right_inj, List.cons.injEq] at heq
  exact ⟨rfl, heq.2⟩

/-- The first closing bracket must be followed by an opening parenthesis that is closed. -/
theorem closes_label_iff (hfront : ']' ∉ front) :
    Closes (front ++ ']' :: rest) ↔ ∃ tail, ')' ∈ tail ∧ rest = '(' :: tail := by
  constructor
  · rintro ⟨label, tail, hlabel, htail, heq⟩
    obtain ⟨-, rfl⟩ := append_cons_inj_of_not_mem hfront hlabel heq
    exact ⟨tail, htail, rfl⟩
  · rintro ⟨tail, htail, rfl⟩
    exact ⟨front, tail, hfront, htail, rfl⟩

theorem closes_append_iff (hfront : ']' ∉ front) : Closes (front ++ rest) ↔ Closes rest := by
  by_cases hrest : ']' ∈ rest
  · obtain ⟨label, tail, rfl, hlabel⟩ := List.eq_append_cons_of_mem hrest
    have hboth : ']' ∉ front ++ label := by simp [hfront, hlabel]
    rw [← List.append_assoc, closes_label_iff hboth, closes_label_iff hlabel]
  · have hnone : ∀ text : Text, ']' ∉ text → ¬ Closes text := by
      rintro text htext ⟨label, tail, -, -, rfl⟩
      simp at htext
    have hboth : ']' ∉ front ++ rest := by simp [hfront, hrest]
    simp [hnone _ hrest, hnone _ hboth]

/-- If the label ends in the front, what follows matters only for the parentheses. -/
theorem closes_append_of_mem {other : Text} (hfront : ']' ∈ front) (hopen : rest.head? ≠ some '(')
    (hother : ')' ∈ other) (hcloses : Closes (front ++ rest)) : Closes (front ++ other) := by
  obtain ⟨label, after, rfl, hlabel⟩ := List.eq_append_cons_of_mem hfront
  rw [List.append_assoc, List.cons_append, closes_label_iff hlabel] at hcloses ⊢
  obtain ⟨tail, -, heq⟩ := hcloses
  cases after with
  | nil =>
      rw [List.nil_append] at heq
      simp [heq] at hopen
  | cons c after =>
      obtain ⟨rfl, -⟩ := List.cons.inj heq
      exact ⟨after ++ other, List.mem_append_right _ hother, rfl⟩

theorem isSome_reference?_iff :
    (reference? text).isSome ↔ ∃ body, text = '[' :: body ∧ Closes body := by
  rw [Option.isSome_iff_exists]
  constructor
  · rintro ⟨⟨label, target, behind⟩, hread⟩
    obtain ⟨hlabel, -, rfl⟩ := reference?_eq_some_iff.mp hread
    exact ⟨_, rfl, label, target ++ ')' :: behind, hlabel, by simp, rfl⟩
  · rintro ⟨_, rfl, label, rest, hlabel, hrest, rfl⟩
    obtain ⟨target, behind, rfl, htarget⟩ := List.eq_append_cons_of_mem hrest
    exact ⟨_, reference?_eq_some_iff.mpr ⟨hlabel, htarget, rfl⟩⟩

theorem isSome_imageAt_iff :
    (imageAt text).isSome ↔ ∃ body, text = '!' :: '[' :: body ∧ Closes body := by
  have hmark : ∀ rest, (imageAt ('!' :: rest)).isSome = (reference? rest).isSome := by
    intro rest
    simp [imageAt]
  constructor
  · intro hread
    unfold imageAt at hread
    split at hread
    · rename_i rest
      rw [Option.isSome_map, isSome_reference?_iff] at hread
      obtain ⟨body, rfl, hbody⟩ := hread
      exact ⟨body, rfl, hbody⟩
    · simp at hread
  · rintro ⟨body, rfl, hbody⟩
    rw [hmark, isSome_reference?_iff]
    exact ⟨body, rfl, hbody⟩

end Closes

section Counting

variable {text front rest : Text}

theorem imageAt_cons_eq_none {c : Char} (hc : c ≠ '!') : imageAt (c :: rest) = none := by
  rw [← Option.not_isSome_iff_eq_none, isSome_imageAt_iff]
  rintro ⟨body, heq, -⟩
  exact hc (List.cons.inj heq).1

theorem imageCount_cons_of_none {c : Char} (hnone : imageAt (c :: rest) = none) :
    imageCount (c :: rest) = imageCount rest := by
  simp [imageCount, hnone]

theorem imageCount_cons_of_ne {c : Char} (hc : c ≠ '!') :
    imageCount (c :: rest) = imageCount rest :=
  imageCount_cons_of_none (imageAt_cons_eq_none hc)

theorem imageCount_append_of_not_mem (hfront : '!' ∉ front) :
    imageCount (front ++ rest) = imageCount rest := by
  induction front with
  | nil => rfl
  | cons c front ih =>
      rw [List.mem_cons, not_or] at hfront
      rw [List.cons_append, imageCount_cons_of_ne (Ne.symm hfront.1), ih hfront.2]

theorem imageCount_le_append (front rest : Text) :
    imageCount rest ≤ imageCount (front ++ rest) := by
  induction front with
  | nil => exact Nat.le_refl _
  | cons c front ih => exact Nat.le_trans ih (Nat.le_add_left _ _)

theorem imageCount_pos (hread : (imageAt rest).isSome) (front : Text) :
    0 < imageCount (front ++ rest) := by
  apply Nat.lt_of_lt_of_le _ (imageCount_le_append front rest)
  obtain ⟨body, rfl, -⟩ := isSome_imageAt_iff.mp hread
  rw [imageCount, if_pos hread]
  omega

/-- If every image that starts in a text when one thing follows also starts there when another thing
follows, the counts differ by no more than those of what follows. -/
theorem imageCount_append_le {new old : Text}
    (hstart : ∀ suffix, suffix <:+ front →
      (imageAt (suffix ++ new)).isSome → (imageAt (suffix ++ old)).isSome) :
    imageCount (front ++ new) + imageCount old ≤ imageCount (front ++ old) + imageCount new := by
  induction front with
  | nil => exact Nat.le_of_eq (Nat.add_comm _ _)
  | cons c front ih =>
      have hrest := ih fun suffix hsuffix => hstart suffix (hsuffix.trans (List.suffix_cons c front))
      have hfirst := hstart (c :: front) List.suffix_rfl
      simp only [List.cons_append] at hfirst ⊢
      simp only [imageCount]
      split
      · rename_i hread
        rw [if_pos (hfirst hread)]
        omega
      · omega

end Counting

/-! ### The image step -/

section ImageStep

variable {text behind : Text} {label target : Text}

/-- The image step closes no reference that was not closed before. -/
theorem closes_of_rewriteFirst (hcloses : Closes (rewriteFirst imageAt text)) : Closes text := by
  rcases imageAt.readsFirst_or_eq text with ⟨front, html, behind, hreads⟩ | hsame
  · rw [imageAt_inline.rewriteFirst_of_readsFirst hreads] at hcloses
    obtain ⟨piece, ⟨label, target, reference, ⟨hlabel, htarget, rfl⟩, rfl, rfl⟩, rfl⟩ :=
      imageAt_inline.exists_piece hreads
    by_cases hfront : ']' ∈ front
    · -- the reference closes its label in front of the image, whose tag is no parenthesis
      have hopen : (imageHtml label target ++ behind).head? ≠ some '(' := by
        simp [imageHtml_eq_cons]
      exact closes_append_of_mem hfront hopen (by simp) hcloses
    · -- the label of the image closes the label of the reference
      have hboth : ']' ∉ front ++ '!' :: '[' :: label := by simp [hfront, hlabel]
      have hclosed : Closes ((front ++ '!' :: '[' :: label) ++ ']' :: '(' ::
          (target ++ ')' :: behind)) := (closes_label_iff hboth).mpr ⟨_, by simp, rfl⟩
      simpa using hclosed
  · rwa [hsame] at hcloses

theorem imageAt_cons_rewriteFirst {c : Char} (hnone : imageAt (c :: text) = none) :
    imageAt (c :: rewriteFirst imageAt text) = none := by
  rw [← Option.not_isSome_iff_eq_none, isSome_imageAt_iff] at hnone ⊢
  rintro ⟨body, heq, hbody⟩
  obtain ⟨rfl, hopen⟩ := List.cons.inj heq
  have hfront : rewriteFirst imageAt text = ['['] ++ body := hopen
  obtain ⟨inner, rfl, rfl⟩ := imageAt_inline.exists_of_rewriteFirst_eq_append (by decide) hfront
  exact hnone ⟨inner, rfl, closes_of_rewriteFirst hbody⟩

/-- A quotation mark does not belong to the start of an image. -/
theorem exists_of_append_quote {rest body : Text} (heq : text ++ '"' :: rest = '!' :: '[' :: body) :
    ∃ inner, text = '!' :: '[' :: inner ∧ body = inner ++ '"' :: rest := by
  rcases text with _ | ⟨c, _ | ⟨d, inner⟩⟩
  · simp at heq
  · simp at heq
  · simp only [List.cons_append, List.cons.injEq] at heq
    obtain ⟨rfl, rfl, rfl⟩ := heq
    exact ⟨inner, rfl, rfl⟩

/-- An image that starts in the label as the tag quotes it starts there in the reference. -/
theorem isSome_imageAt_label (hlabel : ']' ∉ label) (htarget : ')' ∈ target)
    (hread : (imageAt (label ++ '"' :: behind)).isSome) :
    (imageAt (label ++ ']' :: '(' :: target)).isSome := by
  rw [isSome_imageAt_iff] at hread ⊢
  obtain ⟨body, heq, -⟩ := hread
  obtain ⟨inner, rfl, -⟩ := exists_of_append_quote heq
  simp only [List.mem_cons, not_or] at hlabel
  exact ⟨_, rfl, (closes_label_iff hlabel.2.2).mpr ⟨target, htarget, rfl⟩⟩

/-- An image that starts in the target as the tag quotes it starts there in the reference. -/
theorem isSome_imageAt_target {quoted : Text} (hquoted : ']' ∉ quoted)
    (hread : (imageAt (target ++ '"' :: (quoted ++ behind))).isSome) :
    (imageAt (target ++ ')' :: behind)).isSome := by
  rw [isSome_imageAt_iff] at hread ⊢
  obtain ⟨body, heq, hbody⟩ := hread
  obtain ⟨inner, rfl, rfl⟩ := exists_of_append_quote heq
  refine ⟨inner ++ ')' :: behind, rfl, ?_⟩
  by_cases hinner : ']' ∈ inner
  · -- the label ends in the target, behind which the tag has no parenthesis
    exact closes_append_of_mem hinner (by simp) List.mem_cons_self hbody
  · -- the label ends behind the tag, and the parenthesis belongs to it
    have hfront : ']' ∉ inner ++ '"' :: quoted := by simp [hinner, hquoted]
    have hclosed : Closes behind := by
      rw [← closes_append_iff hfront]
      simpa using hbody
    have hparenthesis : ']' ∉ inner ++ [')'] := by simp [hinner]
    have hreference := (closes_append_iff hparenthesis).mpr hclosed
    simpa using hreference

theorem imageCount_append_target_le {quoted : Text} (hquoted : ']' ∉ quoted)
    (target behind : Text) :
    imageCount (target ++ '"' :: (quoted ++ behind)) + imageCount behind ≤
      imageCount (target ++ ')' :: behind) + imageCount (quoted ++ behind) := by
  have hle : imageCount (target ++ '"' :: (quoted ++ behind)) + imageCount (')' :: behind) ≤
      imageCount (target ++ ')' :: behind) + imageCount ('"' :: (quoted ++ behind)) := by
    apply imageCount_append_le
    intro suffix _ hread
    exact isSome_imageAt_target hquoted hread
  rwa [imageCount_cons_of_ne (by decide), imageCount_cons_of_ne (by decide)] at hle

theorem imageCount_append_label_le (hlabel : ']' ∉ label) (htarget : ')' ∈ target)
    (behind : Text) :
    imageCount (label ++ '"' :: behind) + imageCount target ≤
      imageCount (label ++ ']' :: '(' :: target) + imageCount behind := by
  have hle : imageCount (label ++ '"' :: behind) + imageCount (']' :: '(' :: target) ≤
      imageCount (label ++ ']' :: '(' :: target) + imageCount ('"' :: behind) := by
    apply imageCount_append_le
    intro suffix hsuffix hread
    exact isSome_imageAt_label (fun hmem => hlabel (hsuffix.mem hmem)) htarget hread
  rwa [imageCount_cons_of_ne (by decide), imageCount_cons_of_ne (by decide),
    imageCount_cons_of_ne (by decide)] at hle

theorem imageHtml_append (label target behind : Text) :
    imageHtml label target ++ behind =
      "<img src=\"".toList ++
        (target ++ '"' :: (" alt=\"".toList ++ (label ++ '"' :: '>' :: behind))) := by
  have hopen : "<img src=\"".toList = '<' :: "img src=\"".toList := by rfl
  have hquote : "\" alt=\"".toList = '"' :: " alt=\"".toList := by rfl
  have hclose : "\">".toList = ['"', '>'] := by rfl
  rw [imageHtml_eq_cons, hopen, hquote, hclose]
  simp only [List.append_assoc, List.cons_append, List.nil_append]

/-- The tag of an image holds fewer images than the image it replaces. -/
theorem imageCount_imageHtml_lt (hlabel : ']' ∉ label) (target behind : Text) :
    imageCount (imageHtml label target ++ behind) <
      imageCount ('!' :: '[' :: (label ++ ']' :: '(' :: (target ++ ')' :: behind))) := by
  have hclosed : ')' ∈ target ++ ')' :: behind := by simp
  have hread : (imageAt ('!' :: '[' :: (label ++ ']' :: '(' :: (target ++ ')' :: behind)))).isSome :=
    isSome_imageAt_iff.mpr ⟨_, rfl, (closes_label_iff hlabel).mpr ⟨_, hclosed, rfl⟩⟩
  have himage : imageCount ('!' :: '[' :: (label ++ ']' :: '(' :: (target ++ ')' :: behind))) =
      1 + imageCount (label ++ ']' :: '(' :: (target ++ ')' :: behind)) := by
    rw [imageCount, if_pos hread, imageCount_cons_of_ne (by decide)]
  obtain ⟨quoted, hquoted⟩ : ∃ quoted, " alt=\"".toList ++ (label ++ ['"', '>']) = quoted :=
    ⟨_, rfl⟩
  have hquotedLabel : ']' ∉ quoted := by simp [← hquoted, hlabel]
  have htail : " alt=\"".toList ++ (label ++ '"' :: '>' :: behind) = quoted ++ behind := by
    rw [← hquoted]
    simp
  have hattribute : imageCount (quoted ++ behind) =
      imageCount (label ++ '"' :: '>' :: behind) := by
    rw [← htail, imageCount_append_of_not_mem (by decide)]
  have hbehind : imageCount ('>' :: behind) = imageCount behind :=
    imageCount_cons_of_ne (by decide)
  have htargets := imageCount_append_target_le hquotedLabel target behind
  have hlabels := imageCount_append_label_le hlabel hclosed ('>' :: behind)
  rw [imageHtml_append, imageCount_append_of_not_mem (by decide), htail, himage]
  omega

/-- **The image step.** It takes an image away if there is one, and makes none. -/
theorem imageCount_rewriteFirst_le (text : Text) :
    imageCount (rewriteFirst imageAt text) ≤ imageCount text - 1 := by
  induction text with
  | nil => exact Nat.zero_le _
  | cons c text ih =>
      cases hread : imageAt (c :: text) with
      | none =>
          rw [rewriteFirst, hread, imageCount_cons_of_none hread]
          exact Nat.le_trans (Nat.le_of_eq (imageCount_cons_of_none (imageAt_cons_rewriteFirst hread))) ih
      | some read =>
          obtain ⟨html, behind⟩ := read
          obtain ⟨piece, ⟨label, target, reference, ⟨hlabel, htarget, rfl⟩, rfl, rfl⟩, heq⟩ :=
            imageAt_eq_some_iff.mp hread
          have hlt := imageCount_imageHtml_lt hlabel target behind
          have htext : c :: text =
              '!' :: '[' :: (label ++ ']' :: '(' :: (target ++ ')' :: behind)) := by
            simpa using heq
          simp only [rewriteFirst, hread]
          rw [htext]
          exact Nat.le_sub_one_of_lt hlt

end ImageStep

end MarkupEditor.Markup
