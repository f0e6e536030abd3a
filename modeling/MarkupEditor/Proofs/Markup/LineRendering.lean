import MarkupEditor.Proofs.Markup.LineForms

/-!
# The rendering of a line

The table has ten steps, and each works on what the steps before it have written. What they amount
to is one enclosure around the inline steps on the body: the line constructs act on at most one
line form, which no inline step changes, and after that construct has acted the line starts with a
tag and has no form any more.
-/

namespace MarkupEditor.Markup

section Steps

variable {construct other step : Construct} {line body : Text}

theorem rewrite_of_body? (hbody : construct.body? line = some body) :
    construct.rewrite line = construct.enclose body := by
  cases construct with
  | heading | blockquote | orderedItem | unorderedItem =>
      simp only [Construct.body?] at hbody
      simp only [Construct.rewrite, wrapLine, hbody, Construct.enclose]
  | rule =>
      obtain ⟨rfl, rfl⟩ := ruleBody?_eq_some_iff.mp hbody
      rfl
  | bold | italic | code | image | link => simp [Construct.body?] at hbody

theorem rewrite_of_body?_eq_none (hmem : construct ∉ inlineConstructs)
    (hbody : construct.body? line = none) : construct.rewrite line = line := by
  cases construct with
  | heading | blockquote | orderedItem | unorderedItem =>
      simp only [Construct.body?] at hbody
      simp only [Construct.rewrite, wrapLine, hbody]
  | rule =>
      simp only [Construct.body?, ite_eq_right_iff, reduceCtorEq, imp_false] at hbody
      simp only [Construct.rewrite, if_neg hbody]
  | bold | italic | code | image | link => exact absurd (by decide) hmem

theorem exists_enclose_eq_cons (hmem : construct ∉ inlineConstructs) (body : Text) :
    ∃ tail, construct.enclose body = '<' :: tail := by
  cases construct with
  | heading | blockquote | orderedItem | unorderedItem => exact ⟨_, element_eq_cons _ _⟩
  | rule => exact ⟨_, rfl⟩
  | bold | italic | code | image | link => exact absurd (by decide) hmem

theorem newline_not_mem_enclose (hmem : construct ∉ inlineConstructs) (hbody : '\n' ∉ body) :
    '\n' ∉ construct.enclose body := by
  cases construct with
  | heading | blockquote | orderedItem | unorderedItem =>
      exact newline_not_mem_element (by decide) hbody
  | rule => exact (by decide : '\n' ∉ "<hr>".toList)
  | bold | italic | code | image | link => exact absurd (by decide) hmem

theorem rewrite_enclose (hstep : step ∈ inlineConstructs) (hmem : construct ∉ inlineConstructs) :
    step.rewrite (construct.enclose body) = construct.enclose (step.rewrite body) := by
  cases construct with
  | heading | blockquote | orderedItem | unorderedItem => exact rewrite_element hstep (by decide)
  | rule =>
      rw [rewrite_eq_rewriteFirst hstep]
      exact (inline_recogniser hstep).rewriteFirst_of_inert (by decide : Inert "<hr>".toList)
  | bold | italic | code | image | link => exact absurd (by decide) hmem

/-- **Forms survive inline steps.** After an inline step a line has the form that it had before,
with the step applied to its body, and no other. -/
theorem body?_rewrite (hstep : step ∈ inlineConstructs) (hline : '\n' ∉ line) :
    construct.body? (step.rewrite line) = (construct.body? line).map step.rewrite := by
  have hinline := inline_recogniser hstep
  rw [rewrite_eq_rewriteFirst hstep]
  cases hbody : construct.body? line with
  | some body =>
      obtain ⟨hnewline, hrule, front, hfront, rfl⟩ := body?_eq_some_iff.mp hbody
      rw [hinline.rewriteFirst_inert_append hfront.inert]
      refine body?_eq_some_iff.mpr ⟨hinline.newline_not_mem_rewriteFirst hnewline, ?_, front,
        hfront, rfl⟩
      exact fun hconstruct => hinline.rewriteFirst_eq_nil_iff.mpr (hrule hconstruct)
  | none =>
      rw [Option.map_none, Option.eq_none_iff_forall_ne_some]
      intro rewritten hrewritten
      obtain ⟨_, hrule, front, hfront, heq⟩ := body?_eq_some_iff.mp hrewritten
      obtain ⟨body, rfl, rfl⟩ := hinline.exists_of_rewriteFirst_eq_append hfront.tag_not_mem heq
      rw [List.mem_append, not_or] at hline
      have hsome : construct.body? (front ++ body) = some body :=
        body?_eq_some_iff.mpr ⟨hline.2,
          fun hconstruct => hinline.rewriteFirst_eq_nil_iff.mp (hrule hconstruct), front, hfront, rfl⟩
      rw [hbody] at hsome
      simp at hsome

end Steps

/-! ### Many steps -/

section Table

variable {construct : Construct} {constructs : List Construct} {line body : Text}

theorem rewriteAll_cons (construct : Construct) (constructs : List Construct) (line : Text) :
    rewriteAll (construct :: constructs) line = rewriteAll constructs (construct.rewrite line) := by
  rfl

theorem rewriteAll_append (first second : List Construct) (line : Text) :
    rewriteAll (first ++ second) line = rewriteAll second (rewriteAll first line) := by
  rw [rewriteAll, List.foldl_append]
  rfl

theorem body?_rewriteAll (hsub : constructs ⊆ inlineConstructs) (hline : '\n' ∉ line) :
    construct.body? (rewriteAll constructs line) =
      (construct.body? line).map (rewriteAll constructs) := by
  induction constructs generalizing line with
  | nil =>
      have hid : rewriteAll [] = id := rfl
      rw [hid, Option.map_id]
      rfl
  | cons step constructs ih =>
      rw [List.cons_subset] at hsub
      rw [rewriteAll_cons, ih hsub.2 (newline_not_mem_rewrite hsub.1 hline),
        body?_rewrite hsub.1 hline, Option.map_map]
      rfl

theorem rewriteAll_enclose (hsub : constructs ⊆ inlineConstructs)
    (hmem : construct ∉ inlineConstructs) :
    rewriteAll constructs (construct.enclose body) =
      construct.enclose (rewriteAll constructs body) := by
  induction constructs generalizing body with
  | nil => rfl
  | cons step constructs ih =>
      rw [List.cons_subset] at hsub
      rw [rewriteAll_cons, rewriteAll_cons, rewrite_enclose hsub.1 hmem, ih hsub.2]

theorem filter_subset_inlineConstructs (constructs : List Construct) :
    constructs.filter (· ∈ inlineConstructs) ⊆ inlineConstructs := by
  intro construct hmem
  simpa using (List.mem_filter.mp hmem).2

/-- Constructs whose form the line has not leave only their inline steps. -/
theorem rewriteAll_eq_filter (hline : '\n' ∉ line)
    (hnone : ∀ construct ∈ constructs, construct.body? line = none) :
    rewriteAll constructs line = rewriteAll (constructs.filter (· ∈ inlineConstructs)) line := by
  induction constructs generalizing line with
  | nil => rfl
  | cons step constructs ih =>
      obtain ⟨hstep, hrest⟩ := List.forall_mem_cons.mp hnone
      by_cases hmem : step ∈ inlineConstructs
      · have hkeep : ∀ construct ∈ constructs, construct.body? (step.rewrite line) = none := by
          intro construct hconstruct
          rw [body?_rewrite hmem hline, hrest construct hconstruct]
          rfl
        rw [List.filter_cons_of_pos (by simpa using hmem), rewriteAll_cons, rewriteAll_cons,
          ih (newline_not_mem_rewrite hmem hline) hkeep]
      · rw [List.filter_cons_of_neg (by simpa using hmem), rewriteAll_cons,
          rewrite_of_body?_eq_none hmem hstep, ih hline hrest]

theorem filter_all : Construct.all.filter (· ∈ inlineConstructs) = inlineConstructs := by
  decide

theorem mem_all (construct : Construct) : construct ∈ Construct.all := by
  cases construct <;> decide

theorem renderInline_eq (text : Text) : renderInline text = rewriteAll inlineConstructs text := by
  rfl

theorem renderLine_of_body?_eq_none (hline : '\n' ∉ line)
    (hnone : ∀ construct : Construct, construct.body? line = none) :
    renderLine line = renderInline line := by
  rw [renderLine, rewriteAll_eq_filter hline fun construct _ => hnone construct, filter_all,
    renderInline_eq]

theorem renderLine_of_body? (hline : '\n' ∉ line) (hmem : construct ∉ inlineConstructs)
    (hbody : construct.body? line = some body) :
    renderLine line = construct.enclose (renderInline body) := by
  obtain ⟨before, after, hall, hbefore⟩ := List.eq_append_cons_of_mem (mem_all construct)
  -- only the construct itself reads the line, so the steps before it are inline steps
  have hothers : ∀ other ∈ before, other.body? line = none := by
    intro other hother
    rw [Option.eq_none_iff_forall_ne_some]
    intro otherBody hotherBody
    exact hbefore (eq_of_body? hbody hotherBody ▸ hother)
  have hreach : rewriteAll before line = rewriteAll (before.filter (· ∈ inlineConstructs)) line :=
    rewriteAll_eq_filter hline hothers
  set inner := rewriteAll (before.filter (· ∈ inlineConstructs)) body with hinner
  have hread : construct.body? (rewriteAll before line) = some inner := by
    rw [hreach, body?_rewriteAll (filter_subset_inlineConstructs before) hline, hbody]
    rfl
  -- the enclosure has no form, so the steps after it are inline steps
  have hclosed : ∀ other ∈ after, other.body? (construct.enclose inner) = none := by
    intro other _
    obtain ⟨tail, htail⟩ := exists_enclose_eq_cons hmem inner
    rw [htail, body?_tag]
  have hinnerLine : '\n' ∉ inner := (body?_eq_some_iff.mp hread).1
  have hsplit : inlineConstructs =
      before.filter (· ∈ inlineConstructs) ++ after.filter (· ∈ inlineConstructs) := by
    calc inlineConstructs
        = (before ++ construct :: after).filter (· ∈ inlineConstructs) := by rw [← hall, filter_all]
      _ = _ := by rw [List.filter_append, List.filter_cons_of_neg (by simpa using hmem)]
  rw [renderLine, hall, rewriteAll_append, rewriteAll_cons, rewrite_of_body? hread,
    rewriteAll_eq_filter (newline_not_mem_enclose hmem hinnerLine) hclosed,
    rewriteAll_enclose (filter_subset_inlineConstructs after) hmem, hinner, ← rewriteAll_append,
    ← hsplit, renderInline_eq]

end Table

/-! ### Which steps act -/

def Construct.before (construct : Construct) : List Construct :=
  Construct.all.takeWhile (· != construct)

/-- The step of the construct changes the text that the steps before it make of the line. -/
def Construct.Acts (construct : Construct) (line : Text) : Prop :=
  construct.rewrite (rewriteAll construct.before line) ≠ rewriteAll construct.before line

section Acting

variable {construct : Construct} {constructs : List Construct} {line body : Text}

/-- Neither an inline step nor the step of another line construct gives or takes a form. -/
theorem isSome_body?_rewriteAll (hmem : construct ∉ constructs) (hline : '\n' ∉ line) :
    (construct.body? (rewriteAll constructs line)).isSome = (construct.body? line).isSome := by
  induction constructs generalizing line with
  | nil => rfl
  | cons step constructs ih =>
      rw [List.mem_cons, not_or] at hmem
      rw [rewriteAll_cons]
      by_cases hstep : step ∈ inlineConstructs
      · rw [ih hmem.2 (newline_not_mem_rewrite hstep hline), body?_rewrite hstep hline,
          Option.isSome_map]
      · cases hbody : step.body? line with
        | none => rw [rewrite_of_body?_eq_none hstep hbody, ih hmem.2 hline]
        | some body =>
            have hnewline : '\n' ∉ body := (body?_eq_some_iff.mp hbody).1
            obtain ⟨tail, htail⟩ := exists_enclose_eq_cons hstep body
            have hnone : construct.body? line = none := by
              rw [Option.eq_none_iff_forall_ne_some]
              exact fun _ hother => hmem.1 (eq_of_body? hother hbody)
            rw [rewrite_of_body? hbody, ih hmem.2 (newline_not_mem_enclose hstep hnewline), htail,
              body?_tag, hnone]

/-- The step of a line construct acts on a line exactly if the line itself has its form. -/
theorem acts_iff (hmem : construct ∉ inlineConstructs) (hline : '\n' ∉ line) :
    construct.Acts line ↔ ∃ body, construct.body? line = some body := by
  have hbefore : construct ∉ construct.before := by
    intro hin
    simpa using List.mem_takeWhile_imp hin
  rw [← Option.isSome_iff_exists, ← isSome_body?_rewriteAll hbefore hline, Construct.Acts]
  cases hbody : construct.body? (rewriteAll construct.before line) with
  | none => simp [rewrite_of_body?_eq_none hmem hbody]
  | some body =>
      rw [rewrite_of_body? hbody]
      obtain ⟨tail, htail⟩ := exists_enclose_eq_cons hmem body
      simp only [Option.isSome_some, iff_true]
      intro hsame
      rw [← hsame, htail, body?_tag] at hbody
      simp at hbody

theorem body?_heading_iff (hline : '\n' ∉ line) :
    Construct.body? .heading line = some body ↔ line = '#' :: ' ' :: body := by
  refine headingBody?_eq_some_iff.trans (and_iff_right_of_imp ?_)
  rintro rfl
  simpa using hline

theorem body?_blockquote_iff (hline : '\n' ∉ line) :
    Construct.body? .blockquote line = some body ↔ line = '>' :: ' ' :: body := by
  refine quoteBody?_eq_some_iff.trans (and_iff_right_of_imp ?_)
  rintro rfl
  simpa using hline

theorem body?_item_iff {kind : ListKind} (hline : '\n' ∉ line) :
    kind.construct.body? line = some body ↔ ∃ marker, Marker kind marker ∧ line = marker ++ body := by
  refine body?_item_eq_some_iff.trans (and_iff_right_of_imp ?_)
  rintro ⟨marker, _, rfl⟩
  rw [List.mem_append, not_or] at hline
  exact hline.2

theorem body?_of_not_form (hline : '\n' ∉ line) (hheading : ∀ body, line ≠ '#' :: ' ' :: body)
    (hquote : ∀ body, line ≠ '>' :: ' ' :: body) (hrule : line ≠ "---".toList)
    (hitem : classify line = none) (construct : Construct) : construct.body? line = none := by
  rw [Option.eq_none_iff_forall_ne_some]
  intro body hbody
  cases construct with
  | heading => exact hheading body ((body?_heading_iff hline).mp hbody)
  | blockquote => exact hquote body ((body?_blockquote_iff hline).mp hbody)
  | rule => exact hrule (ruleBody?_eq_some_iff.mp hbody).2
  | orderedItem =>
      have hordered : classify line = some .ordered := classify_eq_some_iff.mpr ⟨body, hbody⟩
      simp [hitem] at hordered
  | unorderedItem =>
      have hunordered : classify line = some .unordered := classify_eq_some_iff.mpr ⟨body, hbody⟩
      simp [hitem] at hunordered
  | bold | italic | code | image | link => simp [Construct.body?] at hbody

/-- **The table.** On a line the ten steps come to one enclosure around the inline steps on the
body, if the line is a heading, a quote, a rule or an item, and to the inline steps otherwise. What
a line is an item of is read off the line as it stands, and each step for whole lines acts exactly
if the line as it stands has its form. -/
theorem renderLine_eq_enclose_renderInline (line : Text) (hline : '\n' ∉ line) :
    (∀ body, line = '#' :: ' ' :: body → renderLine line = element "h1".toList (renderInline body)) ∧
    (∀ body, line = '>' :: ' ' :: body →
      renderLine line = element "blockquote".toList (renderInline body)) ∧
    (line = "---".toList → renderLine line = "<hr>".toList) ∧
    (∀ kind marker body, Marker kind marker → line = marker ++ body →
      renderLine line = element "li".toList (renderInline body)) ∧
    ((∀ body, line ≠ '#' :: ' ' :: body) → (∀ body, line ≠ '>' :: ' ' :: body) →
      line ≠ "---".toList → classify line = none → renderLine line = renderInline line) ∧
    (∀ kind, classify line = some kind ↔ ∃ marker body, Marker kind marker ∧ line = marker ++ body) ∧
    (Construct.Acts .heading line ↔ ∃ body, line = '#' :: ' ' :: body) ∧
    (Construct.Acts .blockquote line ↔ ∃ body, line = '>' :: ' ' :: body) ∧
    (Construct.Acts .rule line ↔ line = "---".toList) ∧
    (Construct.Acts .orderedItem line ↔ classify line = some .ordered) ∧
    (Construct.Acts .unorderedItem line ↔ classify line = some .unordered) := by
  refine ⟨?_, ?_, ?_, ?_, ?_, ?_, ?_, ?_, ?_, ?_, ?_⟩
  · intro body hform
    exact renderLine_of_body? hline (by decide) ((body?_heading_iff hline).mpr hform)
  · intro body hform
    exact renderLine_of_body? hline (by decide) ((body?_blockquote_iff hline).mpr hform)
  · intro hform
    exact renderLine_of_body? hline (by decide) (ruleBody?_eq_some_iff.mpr ⟨rfl, hform⟩)
  · intro kind marker body hmarker hform
    have hbody := (body?_item_iff hline).mpr ⟨marker, hmarker, hform⟩
    cases kind with
    | ordered => exact renderLine_of_body? hline (by decide) hbody
    | unordered => exact renderLine_of_body? hline (by decide) hbody
  · intro hheading hquote hrule hitem
    exact renderLine_of_body?_eq_none hline (body?_of_not_form hline hheading hquote hrule hitem)
  · intro kind
    simp only [classify_eq_some_iff, body?_item_iff hline]
    exact exists_comm
  · simp only [acts_iff (show Construct.heading ∉ inlineConstructs by decide) hline,
      body?_heading_iff hline]
  · simp only [acts_iff (show Construct.blockquote ∉ inlineConstructs by decide) hline,
      body?_blockquote_iff hline]
  · simp only [acts_iff (show Construct.rule ∉ inlineConstructs by decide) hline,
      ruleBody?_eq_some_iff, exists_eq_left]
    rfl
  · rw [acts_iff (by decide) hline, classify_eq_some_iff, ListKind.construct]
  · rw [acts_iff (by decide) hline, classify_eq_some_iff, ListKind.construct]

theorem renderLine_indented_item :
    '\n' ∉ " 12. **a** [b](c)".toList ∧
      renderLine " 12. **a** [b](c)".toList =
        element "li".toList (renderInline "**a** [b](c)".toList) := by
  have hdigits : ∀ c ∈ ['1', '2'], Character.isDigit c = true := List.all_eq_true.mp (by decide)
  have hmarker : Marker .ordered " 12. ".toList :=
    Marker.ordered (Or.inr rfl) (List.cons_ne_nil '1' ['2']) hdigits
  exact ⟨by decide, (renderLine_eq_enclose_renderInline _ (by decide)).2.2.2.1 .ordered _ _ hmarker rfl⟩

end Acting

end MarkupEditor.Markup
