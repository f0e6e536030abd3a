import MarkupEditor.Proofs.Markup.Rewriting

/-!
# Lines and their forms

The table mixes steps that look at the whole line with steps that look for a piece anywhere in it,
and each works on what the steps before it have written. Still the form of a line is decided by the
line itself: a front that makes a form is inert and holds no tag, so no inline step can write, move
or remove it, and once a line is enclosed in a tag it has no form any more. What remains is one tag
around the inline steps on the body.

The same argument is made for all line constructs at once. `Construct.body?` reads the body of a
line, `Construct.enclose` is what the step makes of it, and both commute with the inline steps.
-/

namespace MarkupEditor.Markup

open Character

/-! ### The fronts of list items -/

/-- What stands in front of the body of an item: at most one space, then a number with a full stop
or a dash, then a space. -/
inductive Marker : ListKind → Text → Prop
  | ordered {indent number : Text} (hindent : indent = [] ∨ indent = [' ']) (hnumber : number ≠ [])
      (hdigits : ∀ c ∈ number, isDigit c = true) :
      Marker .ordered (indent ++ number ++ ['.', ' '])
  | unordered {indent : Text} (hindent : indent = [] ∨ indent = [' ']) :
      Marker .unordered (indent ++ ['-', ' '])

section Markers

variable {line body marker item : Text} {kind : ListKind}

theorem exists_indent (line : Text) :
    ∃ indent item, (indent = [] ∨ indent = [' ']) ∧ dropIndent line = item ∧
      line = indent ++ item := by
  unfold dropIndent
  split
  · exact ⟨[' '], _, Or.inr rfl, rfl, rfl⟩
  · exact ⟨[], _, Or.inl rfl, rfl, rfl⟩

theorem dropIndent_append {indent : Text} (hindent : indent = [] ∨ indent = [' '])
    (hitem : item.head? ≠ some ' ') : dropIndent (indent ++ item) = item := by
  rcases hindent with rfl | rfl
  · unfold dropIndent
    split
    · rename_i rest heq
      rw [List.nil_append] at heq
      simp [heq] at hitem
    · rfl
  · rfl

theorem oneLine?_eq_some_iff {text : Text} :
    oneLine? text = some body ↔ '\n' ∉ body ∧ text = body := by
  unfold oneLine?
  split_ifs with hline
  · constructor
    · intro hread
      simp at hread
    · rintro ⟨hbody, rfl⟩
      exact absurd hline hbody
  · rw [Option.some.injEq]
    constructor
    · rintro rfl
      exact ⟨hline, rfl⟩
    · exact fun hread => hread.2

theorem isDigit_head?_of_number {number : Text} (hnumber : number ≠ [])
    (hdigits : ∀ c ∈ number, isDigit c = true) :
    ∃ digit rest, number = digit :: rest ∧ isDigit digit = true := by
  cases number with
  | nil => exact absurd rfl hnumber
  | cons digit rest => exact ⟨digit, rest, rfl, hdigits digit List.mem_cons_self⟩

theorem dropIndent_number {indent number rest : Text} (hindent : indent = [] ∨ indent = [' '])
    (hnumber : number ≠ []) (hdigits : ∀ c ∈ number, isDigit c = true) :
    dropIndent (indent ++ (number ++ rest)) = number ++ rest := by
  apply dropIndent_append hindent
  obtain ⟨digit, more, rfl, hdigit⟩ := isDigit_head?_of_number hnumber hdigits
  rintro hspace
  simp only [List.cons_append, List.head?_cons, Option.some.injEq] at hspace
  exact absurd (hspace ▸ hdigit) (by decide)

theorem orderedBody?_eq_some_iff :
    orderedBody? line = some body ↔
      '\n' ∉ body ∧ ∃ marker, Marker .ordered marker ∧ line = marker ++ body := by
  constructor
  · intro hread
    obtain ⟨indent, item, hindent, hdrop, rfl⟩ := exists_indent line
    unfold orderedBody? at hread
    simp only [hdrop, List.isEmpty_iff] at hread
    split_ifs at hread with hempty
    split at hread
    · rename_i rest hrest
      obtain ⟨hbody, rfl⟩ := oneLine?_eq_some_iff.mp hread
      refine ⟨hbody, _, Marker.ordered hindent hempty fun c hc => List.mem_takeWhile_imp hc, ?_⟩
      calc indent ++ item
          = indent ++ (item.takeWhile isDigit ++ item.dropWhile isDigit) := by
            rw [List.takeWhile_append_dropWhile]
        _ = indent ++ item.takeWhile isDigit ++ ['.', ' '] ++ rest := by
            rw [hrest]
            simp
    · simp at hread
  · rintro ⟨hbody, marker, hmarker, rfl⟩
    cases hmarker with
    | @ordered indent number hindent hnumber hdigits =>
        have hitem : dropIndent (indent ++ (number ++ '.' :: ' ' :: body)) =
            number ++ '.' :: ' ' :: body := dropIndent_number hindent hnumber hdigits
        have htake : (number ++ '.' :: ' ' :: body).takeWhile isDigit = number := by
          rw [List.takeWhile_append_of_pos hdigits, List.takeWhile_cons_of_neg (by decide)]
          simp
        have hdrop : (number ++ '.' :: ' ' :: body).dropWhile isDigit = '.' :: ' ' :: body := by
          rw [List.dropWhile_append_of_pos hdigits, List.dropWhile_cons_of_neg (by decide)]
        have hshape : indent ++ number ++ ['.', ' '] ++ body =
            indent ++ (number ++ '.' :: ' ' :: body) := by
          simp
        simp only [orderedBody?, hshape, hitem, htake, hdrop, List.isEmpty_iff, hnumber, if_false]
        exact oneLine?_eq_some_iff.mpr ⟨hbody, rfl⟩

theorem unorderedBody?_eq_some_iff :
    unorderedBody? line = some body ↔
      '\n' ∉ body ∧ ∃ marker, Marker .unordered marker ∧ line = marker ++ body := by
  constructor
  · intro hread
    obtain ⟨indent, item, hindent, hdrop, rfl⟩ := exists_indent line
    unfold unorderedBody? at hread
    rw [hdrop] at hread
    split at hread
    · obtain ⟨hbody, rfl⟩ := oneLine?_eq_some_iff.mp hread
      exact ⟨hbody, _, Marker.unordered hindent, by simp⟩
    · simp at hread
  · rintro ⟨hbody, marker, hmarker, rfl⟩
    cases hmarker with
    | @unordered indent hindent =>
        have hitem : dropIndent (indent ++ ['-', ' '] ++ body) = '-' :: ' ' :: body := by
          rw [List.append_assoc]
          exact dropIndent_append hindent (by simp)
        simp only [unorderedBody?, hitem]
        exact oneLine?_eq_some_iff.mpr ⟨hbody, rfl⟩

end Markers

/-! ### Bodies and enclosures of the line constructs -/

/-- The body of a line that has the form of the construct. The form of a rule leaves no body. -/
def Construct.body? : Construct → Text → Option Text
  | heading => headingBody?
  | blockquote => quoteBody?
  | rule => fun line => if line = "---".toList then some [] else none
  | orderedItem => orderedBody?
  | unorderedItem => unorderedBody?
  | _ => fun _ => none

def Construct.enclose : Construct → Text → Text
  | heading => element "h1".toList
  | blockquote => element "blockquote".toList
  | rule => fun _ => "<hr>".toList
  | orderedItem | unorderedItem => element "li".toList
  | _ => id

inductive Front : Construct → Text → Prop
  | heading : Front .heading ['#', ' ']
  | blockquote : Front .blockquote ['>', ' ']
  | rule : Front .rule ['-', '-', '-']
  | orderedItem {marker : Text} (hmarker : Marker .ordered marker) : Front .orderedItem marker
  | unorderedItem {marker : Text} (hmarker : Marker .unordered marker) : Front .unorderedItem marker

/-- The construct that the first two characters behind the indentation leave possible. -/
def leading (line : Text) : Option Construct :=
  match dropIndent line with
  | [] => none
  | first :: rest =>
    if isDigit first then some .orderedItem
    else if first = '#' then some .heading
    else if first = '>' then some .blockquote
    else if rest.head? = some '-' then some .rule
    else some .unorderedItem

def ListKind.construct : ListKind → Construct
  | ordered => .orderedItem
  | unordered => .unorderedItem

section Forms

variable {construct other : Construct} {line body front : Text}

theorem headingBody?_eq_some_iff :
    headingBody? line = some body ↔ '\n' ∉ body ∧ line = '#' :: ' ' :: body := by
  constructor
  · intro hread
    unfold headingBody? at hread
    split at hread
    · obtain ⟨hline, rfl⟩ := oneLine?_eq_some_iff.mp hread
      exact ⟨hline, rfl⟩
    · simp at hread
  · rintro ⟨hline, rfl⟩
    exact oneLine?_eq_some_iff.mpr ⟨hline, rfl⟩

theorem quoteBody?_eq_some_iff :
    quoteBody? line = some body ↔ '\n' ∉ body ∧ line = '>' :: ' ' :: body := by
  constructor
  · intro hread
    unfold quoteBody? at hread
    split at hread
    · obtain ⟨hline, rfl⟩ := oneLine?_eq_some_iff.mp hread
      exact ⟨hline, rfl⟩
    · simp at hread
  · rintro ⟨hline, rfl⟩
    exact oneLine?_eq_some_iff.mpr ⟨hline, rfl⟩

theorem ruleBody?_eq_some_iff :
    Construct.body? .rule line = some body ↔ body = [] ∧ line = ['-', '-', '-'] := by
  have hrule : "---".toList = ['-', '-', '-'] := rfl
  simp only [Construct.body?, hrule]
  split_ifs with hline
  · simp [hline, eq_comm]
  · simp [hline]

/-- **Line forms.** A line has the form of a construct exactly if it is a front of that construct
and a body on one line, which a rule leaves empty. -/
theorem body?_eq_some_iff :
    construct.body? line = some body ↔
      '\n' ∉ body ∧ (construct = .rule → body = []) ∧
        ∃ front, Front construct front ∧ line = front ++ body := by
  constructor
  · intro hread
    cases construct with
    | heading =>
        obtain ⟨hline, rfl⟩ := headingBody?_eq_some_iff.mp hread
        exact ⟨hline, by simp, _, Front.heading, rfl⟩
    | blockquote =>
        obtain ⟨hline, rfl⟩ := quoteBody?_eq_some_iff.mp hread
        exact ⟨hline, by simp, _, Front.blockquote, rfl⟩
    | rule =>
        obtain ⟨rfl, rfl⟩ := ruleBody?_eq_some_iff.mp hread
        exact ⟨by simp, fun _ => rfl, _, Front.rule, rfl⟩
    | orderedItem =>
        obtain ⟨hline, marker, hmarker, rfl⟩ := orderedBody?_eq_some_iff.mp hread
        exact ⟨hline, by simp, marker, Front.orderedItem hmarker, rfl⟩
    | unorderedItem =>
        obtain ⟨hline, marker, hmarker, rfl⟩ := unorderedBody?_eq_some_iff.mp hread
        exact ⟨hline, by simp, marker, Front.unorderedItem hmarker, rfl⟩
    | bold | italic | code | image | link => simp [Construct.body?] at hread
  · rintro ⟨hline, hrule, front, hfront, rfl⟩
    cases hfront with
    | heading => exact headingBody?_eq_some_iff.mpr ⟨hline, rfl⟩
    | blockquote => exact quoteBody?_eq_some_iff.mpr ⟨hline, rfl⟩
    | rule =>
        obtain rfl := hrule rfl
        exact ruleBody?_eq_some_iff.mpr ⟨rfl, rfl⟩
    | orderedItem hmarker => exact orderedBody?_eq_some_iff.mpr ⟨hline, front, hmarker, rfl⟩
    | unorderedItem hmarker => exact unorderedBody?_eq_some_iff.mpr ⟨hline, front, hmarker, rfl⟩

theorem not_mem_of_isDigit {forbidden text : Text} (hdigits : ∀ c ∈ text, isDigit c = true)
    (hforbidden : ∀ c ∈ forbidden, isDigit c = false) : ∀ c ∈ text, c ∉ forbidden := by
  intro c hc hmem
  have hdigit := hdigits c hc
  rw [hforbidden c hmem] at hdigit
  simp at hdigit

theorem isDigit_eq_false : ∀ c ∈ '<' :: delimiters, isDigit c = false := by
  have hdigits : ('<' :: delimiters).all (fun c => !isDigit c) = true := by decide
  intro c hc
  simpa using List.all_eq_true.mp hdigits c hc

/-- No character of a front is a delimiter or starts a tag. -/
theorem Marker.not_mem {kind : ListKind} {marker : Text} (hmarker : Marker kind marker) :
    ∀ c ∈ marker, c ∉ '<' :: delimiters := by
  have hindented : ∀ {indent rest : Text}, indent = [] ∨ indent = [' '] →
      (∀ c ∈ rest, c ∉ '<' :: delimiters) → ∀ c ∈ indent ++ rest, c ∉ '<' :: delimiters := by
    rintro indent rest hindent hrest c hc
    rcases List.mem_append.mp hc with hc | hc
    · rcases hindent with rfl | rfl
      · simp at hc
      · obtain rfl := List.mem_singleton.mp hc
        simp [delimiters]
    · exact hrest c hc
  cases hmarker with
  | ordered hindent _ hdigits =>
      rw [List.append_assoc]
      refine hindented hindent fun c hc => ?_
      rcases List.mem_append.mp hc with hc | hc
      · exact not_mem_of_isDigit hdigits isDigit_eq_false c hc
      · have hdot : ∀ c ∈ ['.', ' '], c ∉ '<' :: delimiters := by simp [delimiters]
        exact hdot c hc
  | unordered hindent => exact hindented hindent (by simp [delimiters])

theorem Front.not_mem (hfront : Front construct front) : ∀ c ∈ front, c ∉ '<' :: delimiters := by
  cases hfront with
  | heading | blockquote | rule => simp [delimiters]
  | orderedItem hmarker => exact hmarker.not_mem
  | unorderedItem hmarker => exact hmarker.not_mem

theorem Front.inert (hfront : Front construct front) : Inert front :=
  fun c hc hmem => hfront.not_mem c hc (List.mem_cons_of_mem _ hmem)

theorem Front.tag_not_mem (hfront : Front construct front) : '<' ∉ front :=
  fun hmem => hfront.not_mem '<' hmem List.mem_cons_self

theorem Front.leading_append (hfront : Front construct front) :
    leading (front ++ body) = some construct := by
  cases hfront with
  | heading => rfl
  | blockquote => rfl
  | rule => rfl
  | orderedItem hmarker =>
      cases hmarker with
      | @ordered indent number hindent hnumber hdigits =>
          have hdrop : dropIndent (indent ++ (number ++ (['.', ' '] ++ body))) =
              number ++ (['.', ' '] ++ body) := dropIndent_number hindent hnumber hdigits
          obtain ⟨digit, rest, rfl, hdigit⟩ := isDigit_head?_of_number hnumber hdigits
          simp only [List.append_assoc, leading, hdrop]
          simp [hdigit]
  | unorderedItem hmarker =>
      cases hmarker with
      | @unordered indent hindent =>
          have hdrop : dropIndent (indent ++ ('-' :: ' ' :: body)) = '-' :: ' ' :: body :=
            dropIndent_append hindent (by simp)
          rw [List.append_assoc]
          simp only [List.cons_append, List.nil_append, leading, hdrop]
          rfl

/-- A line has the form of at most one construct. -/
theorem eq_of_body? {otherBody : Text} (hbody : construct.body? line = some body)
    (hother : other.body? line = some otherBody) : construct = other := by
  obtain ⟨_, _, front, hfront, hline⟩ := body?_eq_some_iff.mp hbody
  obtain ⟨_, _, otherFront, hotherFront, hotherLine⟩ := body?_eq_some_iff.mp hother
  have hleading : leading line = some construct := hline ▸ hfront.leading_append
  have hotherLeading : leading line = some other := hotherLine ▸ hotherFront.leading_append
  exact Option.some.inj (hleading.symm.trans hotherLeading)

theorem Front.ne_nil (hfront : Front construct front) : front ≠ [] := by
  cases hfront with
  | heading | blockquote | rule => simp
  | orderedItem hmarker => cases hmarker; simp
  | unorderedItem hmarker => cases hmarker; simp

/-- A line that starts with a tag has no form. -/
theorem body?_tag (construct : Construct) (rest : Text) : construct.body? ('<' :: rest) = none := by
  rw [Option.eq_none_iff_forall_ne_some]
  intro body hbody
  obtain ⟨_, _, front, hfront, hline⟩ := body?_eq_some_iff.mp hbody
  cases front with
  | nil => exact hfront.ne_nil rfl
  | cons c front =>
      rw [List.cons_append, List.cons.injEq] at hline
      exact hfront.tag_not_mem (hline.1 ▸ List.mem_cons_self)

/-! ### Classification -/

variable {kind : ListKind}

theorem body?_item_eq_some_iff :
    kind.construct.body? line = some body ↔
      '\n' ∉ body ∧ ∃ marker, Marker kind marker ∧ line = marker ++ body := by
  cases kind with
  | ordered => exact orderedBody?_eq_some_iff
  | unordered => exact unorderedBody?_eq_some_iff

theorem classify_eq_some_iff :
    classify line = some kind ↔ ∃ body, kind.construct.body? line = some body := by
  have hordered : (orderedBody? line).isSome ↔ ∃ body, Construct.body? .orderedItem line = some body :=
    Option.isSome_iff_exists
  have hunordered : (unorderedBody? line).isSome ↔
      ∃ body, Construct.body? .unorderedItem line = some body := Option.isSome_iff_exists
  -- an ordered item is tried first, but no line is an item of both kinds
  have hexclusive : (orderedBody? line).isSome → ¬(unorderedBody? line).isSome := by
    rw [hordered, hunordered]
    rintro ⟨_, hbody⟩ ⟨_, hother⟩
    exact absurd (eq_of_body? hbody hother) (by decide)
  cases kind with
  | ordered =>
      rw [ListKind.construct, ← hordered, classify]
      split_ifs with h₁ h₂ <;> simp [h₁]
  | unordered =>
      rw [ListKind.construct, ← hunordered, classify]
      split_ifs with h₁ h₂
      · simpa using hexclusive h₁
      · simp [h₂]
      · simp [h₂]

end Forms

end MarkupEditor.Markup
