import Mathlib.Data.List.Basic
import MarkupEditor.Proofs.Markup.Rewriting

/-!
# Tags and their nesting

A reader of HTML takes the tags of a text one by one, from each `<` to the next `>`, and keeps a
stack of the elements that are open. The text is well nested if every closing tag finds its element
on top of the stack and the stack is empty at the end.

Two facts carry the arguments about rewritten texts. A well-nested part leaves the stack as it is,
so another well-nested part may stand in its place. And the tags of an element enclose a well-nested
part if no tag between them has its name.
-/

namespace MarkupEditor.Markup

/-- The tags of a text in their order, without the angle brackets. There is no reading if a tag is
still open where the next one starts or where the text ends. -/
def readTags : Text → Option (List Text)
  | [] => some []
  | c :: rest =>
    if c = '<' then
      if '>' ∈ rest.takeWhile (· != '<') then
        (readTags rest).map (rest.takeWhile (· != '>') :: ·)
      else none
    else readTags rest

inductive Tag where
  | opening (name : Text)
  | closing (name : Text)
  | void
deriving DecidableEq, Repr

/-- The elements that have no closing tag. -/
def voidNames : List Text := ["hr".toList, "img".toList]

/-- The kind of a tag. Its name runs to the first space. -/
def Tag.ofText : Text → Tag
  | '/' :: rest => closing (rest.takeWhile (· != ' '))
  | text =>
    let name := text.takeWhile (· != ' ')
    if name ∈ voidNames then void else opening name

/-- What a tag makes of the elements that are open, the innermost first. -/
def nest (opened : List Text) (tag : Text) : Option (List Text) :=
  match Tag.ofText tag with
  | .opening name => some (name :: opened)
  | .closing name => if opened.head? = some name then some opened.tail else none
  | .void => some opened

def nestAll (opened tags : List Text) : Option (List Text) :=
  tags.foldlM nest opened

/-- Every closing tag closes the innermost open element, and none is left open. -/
def Balanced (tags : List Text) : Prop :=
  nestAll [] tags = some []

instance (tags : List Text) : Decidable (Balanced tags) :=
  inferInstanceAs (Decidable (_ = _))

/-- The tags of the text can be read, and they are balanced. -/
def WellNested (text : Text) : Prop :=
  (readTags text).bind (nestAll []) = some []

instance (text : Text) : Decidable (WellNested text) :=
  inferInstanceAs (Decidable (_ = _))

/-! ### Reading tags -/

section Reading

variable {front inner rest text : Text} {tags : List Text} {c : Char}

theorem readTags_append_of_not_mem (hfront : '<' ∉ front) (rest : Text) :
    readTags (front ++ rest) = readTags rest := by
  induction front with
  | nil => rfl
  | cons c front ih =>
      rw [List.mem_cons, not_or] at hfront
      rw [List.cons_append, readTags, if_neg (Ne.symm hfront.1), ih hfront.2]

theorem readTags_of_not_mem (htext : '<' ∉ text) : readTags text = some [] := by
  have hread := readTags_append_of_not_mem htext []
  rwa [List.append_nil] at hread

theorem readTags_close (hopen : '<' ∉ inner) (rest : Text) :
    readTags (inner ++ '>' :: rest) = readTags rest := by
  rw [readTags_append_of_not_mem hopen, readTags, if_neg (by decide)]

theorem readTags_tag (hopen : '<' ∉ inner) (hclose : '>' ∉ inner) (rest : Text) :
    readTags ('<' :: (inner ++ '>' :: rest)) = (readTags rest).map (inner :: ·) := by
  have hmem : '>' ∈ (inner ++ '>' :: rest).takeWhile (· != '<') := by
    rw [List.takeWhile_append_of_pos (Text.forall_ne_of_not_mem hopen)]
    simp
  rw [readTags, if_pos rfl, if_pos hmem, readTags_close hopen, Text.takeWhile_ne_append hclose]

/-- A tag that is read ends before the next one starts. -/
theorem exists_of_readTags_cons (hread : readTags ('<' :: text) = some tags) :
    ∃ inner rest later, text = inner ++ '>' :: rest ∧ '<' ∉ inner ∧ '>' ∉ inner ∧
      readTags rest = some later ∧ tags = inner :: later := by
  rw [readTags, if_pos rfl] at hread
  split at hread
  · rename_i hmem
    obtain ⟨inner, middle, htake, hclose⟩ := List.eq_append_cons_of_mem hmem
    have htext : text = inner ++ '>' :: (middle ++ text.dropWhile (· != '<')) := by
      calc text
          = text.takeWhile (· != '<') ++ text.dropWhile (· != '<') :=
            List.takeWhile_append_dropWhile.symm
        _ = inner ++ '>' :: (middle ++ text.dropWhile (· != '<')) := by
            rw [htake]
            simp
    have hopen : '<' ∉ inner := by
      intro hin
      have hpass : '<' ∈ text.takeWhile (· != '<') := by simp [htake, hin]
      simpa using List.mem_takeWhile_imp hpass
    generalize middle ++ text.dropWhile (· != '<') = rest at htext
    subst htext
    rw [Text.takeWhile_ne_append hclose, readTags_close hopen] at hread
    obtain ⟨later, hlater, rfl⟩ := Option.map_eq_some_iff.mp hread
    exact ⟨inner, rest, later, rfl, hopen, hclose, hlater, rfl⟩
  · contradiction

theorem readTags_append (hfront : readTags front = some tags) (rest : Text) :
    readTags (front ++ rest) = (readTags rest).map (tags ++ ·) := by
  induction front generalizing tags with
  | nil =>
      obtain rfl : [] = tags := Option.some.inj hfront
      simp
  | cons c front ih =>
      by_cases hc : c = '<'
      · subst hc
        obtain ⟨inner, after, later, rfl, hopen, hclose, hlater, rfl⟩ :=
          exists_of_readTags_cons hfront
        have hrest := ih ((readTags_close hopen after).trans hlater)
        rw [List.append_assoc, List.cons_append, readTags_close hopen] at hrest
        rw [List.cons_append, List.append_assoc, List.cons_append, readTags_tag hopen hclose, hrest,
          Option.map_map]
        rfl
      · rw [readTags, if_neg hc] at hfront
        rw [List.cons_append, readTags, if_neg hc, ih hfront]

/-- A character that a tag does not hold stands in front of the tag or behind it. -/
theorem exists_of_append_cons_eq {after : Text} (heq : front ++ c :: rest = inner ++ '>' :: after)
    (hc : c ∉ inner) (hne : c ≠ '>') : ∃ more, front = inner ++ '>' :: more := by
  rcases List.append_eq_append_iff.mp heq with ⟨overlap, hinner, hrest⟩ | ⟨more, hfront, hrest⟩
  · cases overlap with
    | nil => exact absurd (List.cons.inj hrest).1 hne
    | cons d overlap =>
        -- the character would belong to the tag
        obtain ⟨rfl, -⟩ := List.cons.inj hrest
        exact absurd (by simp [hinner]) hc
  · cases more with
    | nil => exact absurd (List.cons.inj hrest).1.symm hne
    | cons d more =>
        obtain ⟨rfl, -⟩ := List.cons.inj hrest
        exact ⟨more, hfront⟩

/-- A character that no tag holds stands between tags. -/
theorem exists_readTags_of_append_cons (hread : readTags (front ++ c :: rest) = some tags)
    (hc : ∀ tag ∈ tags, c ∉ tag) (hne : c ≠ '>') :
    ∃ first second, readTags front = some first ∧ readTags (c :: rest) = some second ∧
      tags = first ++ second := by
  suffices hfront : ∃ first, readTags front = some first by
    obtain ⟨first, hfirst⟩ := hfront
    rw [readTags_append hfirst] at hread
    obtain ⟨second, hsecond, rfl⟩ := Option.map_eq_some_iff.mp hread
    exact ⟨first, second, hfirst, hsecond, rfl⟩
  induction front generalizing tags with
  | nil => exact ⟨[], rfl⟩
  | cons d front ih =>
      by_cases hd : d = '<'
      · subst hd
        obtain ⟨inner, after, later, heq, hopen, hclose, hlater, rfl⟩ :=
          exists_of_readTags_cons hread
        obtain ⟨hinner, hrest⟩ := List.forall_mem_cons.mp hc
        obtain ⟨more, rfl⟩ := exists_of_append_cons_eq heq hinner hne
        have hafter : readTags (inner ++ '>' :: more ++ c :: rest) = some later :=
          (congrArg readTags heq).trans ((readTags_close hopen after).trans hlater)
        obtain ⟨first, hfirst⟩ := ih hafter hrest
        rw [readTags_close hopen] at hfirst
        exact ⟨inner :: first, by rw [readTags_tag hopen hclose, hfirst]; rfl⟩
      · rw [List.cons_append, readTags, if_neg hd] at hread
        rw [readTags, if_neg hd]
        exact ih hread hc

/-- Without a `>` a text cannot close what is open in front of it. -/
theorem exists_readTags_of_append (hread : readTags (front ++ rest) = some tags)
    (hrest : '>' ∉ rest) : ∃ first, readTags front = some first := by
  induction front generalizing tags with
  | nil => exact ⟨[], rfl⟩
  | cons c front ih =>
      by_cases hc : c = '<'
      · subst hc
        obtain ⟨inner, after, later, heq, hopen, hclose, hlater, rfl⟩ :=
          exists_of_readTags_cons hread
        have hinside : ∃ more, front = inner ++ '>' :: more := by
          rcases List.append_eq_append_iff.mp heq with ⟨overlap, -, hback⟩ | ⟨more, hfront, hback⟩
          · exact absurd (by simp [hback]) hrest
          · cases more with
            | nil =>
                rw [List.nil_append] at hback
                exact absurd (hback ▸ List.mem_cons_self) hrest
            | cons d more =>
                obtain ⟨rfl, -⟩ := List.cons.inj hback
                exact ⟨more, hfront⟩
        obtain ⟨more, rfl⟩ := hinside
        have hafter : readTags (inner ++ '>' :: more ++ rest) = some later :=
          (congrArg readTags heq).trans ((readTags_close hopen after).trans hlater)
        obtain ⟨first, hfirst⟩ := ih hafter
        rw [readTags_close hopen] at hfirst
        exact ⟨inner :: first, by rw [readTags_tag hopen hclose, hfirst]; rfl⟩
      · rw [List.cons_append, readTags, if_neg hc] at hread
        rw [readTags, if_neg hc]
        exact ih hread

theorem readTags_append_inert (front : Text) (hopen : '<' ∉ rest) (hclose : '>' ∉ rest) :
    readTags (front ++ rest) = readTags front := by
  have hrest := readTags_of_not_mem hopen
  cases hfront : readTags front with
  | some tags =>
      rw [readTags_append hfront, hrest]
      simp
  | none =>
      rw [Option.eq_none_iff_forall_ne_some]
      intro tags hread
      obtain ⟨first, hfirst⟩ := exists_readTags_of_append hread hclose
      rw [hfront] at hfirst
      contradiction

end Reading

/-! ### Nesting -/

section Nesting

variable {opened below next tags inside first second : List Text} {name tag opening closing : Text}

@[simp]
theorem nestAll_nil : nestAll opened [] = some opened := by
  rfl

theorem nestAll_cons : nestAll opened (tag :: tags) = (nest opened tag).bind (nestAll · tags) := by
  rfl

theorem nestAll_append : nestAll opened (first ++ second) =
    (nestAll opened first).bind (nestAll · second) :=
  List.foldlM_append

theorem nest_of_opening (hopening : Tag.ofText tag = .opening name) :
    nest opened tag = some (name :: opened) := by
  rw [nest, hopening]

theorem nest_of_closing (hclosing : Tag.ofText tag = .closing name) :
    nest opened tag = if opened.head? = some name then some opened.tail else none := by
  rw [nest, hclosing]

/-- Elements further out do not matter for what can be closed. -/
theorem nest_append (hnest : nest opened tag = some next) (below : List Text) :
    nest (opened ++ below) tag = some (next ++ below) := by
  unfold nest at hnest ⊢
  split at hnest
  · obtain rfl := Option.some.inj hnest
    rfl
  · split at hnest
    · rename_i hhead
      obtain ⟨rest, rfl⟩ := List.head?_eq_some_iff.mp hhead
      obtain rfl := Option.some.inj hnest
      simp
    · contradiction
  · obtain rfl := Option.some.inj hnest
    rfl

theorem nestAll_append_below (hnest : nestAll opened tags = some next) (below : List Text) :
    nestAll (opened ++ below) tags = some (next ++ below) := by
  induction tags generalizing opened with
  | nil =>
      obtain rfl : opened = next := Option.some.inj hnest
      rfl
  | cons tag tags ih =>
      rw [nestAll_cons] at hnest
      obtain ⟨between, htag, hrest⟩ := Option.bind_eq_some_iff.mp hnest
      rw [nestAll_cons, nest_append htag, Option.bind_some, ih hrest]

namespace Balanced

theorem nil : Balanced [] := by
  rfl

theorem nestAll_eq (hinside : Balanced inside) (opened : List Text) :
    nestAll opened inside = some opened :=
  nestAll_append_below hinside opened

/-- Balanced tags between others make no difference to them. -/
theorem nestAll_between (hinside : Balanced inside) (first second : List Text) :
    nestAll opened (first ++ (inside ++ second)) = nestAll opened (first ++ second) := by
  simp only [nestAll_append, hinside.nestAll_eq, Option.bind_some]

theorem between_iff (hinside : Balanced inside) :
    Balanced (first ++ (inside ++ second)) ↔ Balanced (first ++ second) := by
  rw [Balanced, hinside.nestAll_between, Balanced]

theorem element (hopening : Tag.ofText opening = .opening name)
    (hclosing : Tag.ofText closing = .closing name) (hinside : Balanced inside) :
    Balanced (opening :: (inside ++ [closing])) := by
  rw [Balanced, nestAll_cons, nest_of_opening hopening, Option.bind_some, nestAll_append,
    hinside.nestAll_eq, Option.bind_some, nestAll_cons, nest_of_closing hclosing]
  simp

end Balanced

/-- No tag opens or closes an element of the name. -/
def Fresh (name : Text) (tags : List Text) : Prop :=
  ∀ tag ∈ tags, Tag.ofText tag ≠ .opening name ∧ Tag.ofText tag ≠ .closing name

/-- Tags of other names leave an open element where it is. -/
theorem exists_of_nestAll_of_fresh (hfresh : Fresh name tags) (hinside : name ∉ inside)
    (hnest : nestAll (inside ++ name :: below) tags = some next) :
    ∃ top, next = top ++ name :: below ∧ name ∉ top ∧ nestAll inside tags = some top := by
  induction tags generalizing inside with
  | nil =>
      obtain rfl := Option.some.inj hnest
      exact ⟨inside, rfl, hinside, rfl⟩
  | cons tag tags ih =>
      obtain ⟨⟨hopening, hclosing⟩, hrest⟩ := List.forall_mem_cons.mp hfresh
      rw [nestAll_cons] at hnest
      obtain ⟨between, htag, hnext⟩ := Option.bind_eq_some_iff.mp hnest
      suffices hstep : ∃ step, between = step ++ name :: below ∧ name ∉ step ∧
          nest inside tag = some step by
        obtain ⟨step, rfl, hstep, hnestStep⟩ := hstep
        obtain ⟨top, hshape, htop, hnestTop⟩ := ih hrest hstep hnext
        exact ⟨top, hshape, htop, by rw [nestAll_cons, hnestStep, Option.bind_some, hnestTop]⟩
      unfold nest at htag ⊢
      cases hkind : Tag.ofText tag with
      | opening other =>
          rw [hkind] at htag
          obtain rfl := Option.some.inj htag
          refine ⟨other :: inside, rfl, ?_, rfl⟩
          rw [List.mem_cons, not_or]
          exact ⟨fun heq => hopening (heq ▸ hkind), hinside⟩
      | closing other =>
          cases inside with
          | nil =>
              -- the element itself is on top, and the tag has another name
              have hne : name ≠ other := fun heq => hclosing (heq ▸ hkind)
              simp [hkind, hne] at htag
          | cons first inside =>
              rw [hkind] at htag
              simp only [List.cons_append, List.head?_cons, List.tail_cons,
                Option.ite_none_right_eq_some, Option.some.injEq] at htag
              obtain ⟨rfl, rfl⟩ := htag
              exact ⟨inside, rfl, fun hmem => hinside (List.mem_cons_of_mem _ hmem), by simp⟩
      | void =>
          rw [hkind] at htag
          obtain rfl := Option.some.inj htag
          exact ⟨inside, rfl, hinside, rfl⟩

/-- The tags of an element enclose balanced tags if none of those has its name. -/
theorem balanced_of_nestAll_element (hopening : Tag.ofText opening = .opening name)
    (hclosing : Tag.ofText closing = .closing name) (hfresh : Fresh name inside)
    (hnest : nestAll opened (opening :: (inside ++ closing :: second)) = some next) :
    Balanced inside ∧ nestAll opened second = some next := by
  rw [nestAll_cons, nest_of_opening hopening, Option.bind_some, nestAll_append] at hnest
  obtain ⟨between, hinside, hrest⟩ := Option.bind_eq_some_iff.mp hnest
  obtain ⟨top, rfl, htop, hbalanced⟩ :=
    exists_of_nestAll_of_fresh hfresh (List.not_mem_nil : name ∉ []) hinside
  rw [nestAll_cons, nest_of_closing hclosing] at hrest
  cases top with
  | nil =>
      simp only [List.nil_append, List.head?_cons, List.tail_cons, ↓reduceIte,
        Option.bind_some] at hrest
      exact ⟨hbalanced, hrest⟩
  | cons first top =>
      have hne : first ≠ name := fun heq => htop (heq ▸ List.mem_cons_self)
      simp [hne] at hrest

/-- Of every name there are as many closing tags as opening ones. -/
def Paired (tags : List Text) : Prop :=
  ∀ name, tags.countP (fun tag => Tag.ofText tag = .closing name) =
    tags.countP fun tag => Tag.ofText tag = .opening name

namespace Paired

theorem nil : Paired [] :=
  fun _ => rfl

theorem append (hfirst : Paired first) (hsecond : Paired second) : Paired (first ++ second) := by
  intro name
  rw [List.countP_append, List.countP_append, hfirst, hsecond]

theorem element (hopening : Tag.ofText opening = .opening name)
    (hclosing : Tag.ofText closing = .closing name) (htags : Paired (first ++ (inside ++ second))) :
    Paired (first ++ opening :: (inside ++ closing :: second)) := by
  intro other
  have hother := htags other
  simp only [List.countP_append, List.countP_cons, hopening, hclosing, reduceCtorEq, decide_false,
    Tag.opening.injEq, Tag.closing.injEq] at hother ⊢
  split <;> simp <;> omega

end Paired

theorem count_of_nest (hnest : nest opened tag = some next) (name : Text) :
    next.count name + (if Tag.ofText tag = .closing name then 1 else 0) =
      opened.count name + if Tag.ofText tag = .opening name then 1 else 0 := by
  unfold nest at hnest
  cases hkind : Tag.ofText tag with
  | opening other =>
      rw [hkind] at hnest
      obtain rfl := Option.some.inj hnest
      simp [List.count_cons]
  | closing other =>
      rw [hkind] at hnest
      simp only [Option.ite_none_right_eq_some, Option.some.injEq] at hnest
      obtain ⟨hhead, rfl⟩ := hnest
      obtain ⟨rest, rfl⟩ := List.head?_eq_some_iff.mp hhead
      simp [List.count_cons]
  | void =>
      rw [hkind] at hnest
      obtain rfl := Option.some.inj hnest
      simp

theorem count_of_nestAll (hnest : nestAll opened tags = some next) (name : Text) :
    next.count name + tags.countP (fun tag => Tag.ofText tag = .closing name) =
      opened.count name + tags.countP fun tag => Tag.ofText tag = .opening name := by
  induction tags generalizing opened with
  | nil =>
      obtain rfl : opened = next := Option.some.inj hnest
      rfl
  | cons tag tags ih =>
      rw [nestAll_cons] at hnest
      obtain ⟨between, htag, hrest⟩ := Option.bind_eq_some_iff.mp hnest
      have hstep := count_of_nest htag name
      have hlater := ih hrest
      simp only [List.countP_cons, decide_eq_true_eq]
      omega

/-- Paired tags leave nothing open, so what stands in front of other tags is balanced if all is. -/
theorem Paired.balanced_of_append (hpaired : Paired first) (hall : Balanced (first ++ second)) :
    Balanced first ∧ Balanced second := by
  rw [Balanced, nestAll_append] at hall
  obtain ⟨between, hfirst, hsecond⟩ := Option.bind_eq_some_iff.mp hall
  have hempty : between = [] := by
    rw [List.eq_nil_iff_forall_not_mem]
    intro name hmem
    have hcount := count_of_nestAll hfirst name
    rw [hpaired name, List.count_nil] at hcount
    have hpos := List.count_pos_iff.mpr hmem
    omega
  subst hempty
  exact ⟨hfirst, hsecond⟩

end Nesting

/-! ### Well-nested texts -/

section WellNested

variable {front piece html behind text more name : Text} {tags : List Text}

theorem wellNested_iff : WellNested text ↔ ∃ tags, readTags text = some tags ∧ Balanced tags :=
  Option.bind_eq_some_iff

theorem wellNested_of_not_mem (htext : '<' ∉ text) : WellNested text :=
  wellNested_iff.mpr ⟨[], readTags_of_not_mem htext, .nil⟩

/-- A well-nested part may give way to another one, unless it starts within a tag. -/
theorem wellNested_between_iff (hfront : readTags front = some tags) (hpiece : WellNested piece)
    (hhtml : WellNested html) :
    WellNested (front ++ (html ++ behind)) ↔ WellNested (front ++ (piece ++ behind)) := by
  obtain ⟨pieceTags, hpieceRead, hpieceBalanced⟩ := wellNested_iff.mp hpiece
  obtain ⟨htmlTags, hhtmlRead, hhtmlBalanced⟩ := wellNested_iff.mp hhtml
  simp only [WellNested, readTags_append hfront, readTags_append hpieceRead,
    readTags_append hhtmlRead]
  cases readTags behind with
  | none => rfl
  | some behindTags =>
      simp only [Option.map_some, Option.bind_some, hpieceBalanced.nestAll_between,
        hhtmlBalanced.nestAll_between]

theorem WellNested.append (htext : WellNested text) (hmore : WellNested more) :
    WellNested (text ++ more) := by
  have hnil : WellNested [] := wellNested_of_not_mem List.not_mem_nil
  have hfront : readTags [] = some [] := rfl
  exact (wellNested_between_iff hfront hnil htext).mpr hmore

theorem WellNested.flatMap {texts : List Text} {render : Text → Text}
    (htexts : ∀ text ∈ texts, WellNested (render text)) : WellNested (texts.flatMap render) := by
  induction texts with
  | nil => exact wellNested_of_not_mem List.not_mem_nil
  | cons text texts ih =>
      obtain ⟨htext, hrest⟩ := List.forall_mem_cons.mp htexts
      exact htext.append (ih hrest)

/-- The name is read off an opening and a closing tag as it is written. -/
structure ElementName (name : Text) : Prop where
  not_mem : '<' ∉ name ∧ '>' ∉ name
  opening : Tag.ofText name = .opening name
  closing : Tag.ofText ('/' :: name) = .closing name

instance (name : Text) : Decidable (ElementName name) :=
  decidable_of_iff (('<' ∉ name ∧ '>' ∉ name) ∧ Tag.ofText name = .opening name ∧
      Tag.ofText ('/' :: name) = .closing name)
    ⟨fun ⟨hnot, hopening, hclosing⟩ => ⟨hnot, hopening, hclosing⟩,
      fun hname => ⟨hname.not_mem, hname.opening, hname.closing⟩⟩

theorem readTags_element (hname : ElementName name) (hread : readTags text = some tags) :
    readTags (element name text) = some (name :: (tags ++ ['/' :: name])) := by
  obtain ⟨hopen, hclose⟩ := hname.not_mem
  have hshape : element name text =
      '<' :: (name ++ '>' :: (text ++ '<' :: ('/' :: name ++ '>' :: []))) := by
    simp [element]
  rw [hshape, readTags_tag hopen hclose, readTags_append hread,
    readTags_tag (by simp [hopen]) (by simp [hclose])]
  rfl

theorem WellNested.element (hname : ElementName name) (htext : WellNested text) :
    WellNested (element name text) := by
  obtain ⟨tags, hread, hbalanced⟩ := wellNested_iff.mp htext
  exact wellNested_iff.mpr
    ⟨_, readTags_element hname hread, hbalanced.element hname.opening hname.closing⟩

/-- A tag whose attributes hold a `>` is read up to there, and the rest of it as text. -/
theorem readTags_attributes {attributes : Text} (hopen : '<' ∉ attributes)
    (hclose : '>' ∈ attributes) (rest : Text) :
    readTags ('<' :: (attributes ++ rest)) =
      (readTags rest).map (attributes.takeWhile (· != '>') :: ·) := by
  obtain ⟨inner, after, rfl, hinner⟩ := List.eq_append_cons_of_mem hclose
  rw [List.mem_append, List.mem_cons, not_or, not_or] at hopen
  rw [Text.takeWhile_ne_append hinner, List.append_assoc, List.cons_append, readTags_tag hopen.1 hinner,
    readTags_append_of_not_mem hopen.2.2]

theorem ofText_image (attributes : Text) :
    Tag.ofText (("img src=\"".toList ++ attributes).takeWhile (· != '>')) = .void := by
  rfl

theorem ofText_anchor (attributes : Text) :
    Tag.ofText (("a href=\"".toList ++ attributes).takeWhile (· != '>')) = .opening "a".toList := by
  rfl

theorem wellNested_imageHtml {label target : Text} (hlabel : '<' ∉ label) (htarget : '<' ∉ target) :
    WellNested (imageHtml label target) := by
  generalize hattributes : target ++ "\" alt=\"".toList ++ label ++ "\">".toList = attributes
  have hshape : imageHtml label target = '<' :: ("img src=\"".toList ++ attributes ++ []) := by
    rw [imageHtml_eq_cons, ← hattributes, List.append_nil]
    simp only [List.append_assoc]
  have hopen : '<' ∉ "img src=\"".toList ++ attributes := by simp [← hattributes, hlabel, htarget]
  have hclose : '>' ∈ "img src=\"".toList ++ attributes := by simp [← hattributes]
  rw [wellNested_iff, hshape, readTags_attributes hopen hclose, readTags, Option.map_some]
  refine ⟨_, rfl, ?_⟩
  rw [Balanced, nestAll_cons, nest, ofText_image]
  rfl

theorem wellNested_anchorHtml {label target : Text} (hlabel : WellNested label)
    (htarget : '<' ∉ target) : WellNested (anchorHtml label target) := by
  generalize hattributes : target ++ "\">".toList = attributes
  have hshape : anchorHtml label target = '<' :: ("a href=\"".toList ++ attributes ++
      (label ++ '<' :: ("/a".toList ++ '>' :: []))) := by
    have hclosing : "</a>".toList = '<' :: ("/a".toList ++ '>' :: []) := by decide
    rw [anchorHtml_eq_cons, ← hattributes, hclosing]
    simp only [List.append_assoc]
  have hopen : '<' ∉ "a href=\"".toList ++ attributes := by simp [← hattributes, htarget]
  have hclose : '>' ∈ "a href=\"".toList ++ attributes := by simp [← hattributes]
  obtain ⟨tags, hread, hbalanced⟩ := wellNested_iff.mp hlabel
  rw [wellNested_iff, hshape, readTags_attributes hopen hclose, readTags_append hread,
    readTags_tag (by decide) (by decide), readTags, Option.map_some, Option.map_some,
    Option.map_some]
  exact ⟨_, rfl, hbalanced.element (ofText_anchor attributes) (by decide)⟩

end WellNested

end MarkupEditor.Markup
