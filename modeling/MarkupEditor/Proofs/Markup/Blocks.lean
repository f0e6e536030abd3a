import Mathlib.Data.List.Chain
import MarkupEditor.Markup.Html
import MarkupEditor.Proofs.Text.Lines

/-!
# Blocks of a document

The rendering decides at each line, from the kinds of the lines around it, whether a list starts,
goes on or ends. What it amounts to is said here without neighbours: the lines fall into blocks, a
maximal run of items of one kind or a line that is no item, and the rendering is the blocks joined
by line feeds.

The argument carries one piece of state through the lines, the kind of the run that is still open
above. `Block.resume` is the HTML of a block under that state: a run that is already open is
continued without its opening tag.
-/

namespace MarkupEditor.Markup

/-- A line that is no item, or a run of items of one kind. -/
inductive Block where
  | line (text : Text)
  | run (kind : ListKind) (items : List Text)
deriving DecidableEq, Repr

namespace Block

def lines : Block → List Text
  | line text => [text]
  | run _ items => items

def kind? : Block → Option ListKind
  | line _ => none
  | run kind _ => some kind

/-- A block has a line, and all its lines are of its kind. -/
structure Uniform (block : Block) : Prop where
  lines_ne_nil : block.lines ≠ []
  classify_eq : ∀ text ∈ block.lines, classify text = block.kind?

/-- Two neighbouring blocks are not two halves of one run. -/
def Separate (above below : Block) : Prop :=
  above.kind? = none ∨ above.kind? ≠ below.kind?

/-- The HTML of a block. A run is opened once and closed once, with nothing between its items. -/
def html : Block → Text
  | line text => renderLine text
  | run kind items => kind.openTag ++ items.flatMap renderLine ++ kind.closeTag

def resume (above : Option ListKind) : Block → Text
  | line text => renderLine text
  | run kind items =>
    (if above = some kind then [] else kind.openTag) ++ items.flatMap renderLine ++ kind.closeTag

def single (text : Text) : Block :=
  match classify text with
  | none => line text
  | some kind => run kind [text]

/-- Puts a line above some blocks. It joins the first of them if that is a run of its kind. -/
def prepend (text : Text) : List Block → List Block
  | run kind items :: below =>
    if classify text = some kind then run kind (text :: items) :: below
    else single text :: run kind items :: below
  | below => single text :: below

end Block

def blocks (lines : List Text) : List Block :=
  lines.foldr Block.prepend []

/-- The blocks make up the lines, and no block could take in a line of its neighbour. -/
structure IsPartition (lines : List Text) (blocks : List Block) : Prop where
  flatMap_lines : blocks.flatMap Block.lines = lines
  uniform : ∀ block ∈ blocks, block.Uniform
  maximal : blocks.IsChain Block.Separate

namespace Block

@[simp]
theorem kind?_single (text : Text) : (single text).kind? = classify text := by
  unfold single
  cases hkind : classify text <;> rfl

@[simp]
theorem lines_single (text : Text) : (single text).lines = [text] := by
  unfold single
  cases classify text <;> rfl

theorem uniform_single (text : Text) : (single text).Uniform := by
  constructor
  · simp
  · intro other hmem
    rw [lines_single, List.mem_singleton] at hmem
    rw [hmem, kind?_single]

theorem eq_single {block : Block} {text : Text} (hblock : block.Uniform)
    (hlines : block.lines = [text]) : block = single text := by
  have hkind : classify text = block.kind? := hblock.classify_eq text (by simp [hlines])
  cases block with
  | line other =>
      obtain rfl : other = text := by simpa [lines] using hlines
      simp [single, hkind, kind?]
  | run kind items =>
      obtain rfl : items = [text] := hlines
      simp [single, hkind, kind?]

/-- A line either joins the run below it or becomes a block that is separate from what is below. -/
theorem prepend_cases (text : Text) (below : List Block) :
    (∃ kind items rest, below = run kind items :: rest ∧ classify text = some kind ∧
      prepend text below = run kind (text :: items) :: rest) ∨
    ((∀ block ∈ below.head?, (single text).Separate block) ∧
      prepend text below = single text :: below) := by
  cases below with
  | nil => exact Or.inr ⟨by simp, rfl⟩
  | cons first rest =>
      cases first with
      | line other =>
          refine Or.inr ⟨?_, rfl⟩
          intro block hblock
          obtain rfl : line other = block := by simpa using hblock
          rw [Separate, kind?_single]
          cases classify text with
          | none => exact Or.inl rfl
          | some kind => exact Or.inr (by simp [kind?])
      | run kind items =>
          by_cases hkind : classify text = some kind
          · exact Or.inl ⟨kind, items, rest, rfl, hkind, by simp [prepend, hkind]⟩
          · refine Or.inr ⟨?_, by simp [prepend, hkind]⟩
            intro block hblock
            obtain rfl : run kind items = block := by simpa using hblock
            rw [Separate, kind?_single]
            exact Or.inr hkind

end Block

/-! ### The partition is the only one -/

section Partition

variable {text : Text} {lines : List Text} {bs : List Block}

theorem IsPartition.prepend (hbs : IsPartition lines bs) :
    IsPartition (text :: lines) (Block.prepend text bs) := by
  rcases Block.prepend_cases text bs with ⟨kind, items, rest, rfl, hkind, heq⟩ | ⟨hfirst, heq⟩
  · obtain ⟨hlines, huniform, hmaximal⟩ := hbs
    rw [heq]
    refine ⟨?_, ?_, ?_⟩
    · rw [List.flatMap_cons] at hlines ⊢
      rw [← hlines]
      rfl
    · intro block hblock
      rcases List.mem_cons.mp hblock with rfl | hrest
      · have hrun := huniform _ (List.mem_cons_self)
        refine ⟨by simp [Block.lines], ?_⟩
        intro item hitem
        rcases List.mem_cons.mp hitem with rfl | hitems
        · exact hkind
        · exact hrun.classify_eq item hitems
      · exact huniform block (List.mem_cons_of_mem _ hrest)
    · rw [List.isChain_cons] at hmaximal ⊢
      exact hmaximal
  · rw [heq]
    refine ⟨?_, ?_, ?_⟩
    · rw [List.flatMap_cons, Block.lines_single, hbs.flatMap_lines]
      rfl
    · intro block hblock
      rcases List.mem_cons.mp hblock with rfl | hrest
      · exact Block.uniform_single text
      · exact hbs.uniform block hrest
    · exact List.isChain_cons.mpr ⟨hfirst, hbs.maximal⟩

theorem isPartition_blocks (lines : List Text) : IsPartition lines (blocks lines) := by
  induction lines with
  | nil => exact ⟨rfl, by simp [blocks], by simp [blocks]⟩
  | cons text lines ih => exact ih.prepend

theorem IsPartition.prepend_of_single {rest : List Block}
    (hbs : IsPartition (text :: lines) (Block.single text :: rest)) :
    IsPartition lines rest ∧ Block.single text :: rest = Block.prepend text rest := by
  obtain ⟨hlines, huniform, hmaximal⟩ := hbs
  obtain ⟨hseparate, hchain⟩ := List.isChain_cons.mp hmaximal
  rw [List.flatMap_cons, Block.lines_single, List.singleton_append, List.cons.injEq] at hlines
  refine ⟨⟨hlines.2, fun block hblock => huniform block (List.mem_cons_of_mem _ hblock), hchain⟩, ?_⟩
  rcases Block.prepend_cases text rest with ⟨kind, items, later, rfl, hkind, _⟩ | ⟨_, heq⟩
  · have hclash := hseparate (.run kind items) rfl
    rw [Block.Separate, Block.kind?_single, hkind] at hclash
    simp [Block.kind?] at hclash
  · exact heq.symm

theorem IsPartition.prepend_of_run {kind : ListKind} {items : List Text} {rest : List Block}
    (hitems : items ≠ [])
    (hbs : IsPartition (text :: lines) (.run kind (text :: items) :: rest)) :
    IsPartition lines (.run kind items :: rest) ∧
      .run kind (text :: items) :: rest = Block.prepend text (.run kind items :: rest) := by
  obtain ⟨hlines, huniform, hmaximal⟩ := hbs
  have hrun : ∀ item ∈ text :: items, classify item = some kind :=
    (huniform _ List.mem_cons_self).classify_eq
  rw [List.flatMap_cons, Block.lines, List.cons_append, List.cons.injEq] at hlines
  refine ⟨⟨hlines.2, ?_, ?_⟩, ?_⟩
  · intro block hblock
    rcases List.mem_cons.mp hblock with rfl | hrest
    · exact ⟨hitems, fun item hitem => hrun item (List.mem_cons_of_mem _ hitem)⟩
    · exact huniform block (List.mem_cons_of_mem _ hrest)
  · rw [List.isChain_cons] at hmaximal ⊢
    exact hmaximal
  · rw [Block.prepend, if_pos (hrun text List.mem_cons_self)]

theorem IsPartition.exists_prepend (hbs : IsPartition (text :: lines) bs) :
    ∃ below, IsPartition lines below ∧ bs = Block.prepend text below := by
  cases bs with
  | nil => simpa using hbs.flatMap_lines
  | cons first rest =>
      have hfirst := hbs.uniform first List.mem_cons_self
      have hlines := hbs.flatMap_lines
      rw [List.flatMap_cons] at hlines
      cases hmore : first.lines with
      | nil => exact absurd hmore hfirst.lines_ne_nil
      | cons other more =>
          rw [hmore, List.cons_append, List.cons.injEq] at hlines
          obtain ⟨rfl, _⟩ := hlines
          by_cases hnil : more = []
          · obtain rfl : first = Block.single other := Block.eq_single hfirst (by rw [hmore, hnil])
            exact ⟨rest, hbs.prepend_of_single⟩
          · cases first with
            | line _ =>
                rw [Block.lines, List.cons.injEq] at hmore
                exact absurd hmore.2.symm hnil
            | run kind items =>
                obtain rfl : items = other :: more := hmore
                exact ⟨_, hbs.prepend_of_run hnil⟩

theorem IsPartition.eq_blocks (hbs : IsPartition lines bs) : bs = blocks lines := by
  induction lines generalizing bs with
  | nil =>
      cases bs with
      | nil => rfl
      | cons first rest =>
          have hfirst := hbs.uniform first List.mem_cons_self
          have hnil : first.lines = [] := by
            have hlines := hbs.flatMap_lines
            rw [List.flatMap_cons] at hlines
            exact (List.append_eq_nil_iff.mp hlines).1
          exact absurd hnil hfirst.lines_ne_nil
  | cons text lines ih =>
      obtain ⟨below, hbelow, rfl⟩ := hbs.exists_prepend
      rw [ih hbelow]
      rfl

end Partition

/-! ### The rendering is the blocks joined -/

section Rendering

variable {above kind below : Option ListKind} {text : Text}

theorem Block.resume_of_separate {block : Block} (hkind : above = none ∨ above ≠ block.kind?) :
    block.resume above = block.html := by
  cases block with
  | line text => rfl
  | run kind items =>
      have hne : above ≠ some kind := by
        rcases hkind with rfl | hne
        · simp
        · exact hne
      rw [Block.resume, if_neg hne, Block.html]

theorem separator_of_separate (hkind : above = none ∨ above ≠ kind) :
    separator above kind = ['\n'] := by
  rw [separator, if_pos]
  rcases hkind with rfl | hne
  · cases kind <;> simp
  · exact Or.inr hne

theorem separator_of_eq {kind : ListKind} : separator (some kind) (some kind) = [] := by
  simp [separator]

theorem renderBetween_of_separate (hkind : classify text = none ∨ classify text ≠ below) :
    renderBetween above below text = (Block.single text).resume above := by
  cases hclassify : classify text with
  | none => simp [renderBetween, Block.single, Block.resume, hclassify]
  | some kind =>
      have hne : below ≠ some kind := by
        rcases hkind with hnone | hne
        · simp [hclassify] at hnone
        · exact fun heq => hne (hclassify.trans heq.symm)
      simp [renderBetween, Block.single, Block.resume, hclassify, hne]

theorem renderBetween_of_eq {kind : ListKind} (hkind : classify text = some kind) :
    renderBetween above (some kind) text =
      (if above = some kind then [] else kind.openTag) ++ renderLine text := by
  simp [renderBetween, hkind]

/-- From a line on, the rendering under an open run is the first block continued and the blocks
below it, each on a new line. -/
theorem renderBetween_append_renderBelow (above : Option ListKind) (text : Text)
    (lines : List Text) :
    ∃ block rest, blocks (text :: lines) = block :: rest ∧ block.kind? = classify text ∧
      renderBetween above (headKind lines) text ++ renderBelow (classify text) lines =
        block.resume above ++ rest.flatMap fun later => '\n' :: later.html := by
  induction lines generalizing above text with
  | nil =>
      refine ⟨Block.single text, [], rfl, Block.kind?_single text, ?_⟩
      have hlast : renderBetween above (headKind []) text = (Block.single text).resume above :=
        renderBetween_of_separate (em _)
      rw [hlast]
      simp [renderBelow]
  | cons next lines ih =>
      obtain ⟨block, rest, hblocks, hkind, hhtml⟩ := ih (classify text) next
      have hprepend : blocks (text :: next :: lines) = Block.prepend text (block :: rest) := by
        rw [← hblocks]
        rfl
      have hhead : headKind (next :: lines) = classify next := rfl
      rw [hprepend, hhead, renderBelow, List.append_assoc (separator _ _), hhtml]
      rcases Block.prepend_cases text (block :: rest) with
        ⟨kind, items, later, hcons, hclassify, heq⟩ | ⟨hseparate, heq⟩
      · obtain ⟨rfl, rfl⟩ := List.cons.inj hcons
        have hnext : classify next = some kind := hkind.symm
        refine ⟨_, _, heq, hclassify.symm, ?_⟩
        rw [hnext, hclassify, separator_of_eq, renderBetween_of_eq hclassify]
        simp [Block.resume]
      · have hne : classify text = none ∨ classify text ≠ classify next := by
          have hfirst := hseparate block rfl
          rwa [Block.Separate, Block.kind?_single, hkind] at hfirst
        refine ⟨_, _, heq, Block.kind?_single text, ?_⟩
        have hclosed : block.resume (classify text) = block.html :=
          Block.resume_of_separate (hkind.symm ▸ hne)
        rw [renderBetween_of_separate hne, separator_of_separate hne, hclosed]
        simp

theorem renderLines_eq_unlines_blocks (lines : List Text) :
    renderLines lines = Text.unlines ((blocks lines).map Block.html) := by
  cases lines with
  | nil => rfl
  | cons text lines =>
      obtain ⟨block, rest, hblocks, _, hhtml⟩ := renderBetween_append_renderBelow none text lines
      rw [renderLines, hhtml, hblocks, List.map_cons, Text.unlines_cons, List.flatMap_map,
        Block.resume_of_separate (Or.inl rfl)]

/-- **Grouping into runs.** The lines of a source fall into blocks in exactly one way, and the
rendering of the source is the HTML of these blocks joined by line feeds. -/
theorem render_eq_unlines_blocks (source : Text) :
    IsPartition source.lines (blocks source.lines) ∧
    (∀ other, IsPartition source.lines other → other = blocks source.lines) ∧
    render source = Text.unlines ((blocks source.lines).map Block.html) :=
  ⟨isPartition_blocks source.lines, fun _ hother => hother.eq_blocks,
    renderLines_eq_unlines_blocks source.lines⟩

end Rendering

end MarkupEditor.Markup
