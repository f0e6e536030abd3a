import MarkupEditor.Command
import MarkupEditor.Proofs.Document.CommandEdits
import MarkupEditor.Proofs.Markup.Marks
import MarkupEditor.Proofs.Text.Number

/-!
# What markup renders as

Commands write markup and the table of constructs reads it, each by itself. Here the two are brought
together: every command writes for one construct, and `Command.html` is what a value is meant to
become. For the commands whose markup is a front of the line this holds whatever the value is, since
the front alone decides the form of the line. For the others it holds where the markup stands between
texts without marks, with one exception: an exclamation mark in front of a link makes it an image.
-/

namespace MarkupEditor.Command

open Markup

/-- The construct that the command writes for. -/
def construct : Command → Construct
  | heading => .heading
  | bold => .bold
  | italic => .italic
  | blockquote => .blockquote
  | orderedList => .orderedItem
  | unorderedList => .unorderedItem
  | code => .code
  | horizontalRule => .rule
  | link => .link
  | image => .image

/-- The kind of list whose items the command writes. -/
def listKind? : Command → Option ListKind
  | orderedList => some .ordered
  | unorderedList => some .unordered
  | heading | bold | italic | blockquote | code | horizontalRule | link | image => none

/-- The HTML that the markup of a value is meant to be rendered as. Whole-line markup leaves the inline
markup of its value to be rendered, too. -/
def html (command : Command) (value : Text) : Text :=
  match command with
  | heading => element "h1".toList (renderInline value)
  | blockquote => element "blockquote".toList (renderInline value)
  | orderedList | unorderedList => element "li".toList (renderInline value)
  | horizontalRule => "<hr>".toList
  | bold => element "strong".toList value
  | italic => element "em".toList value
  | code => element "code".toList value
  | link => anchorHtml value "https://www.example.com".toList
  | image => imageHtml value "image.jpg".toList

/-! ### Markup in front of a line -/

section Fronts

variable {command : Command} {front line written value : Text} {counter : Nat}

theorem listKind?_eq_some_iff {kind : ListKind} :
    command.listKind? = some kind ↔ kind.construct = command.construct := by
  cases command <;> cases kind <;> decide

theorem construct_eq_rule_iff : command.construct = .rule ↔ command = horizontalRule := by
  cases command <;> decide

theorem html_eq_enclose (hfront : Front command.construct front) (value : Text) :
    command.construct ∉ inlineConstructs ∧
      command.html value = command.construct.enclose (renderInline value) := by
  cases command with
  | heading | blockquote | orderedList | unorderedList | horizontalRule =>
      exact ⟨by decide, rfl⟩
  | bold | italic | code | link | image => cases hfront

/-- A line that starts as the command's markup does is what the command writes for. -/
theorem renderLine_front (hfront : Front command.construct front) (hline : '\n' ∉ front ++ value)
    (hrule : command.construct = .rule → value = []) :
    renderLine (front ++ value) = command.html value ∧
      classify (front ++ value) = command.listKind? := by
  obtain ⟨hmem, hhtml⟩ := html_eq_enclose hfront value
  have hvalue : '\n' ∉ value := fun hmem => hline (List.mem_append_right _ hmem)
  have hbody : command.construct.body? (front ++ value) = some value :=
    body?_eq_some_iff.mpr ⟨hvalue, hrule, front, hfront, rfl⟩
  refine ⟨by rw [renderLine_of_body? hline hmem hbody, hhtml], ?_⟩
  apply Option.ext
  intro kind
  rw [classify_eq_some_iff, listKind?_eq_some_iff]
  constructor
  · rintro ⟨body, hkind⟩
    exact eq_of_body? hkind hbody
  · intro hkind
    exact ⟨value, hkind ▸ hbody⟩

theorem isDigit_of_mem_ofNat {n : Nat} {c : Char} (hc : c ∈ Text.ofNat n) :
    Character.isDigit c = true := by
  have hdigit : c.isDigit = true := Nat.isDigit_of_mem_toDigits (by decide) (by decide) hc
  obtain ⟨hzero, hnine⟩ := toNat_of_isDigit hdigit
  have hlow : ¬ c.toNat < 0x30 := by omega
  simp only [Character.isDigit, Character.digitRanges, Character.Ranges.covers, hlow, if_false]
  simp [hnine]

theorem front_ordered (n : Nat) : Front orderedList.construct (Text.ofNat n ++ ". ".toList) := by
  have hmarker : Marker .ordered ([] ++ Text.ofNat n ++ ['.', ' ']) :=
    .ordered (Or.inl rfl) Nat.toDigits_ne_nil fun _ hc => isDigit_of_mem_ofNat hc
  exact .orderedItem hmarker

theorem front_unordered : Front unorderedList.construct "- ".toList :=
  .unorderedItem (.unordered (Or.inl rfl))

/-- The rewritten lines of a block are their former text behind a front, which ends in a space. -/
theorem exists_front_of_markupLine? (hwritten : command.markupLine? line counter = some written) :
    ∃ front, Front command.construct front ∧ front.getLast? = some ' ' ∧ written = front ++ line := by
  cases command with
  | blockquote =>
      obtain rfl := Option.some.inj hwritten
      exact ⟨_, .blockquote, rfl, rfl⟩
  | orderedList =>
      obtain rfl := Option.some.inj hwritten
      exact ⟨_, front_ordered counter, by simp, rfl⟩
  | unorderedList =>
      obtain rfl := Option.some.inj hwritten
      exact ⟨_, front_unordered, rfl, rfl⟩
  | heading | bold | italic | code | horizontalRule | link | image => simp [markupLine?] at hwritten

/-- The markup of a whole line is its value behind a front, unless it is a rule. -/
theorem exists_front_of_markup (hblock : command.construct ∉ inlineConstructs) (value : Text) :
    ∃ front, Front command.construct front ∧
      command.markup value = front ++ if command = horizontalRule then [] else value := by
  cases command with
  | heading => exact ⟨_, .heading, rfl⟩
  | blockquote => exact ⟨_, .blockquote, rfl⟩
  | orderedList => exact ⟨_, front_ordered 1, rfl⟩
  | unorderedList => exact ⟨_, front_unordered, rfl⟩
  | horizontalRule => exact ⟨_, .rule, rfl⟩
  | bold | italic | code | link | image => exact absurd (by decide) hblock

/-- The markup of a whole line is rendered as it is meant, whatever the value starts with. -/
theorem renderLine_markup (hblock : command.construct ∉ inlineConstructs) (hvalue : '\n' ∉ value) :
    renderLine (command.markup value) = command.html value ∧
      classify (command.markup value) = command.listKind? := by
  obtain ⟨front, hfront, hmarkup⟩ := exists_front_of_markup hblock value
  have hline : '\n' ∉ command.markup value := newline_not_mem_markup hvalue
  rw [hmarkup] at hline ⊢
  by_cases hrule : command = horizontalRule
  · subst hrule
    exact renderLine_front hfront hline fun _ => rfl
  · rw [if_neg hrule] at hline ⊢
    apply renderLine_front hfront hline
    intro hconstruct
    exact absurd (construct_eq_rule_iff.mp hconstruct) hrule

end Fronts

/-! ### Markup within a line -/

section Inline

variable {command : Command} {front value behind : Text}

theorem orPlaceholder_of_ne_nil (hvalue : value ≠ []) (placeholder : Text) :
    orPlaceholder value placeholder = value := by
  rw [orPlaceholder, if_neg]
  rwa [List.isEmpty_iff]

theorem not_stars_infix (hvalue : '*' ∉ value) : ¬['*', '*'] <:+: value ++ ['*'] := by
  intro hinfix
  have hcount : (['*', '*'] : Text).count '*' ≤ (value ++ ['*']).count '*' :=
    hinfix.sublist.count_le '*'
  rw [List.count_append, List.count_eq_zero_of_not_mem hvalue] at hcount
  exact absurd hcount (by decide)

theorem reference_markup (hvalue : value ≠ []) (hbracket : ']' ∉ value) :
    ReferencePiece value "https://www.example.com".toList (link.markup value) := by
  refine ⟨hbracket, by decide, ?_⟩
  simp [markup, orPlaceholder_of_ne_nil hvalue]

/-- The markup of a value without marks is a piece, which is replaced by what is meant. -/
theorem piece_markup (hinline : command.construct ∈ inlineConstructs) (hvalue : value ≠ [])
    (hline : '\n' ∉ value) (hmarks : value.Disjoint inlineMarks) :
    command.construct.Piece (command.markup value) (command.html value) := by
  have hnot : ∀ mark ∈ inlineMarks, mark ∉ value := fun _ hmark hmem => hmarks hmem hmark
  cases command with
  | bold =>
      obtain ⟨c, rest, rfl⟩ := List.exists_cons_of_ne_nil hvalue
      have hstar : '*' ∉ rest := fun hmem => hnot '*' (by decide) (List.mem_cons_of_mem c hmem)
      refine ⟨c, rest, hline, not_stars_infix hstar, ?_, rfl⟩
      simp [markup, orPlaceholder]
  | italic =>
      refine Or.inr ⟨value, hvalue, hnot '_' (by decide), ?_, rfl⟩
      simp [markup, orPlaceholder_of_ne_nil hvalue]
  | code =>
      refine ⟨value, hvalue, hnot '\x60' (by decide), ?_, rfl⟩
      simp [markup, orPlaceholder_of_ne_nil hvalue]
  | link => exact ⟨value, _, reference_markup hvalue (hnot ']' (by decide)), rfl⟩
  | image =>
      refine ⟨value, _, _, ⟨hnot ']' (by decide), by decide, rfl⟩, ?_, rfl⟩
      simp [markup, orPlaceholder_of_ne_nil hvalue]
  | heading | blockquote | orderedList | unorderedList | horizontalRule =>
      exact absurd hinline (by decide)

theorem disjoint_between {first last marks : Text} (hfirst : first.Disjoint marks)
    (hvalue : value.Disjoint marks) (hlast : last.Disjoint marks) :
    (first ++ value ++ last).Disjoint marks :=
  List.disjoint_append_left.mpr ⟨List.disjoint_append_left.mpr ⟨hfirst, hvalue⟩, hlast⟩

/-- What is meant holds no marks, if the value holds none. -/
theorem disjoint_html (hinline : command.construct ∈ inlineConstructs)
    (hmarks : value.Disjoint inlineMarks) : (command.html value).Disjoint inlineMarks := by
  cases command with
  | bold | italic | code =>
      change (element _ value).Disjoint inlineMarks
      rw [element_eq_between]
      exact disjoint_between (by decide) hmarks (by decide)
  | link | image => exact disjoint_between (by decide) hmarks (by decide)
  | heading | blockquote | orderedList | unorderedList | horizontalRule =>
      exact absurd hinline (by decide)

/-- A command other than the link puts delimiters around its value that the earlier steps do not
see. -/
theorem exists_delimiters (hcommand : command ∈ [bold, italic, code, image]) :
    ∃ earlier later opening closing,
      inlineConstructs = earlier ++ command.construct :: later ∧
        (∀ value, value ≠ [] → command.markup value = opening ++ value ++ closing) ∧
          ∀ step ∈ earlier, opening.Disjoint step.marks ∧ closing.Disjoint step.marks := by
  have hmarkup {value placeholder : Text} (hvalue : value ≠ []) (opening closing : Text) :
      opening ++ orPlaceholder value placeholder ++ closing = opening ++ value ++ closing := by
    rw [orPlaceholder_of_ne_nil hvalue]
  simp only [List.mem_cons, List.not_mem_nil, or_false] at hcommand
  rcases hcommand with rfl | rfl | rfl | rfl
  · exact ⟨[], _, _, _, rfl, fun _ hvalue => hmarkup hvalue _ _, by decide⟩
  · exact ⟨[.bold], _, _, _, rfl, fun _ hvalue => hmarkup hvalue _ _, by decide⟩
  · exact ⟨[.bold, .italic], _, _, _, rfl, fun _ hvalue => hmarkup hvalue _ _, by decide⟩
  · exact ⟨[.bold, .italic, .code], _, _, _, rfl, fun _ hvalue => hmarkup hvalue _ _, by decide⟩

/-- In a plain line the markup of a part is all that is rewritten, and it becomes what is meant. -/
theorem renderLine_markup_between (hcommand : command ∈ [bold, italic, code, image])
    (hvalue : value ≠ []) (hplain : PlainLine (front ++ value ++ behind)) :
    renderLine (front ++ command.markup value ++ behind) =
      front ++ command.html value ++ behind := by
  obtain ⟨earlier, later, opening, closing, hsplit, hmarkup, hdelimiters⟩ :=
    exists_delimiters hcommand
  obtain ⟨⟨-, hmarks, -⟩, -, hline, -⟩ := hplain.parts
  have hinline : command.construct ∈ inlineConstructs := by simp [hsplit]
  have hsub : earlier ⊆ inlineConstructs := by simp [hsplit]
  have hearlier : ∀ step ∈ earlier, (command.markup value).Disjoint step.marks := by
    intro step hstep
    obtain ⟨hopening, hclosing⟩ := hdelimiters step hstep
    rw [hmarkup value hvalue]
    exact disjoint_between hopening (List.disjoint_of_subset_right step.marks_subset hmarks)
      hclosing
  exact hplain.renderLine_of_piece hsplit (piece_markup hinline hvalue hline hmarks)
    (newline_not_mem_markup hline) (hplain.rewriteAll_of_disjoint hsub hearlier)
    (disjoint_html hinline hmarks)

/-! ### Links beside an exclamation mark -/

/-- Of the marks that the steps before the link step look for, a link holds its bracket only. -/
theorem exists_link_markup (hvalue : value ≠ []) (hmarks : value.Disjoint inlineMarks) :
    ∃ rest, link.markup value = '[' :: rest ∧
      ∀ step ∈ [Construct.bold, .italic, .code, .image], rest.Disjoint step.marks := by
  have hclosing : ∀ step ∈ [Construct.bold, .italic, .code, .image],
      "](https://www.example.com)".toList.Disjoint step.marks := by
    decide
  refine ⟨value ++ "](https://www.example.com)".toList, ?_, ?_⟩
  · simp [markup, orPlaceholder_of_ne_nil hvalue]
  · intro step hstep
    rw [List.disjoint_append_left]
    exact ⟨List.disjoint_of_subset_right step.marks_subset hmarks, hclosing step hstep⟩

theorem disjoint_link_markup (hvalue : value ≠ []) (hmarks : value.Disjoint inlineMarks) :
    ∀ step ∈ [Construct.bold, .italic, .code], (link.markup value).Disjoint step.marks := by
  obtain ⟨rest, hmarkup, hrest⟩ := exists_link_markup hvalue hmarks
  have hbracket : ∀ step ∈ [Construct.bold, .italic, .code], '[' ∉ step.marks := by decide
  have hsub : [Construct.bold, .italic, .code] ⊆ [.bold, .italic, .code, .image] := by decide
  intro step hstep
  rw [hmarkup, List.disjoint_cons_left]
  exact ⟨hbracket step hstep, hrest step (hsub hstep)⟩

/-- A link is read as such unless it stands behind an exclamation mark. -/
theorem renderLine_link_between (hvalue : value ≠ [])
    (hplain : PlainLine (front ++ value ++ behind)) (hend : front.getLast? ≠ some '!') :
    renderLine (front ++ link.markup value ++ behind) = front ++ link.html value ++ behind := by
  obtain ⟨⟨hfront, hmarks, hbehind⟩, -, hline, -⟩ := hplain.parts
  have hinline : link.construct ∈ inlineConstructs := by decide
  have hmarkKept : rewriteAll [.bold, .italic, .code] (front ++ (link.markup value ++ behind)) =
      front ++ (link.markup value ++ behind) :=
    hplain.rewriteAll_of_disjoint (by decide) (disjoint_link_markup hvalue hmarks)
  have himageKept : rewriteAll [.image] (front ++ (link.markup value ++ behind)) =
      front ++ (link.markup value ++ behind) := by
    obtain ⟨rest, hmarkup, hrest⟩ := exists_link_markup hvalue hmarks
    have hbracket {text : Text} (htext : text.Disjoint inlineMarks) : '[' ∉ text :=
      fun hmem => htext hmem (by decide)
    have hlater : '[' ∉ rest ++ behind := by
      rw [List.mem_append, not_or]
      exact ⟨List.disjoint_singleton.mp (hrest .image (by decide)), hbracket hbehind⟩
    rw [hmarkup]
    exact rewrite_image_bracket (hbracket hfront) hend hlater
  have hearlier : rewriteAll [.bold, .italic, .code, .image]
      (front ++ (link.markup value ++ behind)) = front ++ (link.markup value ++ behind) := by
    change rewriteAll ([.bold, .italic, .code] ++ [.image]) _ = _
    rw [rewriteAll_append, hmarkKept, himageKept]
  exact hplain.renderLine_of_piece (by rfl) (piece_markup hinline hvalue hline hmarks)
    (newline_not_mem_markup hline) hearlier (disjoint_html hinline hmarks)

/-- An exclamation mark in front of a link belongs to an image. -/
theorem renderLine_exclamation_link (hvalue : value ≠ [])
    (hplain : PlainLine (front ++ '!' :: value ++ behind)) :
    renderLine (front ++ '!' :: link.markup value ++ behind) =
      front ++ imageHtml value "https://www.example.com".toList ++ behind := by
  obtain ⟨⟨-, hremoved, -⟩, -, hremovedLine, -⟩ := hplain.parts
  obtain ⟨-, hmarks⟩ := List.disjoint_cons_left.mp hremoved
  have hline : '\n' ∉ value := fun hmem => hremovedLine (List.mem_cons_of_mem _ hmem)
  have hpiece : Construct.image.Piece ('!' :: link.markup value)
      (imageHtml value "https://www.example.com".toList) := by
    have hbracket : ']' ∉ value := fun hmem => hmarks hmem (by decide)
    exact ⟨value, _, _, reference_markup hvalue hbracket, rfl, rfl⟩
  have hearlier : ∀ step ∈ [Construct.bold, .italic, .code],
      ('!' :: link.markup value).Disjoint step.marks := by
    have hexclamation : ∀ step ∈ [Construct.bold, .italic, .code], '!' ∉ step.marks := by decide
    intro step hstep
    rw [List.disjoint_cons_left]
    exact ⟨hexclamation step hstep, disjoint_link_markup hvalue hmarks step hstep⟩
  have hnewline : '\n' ∉ '!' :: link.markup value := by
    rw [List.mem_cons, not_or]
    exact ⟨by decide, newline_not_mem_markup hline⟩
  exact hplain.renderLine_of_piece (by rfl) hpiece hnewline
    (hplain.rewriteAll_of_disjoint (by decide) hearlier)
    (disjoint_between (by decide) hmarks (by decide))

end Inline

end MarkupEditor.Command
