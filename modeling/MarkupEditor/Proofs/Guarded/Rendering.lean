import MarkupEditor.Markup.Html
import MarkupEditor.Options
import MarkupEditor.Proofs.Guarded.Access

/-!
# Rendering and checking options without faults

The rendering of a document looks up the kind of each line, and that of the line above, in the list of
all kinds. The check of the options cuts off the commands in front of each command. Both go through
a list whose front is already done, and the place they have reached is the length of that front. So
all they look up is there.
-/

namespace MarkupEditor.Guarded

open Markup

/-! ### Rendering -/

/-- The kind of the line above a place. There is none above the first line. -/
def kindAbove (kinds : List (Option ListKind)) : Nat → Guarded (Option ListKind)
  | 0 => .ok none
  | place + 1 => item kinds place

/-- The line at a place, with what stands around it by the kinds of all lines. -/
def renderAt (kinds : List (Option ListKind)) (place : Nat) (line : Text) : Guarded Text := do
  let kind ← item kinds place
  let above ← kindAbove kinds place
  let below := kinds[place + 1]?.join
  let front := if 0 < place then separator above kind else []
  match kind with
  | none => return front ++ renderLine line
  | some kind =>
    let opening := if above = some kind then [] else kind.openTag
    let closing := if below = some kind then [] else kind.closeTag
    return front ++ (opening ++ renderLine line ++ closing)

def renderFrom (kinds : List (Option ListKind)) (place : Nat) : List Text → Guarded Text
  | [] => .ok []
  | line :: rest => do
    let text ← renderAt kinds place line
    let below ← renderFrom kinds (place + 1) rest
    return text ++ below

def render (source : Text) : Guarded Text :=
  renderFrom (source.lines.map classify) 0 source.lines

section Rendering

variable {kinds : List (Option ListKind)} {place : Nat} {line : Text} {above below : Option ListKind}

/-- What is rendered at a place depends on three kinds only. -/
theorem renderAt_eq (hkind : kinds[place]? = some (classify line))
    (habove : kindAbove kinds place = .ok above) (hbelow : kinds[place + 1]?.join = below) :
    renderAt kinds place line =
      .ok ((if 0 < place then separator above (classify line) else []) ++
        renderBetween above below line) := by
  simp only [renderAt, renderBetween, item_eq hkind, habove, hbelow, ok_bind, pure_eq]
  cases classify line <;> rfl

theorem getElem?_join_map_classify (front rest : List Text) (line : Text) :
    ((front ++ line :: rest).map classify)[front.length + 1]?.join = headKind rest := by
  rw [List.getElem?_map, List.getElem?_append_right (by omega), Nat.add_sub_cancel_left]
  cases rest <;> rfl

/-- The front of the document has been rendered, its last line is right above. -/
theorem renderFrom_below (front lines : List Text) (above : Text) :
    renderFrom ((front ++ above :: lines).map classify) (front.length + 1) lines =
      .ok (renderBelow (classify above) lines) := by
  induction lines generalizing front above with
  | nil => rfl
  | cons line rest ih =>
      have hfront : front ++ above :: line :: rest = (front ++ [above]) ++ line :: rest := by simp
      have hlength : (front ++ [above]).length = front.length + 1 := by simp
      have hrest := ih (front ++ [above]) line
      have hbelow := getElem?_join_map_classify (front ++ [above]) rest line
      rw [← hfront, hlength] at hrest hbelow
      have hkind : ((front ++ above :: line :: rest).map classify)[front.length + 1]? =
          some (classify line) := by
        simp
      have habove : kindAbove ((front ++ above :: line :: rest).map classify) (front.length + 1) =
          .ok (classify above) := by
        apply item_eq
        simp
      rw [renderFrom, renderAt_eq hkind habove hbelow, ok_bind, hrest, ok_bind, pure_eq,
        if_pos (Nat.succ_pos _)]
      rfl

/-- Rendering is without faults. -/
theorem render_eq (source : Text) : render source = .ok (Markup.render source) := by
  rw [render, Markup.render]
  cases source.lines with
  | nil => rfl
  | cons line rest =>
      have hkind : ((line :: rest).map classify)[0]? = some (classify line) := rfl
      have hbelow := getElem?_join_map_classify [] rest line
      have hrest := renderFrom_below [] rest line
      rw [renderFrom, renderAt_eq hkind rfl hbelow, ok_bind]
      rw [List.nil_append, List.length_nil] at hrest
      rw [hrest, ok_bind, pure_eq]
      rfl

end Rendering

/-! ### Checking options -/

/-- The first command from a place on that also stands before that place. -/
def firstRepeated (commands : List Command) (place : Nat) : List Command → Guarded (Option Command)
  | [] => .ok none
  | command :: rest => do
    let seen ← front commands place
    if seen.contains command then return some command
    firstRepeated commands (place + 1) rest

def validate (options : Options) : Guarded (Except OptionsError Unit) := do
  let commands := options.allowedCommands
  if commands.isEmpty then return .error .noCommands
  match ← firstRepeated commands 0 commands with
  | some command => return .error (.duplicateCommand command)
  | none => return .ok ()

theorem firstRepeated_eq (seen rest : List Command) :
    firstRepeated (seen ++ rest) seen.length rest = .ok (Options.firstRepeated seen rest) := by
  induction rest generalizing seen with
  | nil => rfl
  | cons command rest ih =>
      have hseen : front (seen ++ command :: rest) seen.length = .ok seen := by
        rw [front_eq (by simp), List.take_left]
      have hrest := ih (seen ++ [command])
      rw [List.append_assoc, List.singleton_append, List.length_append, List.length_singleton] at hrest
      simp only [firstRepeated, Options.firstRepeated, hseen, ok_bind, hrest, pure_eq]
      split <;> rfl

/-- Checking the options is without faults. -/
theorem validate_eq (options : Options) : validate options = .ok options.validate := by
  have hrepeated := firstRepeated_eq [] options.allowedCommands
  rw [List.nil_append, List.length_nil] at hrepeated
  simp only [validate, Options.validate, hrepeated, ok_bind, pure_eq]
  split
  · rfl
  · cases Options.firstRepeated [] options.allowedCommands <;> rfl

end MarkupEditor.Guarded
