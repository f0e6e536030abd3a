import Mathlib.Data.List.Infix
import MarkupEditor.Command
import MarkupEditor.Proofs.Text.Span

/-!
# Guarded accesses

The operations of the editor are total: a place behind the last item gives no item, a span past the
end gives what there is, and a difference below zero is zero. A machine would stop there. A guarded
access goes through only within its bounds, and anything else is a fault. What is written with
guarded accesses agrees with the operation itself exactly if no access is a fault, so the absence of
faults is an equation.
-/

namespace MarkupEditor

/-- Why an access does not go through. -/
inductive Fault where
  /-- A place that is not in the list. -/
  | place
  /-- Bytes that are out of order, go past the end, or cut a character. -/
  | span
  /-- A difference below zero. -/
  | difference
  /-- The version that follows on the largest one. -/
  | version
deriving DecidableEq, Repr

abbrev Guarded := Except Fault

/-- The text up to this byte is a number of whole characters. -/
def Text.Boundary (text : Text) (byte : Nat) : Prop :=
  ∃ front ∈ text.inits, Text.byteLength front = byte

instance (text : Text) (byte : Nat) : Decidable (text.Boundary byte) :=
  inferInstanceAs (Decidable (∃ front ∈ _, _))

namespace Guarded

section Bind

variable {α β : Type}

@[simp]
theorem pure_eq (value : α) : (pure value : Guarded α) = .ok value :=
  rfl

@[simp]
theorem ok_bind (value : α) (next : α → Guarded β) : (Except.ok value >>= next) = next value :=
  rfl

@[simp]
theorem error_bind (fault : Fault) (next : α → Guarded β) :
    (Except.error fault >>= next : Guarded β) = .error fault :=
  rfl

/-- What may be a fault goes on under the same condition. -/
@[simp]
theorem ite_bind (condition : Prop) [Decidable condition] (value : α) (fault : Fault)
    (next : α → Guarded β) :
    ((if condition then .ok value else .error fault : Guarded α) >>= next) =
      if condition then next value else .error fault := by
  split <;> rfl

end Bind

/-! ### Lists -/

section Lists

variable {α : Type} {items : List α} {first last place count : Nat}

def item (items : List α) (place : Nat) : Guarded α :=
  match items[place]? with
  | some item => .ok item
  | none => .error .place

/-- The items from one place to another, none if the second is right before the first. -/
def segment (items : List α) (first last : Nat) : Guarded (List α) :=
  if first ≤ last + 1 ∧ last < items.length then .ok ((items.take (last + 1)).drop first)
  else .error .place

def front (items : List α) (count : Nat) : Guarded (List α) :=
  if count ≤ items.length then .ok (items.take count) else .error .place

/-- A place that was reckoned, which must not lie behind the end of so many items. So a sum of places
stays below a number that the machine holds. -/
def upTo (count place : Nat) : Guarded Nat :=
  if place ≤ count then .ok place else .error .place

def difference (whole part : Nat) : Guarded Nat :=
  if part ≤ whole then .ok (whole - part) else .error .difference

theorem item_eq {value : α} (hitem : items[place]? = some value) : item items place = .ok value := by
  rw [item, hitem]

theorem segment_eq (hfirst : first ≤ last + 1) (hlast : last < items.length) :
    segment items first last = .ok ((items.take (last + 1)).drop first) :=
  if_pos ⟨hfirst, hlast⟩

theorem front_eq (hcount : count ≤ items.length) : front items count = .ok (items.take count) :=
  if_pos hcount

theorem upTo_eq (hplace : place ≤ count) : upTo count place = .ok place :=
  if_pos hplace

theorem difference_eq {whole part : Nat} (hle : part ≤ whole) :
    difference whole part = .ok (whole - part) :=
  if_pos hle

end Lists

/-! ### Spans of bytes -/

section Spans

variable (text : Text)

/-- The characters between two bytes. -/
def cut (text : Text) (first last : Nat) : Guarded Text :=
  if first ≤ last ∧ last ≤ text.byteLength ∧ text.Boundary first ∧ text.Boundary last then
    .ok (Text.takeBytes (last - first) (Text.dropBytes first text))
  else .error .span

def slice (text : Text) (start stop : Nat) : Guarded Text :=
  let span := text.byteSpan start stop
  cut text span.1 span.2

/-- Besides the cuts this reckons the number of bytes that stay. -/
def splice (text : Text) (start stop : Nat) (value : Text) : Guarded Text := do
  let span := text.byteSpan start stop
  let removed ← difference span.2 span.1
  let _kept ← difference text.byteLength removed
  let front ← cut text 0 span.1
  let behind ← cut text span.2 text.byteLength
  return front ++ value ++ behind

theorem boundary_byteIndex (offset : Nat) : text.Boundary (text.byteIndex offset) := by
  refine ⟨text.take offset, (List.mem_inits _ _).mpr (List.take_prefix offset text), ?_⟩
  rw [Text.byteIndex_eq]

theorem boundary_zero : text.Boundary 0 :=
  ⟨[], (List.mem_inits _ _).mpr List.nil_prefix, rfl⟩

theorem boundary_byteLength : text.Boundary text.byteLength :=
  ⟨text, (List.mem_inits _ _).mpr (List.prefix_refl text), rfl⟩

/-- Both ends of a span are boundaries in order, whatever its offsets are. -/
theorem slice_eq (start stop : Nat) : slice text start stop = .ok (text.slice start stop) := by
  have hspan := Text.byteSpan_eq text start stop
  apply if_pos
  rw [hspan]
  exact ⟨Text.byteIndex_le_byteIndex text (Nat.le_max_left start stop),
    Text.byteIndex_le_byteLength text _, boundary_byteIndex text _, boundary_byteIndex text _⟩

theorem cut_front (offset : Nat) :
    cut text 0 (text.byteIndex offset) = .ok (Text.takeBytes (text.byteIndex offset) text) := by
  rw [cut, if_pos ⟨Nat.zero_le _, Text.byteIndex_le_byteLength text offset, boundary_zero text,
    boundary_byteIndex text offset⟩, Nat.sub_zero, Text.dropBytes_zero]

theorem cut_behind (offset : Nat) :
    cut text (text.byteIndex offset) text.byteLength =
      .ok (Text.dropBytes (text.byteIndex offset) text) := by
  have hlength : text.byteLength - text.byteIndex offset =
      Text.byteLength (text.drop offset) := by
    have hparts := Text.byteLength_append (text.take offset) (text.drop offset)
    rw [List.take_append_drop] at hparts
    rw [Text.byteIndex_eq]
    omega
  have htake := Text.takeBytes_append (text.drop offset) []
  rw [List.append_nil] at htake
  rw [cut, if_pos ⟨Text.byteIndex_le_byteLength text offset, Nat.le_refl _,
    boundary_byteIndex text offset, boundary_byteLength text⟩, hlength, Text.dropBytes_byteIndex,
    htake]

theorem splice_eq (start stop : Nat) (value : Text) :
    splice text start stop value = .ok (text.splice start stop value) := by
  have hle := Text.byteIndex_le_byteIndex text (Nat.le_max_left start stop)
  have hlength := Text.byteIndex_le_byteLength text (max start stop)
  have hkept : text.byteIndex (max start stop) - text.byteIndex start ≤ text.byteLength := by omega
  simp only [splice, Text.splice, Text.byteSpan_eq, difference_eq hle, difference_eq hkept,
    cut_front, cut_behind, ok_bind, pure_eq]

/-- A cut in the middle of a character is a fault. -/
example : cut ['é', 'a'] 1 3 = .error .span := by
  decide

end Spans

/-! ### The table of commands -/

/-- A row of the table: what a command does to a text and to the lines of a block. -/
structure Row where
  markup : Text → Text
  markupLine? : Text → Nat → Option Text
  padsBlock : Bool
  replacesLine : Bool

def Row.of (command : Command) : Row where
  markup := command.markup
  markupLine? := command.markupLine?
  padsBlock := command.padsBlock
  replacesLine := command.replacesLine

/-- The rows in the order in which the commands are listed. -/
def rows : List Row :=
  Command.all.map Row.of

/-- The row at the place that a command has among the constructors. -/
def row (command : Command) : Guarded Row :=
  item rows command.ctorIdx

/-- Every command has a row, and it is its own. -/
@[simp]
theorem row_eq (command : Command) : row command = .ok (.of command) := by
  cases command <;> rfl

end Guarded

end MarkupEditor
