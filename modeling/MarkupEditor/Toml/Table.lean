import MarkupEditor.Setting

/-!
# Building TOML tables

A TOML document defines its tables piece by piece: by headers, by dotted keys, by inline tables, and
by arrays of tables that grow with each header. Every key may be defined once, and a table may be
added to only in the way it came about:

* a header opens a new table or one that so far was only implied by longer headers;
* a dotted key goes through tables made by dotted keys or implied by headers, and defines a value
  only in a table of its own kind;
* an inline table or array is complete when it is written.
-/

namespace MarkupEditor.Toml

inductive Origin where
  /-- By its own header, or as the document itself. -/
  | header
  /-- By the header of a table inside it. -/
  | implied
  | dotted
deriving DecidableEq, Repr

/-- What a key is bound to while the document is read. -/
inductive Node where
  | value (setting : Setting)
  | table (origin : Origin) (entries : List (Text × Node))
  | array (elements : List Node)

/-- The bindings of a table in the order of definition. -/
abbrev Entries := List (Text × Node)

namespace Entries

def put (key : Text) (node : Node) : Entries → Entries
  | [] => []
  | (name, old) :: rest =>
    if name = key then (name, node) :: rest else (name, old) :: put key node rest

end Entries

def changeLast {α : Type} (change : α → Option α) : List α → Option (List α)
  | [] => none
  | [last] => (change last).map ([·])
  | first :: rest => (changeLast change rest).map (first :: ·)

/-- Changes the table at the end of a path. Tables missing on the way are made with the given
origin. An array of tables stands for its last element. A path of dotted keys does not lead through
a table with a header. -/
def descend (origin : Origin) (change : Origin → Entries → Option Entries) :
    List Text → Origin → Entries → Option Entries
  | [], here, entries => change here entries
  | key :: path, _, entries =>
    let enter (there : Origin) (inner : Entries) : Option Node :=
      (descend origin change path there inner).map (Node.table there)
    match entries.lookup key with
    | none => (enter origin []).map fun node => entries ++ [(key, node)]
    | some (.value _) => none
    | some (.table there inner) =>
      if origin = .dotted ∧ there = .header then none
      else (enter there inner).map fun node => entries.put key node
    | some (.array elements) =>
      (changeLast (fun
        | .table there inner => enter there inner
        | _ => none) elements).map fun elements => entries.put key (.array elements)

def bind (key : Text) (node : Node) (entries : Entries) : Option Entries :=
  match entries.lookup key with
  | none => some (entries ++ [(key, node)])
  | some _ => none

/-- Binds a dotted key to a value, inside a table with a header. -/
def assign (path : List Text) (key : Text) (setting : Setting) (entries : Entries) :
    Option Entries :=
  descend .dotted (fun here inner =>
    if decide (here = .dotted) = path.isEmpty then none else bind key (.value setting) inner)
    path .header entries

def openTable (path : List Text) (key : Text) (entries : Entries) : Option Entries :=
  descend .implied (fun _ inner =>
    match inner.lookup key with
    | none => some (inner ++ [(key, .table .header [])])
    | some (.table .implied own) => some (inner.put key (.table .header own))
    | some _ => none) path .header entries

def openElement (path : List Text) (key : Text) (entries : Entries) : Option Entries :=
  descend .implied (fun _ inner =>
    match inner.lookup key with
    | none => some (inner ++ [(key, .array [.table .header []])])
    | some (.array elements) => some (inner.put key (.array (elements ++ [.table .header []])))
    | some _ => none) path .header entries

/-- Binds a dotted key to a value inside the table that the latest header opened. -/
def assignUnder (header : List Text) (path : List Text) (key : Text) (setting : Setting)
    (entries : Entries) : Option Entries :=
  descend .implied (fun _ inner => assign path key setting inner) header .header entries

mutual

def Node.toSetting : Node → Setting
  | .value setting => setting
  | .table _ entries => .table (entriesToSettings entries)
  | .array elements => .list (nodesToSettings elements)

def entriesToSettings : List (Text × Node) → List (Text × Setting)
  | [] => []
  | (key, node) :: rest => (key, node.toSetting) :: entriesToSettings rest

def nodesToSettings : List Node → List Setting
  | [] => []
  | node :: rest => node.toSetting :: nodesToSettings rest

end

end MarkupEditor.Toml
