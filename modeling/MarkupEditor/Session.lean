import MarkupEditor.Formatting
import MarkupEditor.Markup.Html
import MarkupEditor.Options

/-!
# Editing sessions

A session is a document, the selection captured in it, and the host's options. An operation works on
the session in place, so a refusal leaves whatever has been done to the session up to there. A
selection is used up by the edit it leads to, except that pasted text goes below it and leaves it in
place.
-/

namespace MarkupEditor

structure Session where
  document : Document
  selection : Option Selection
  options : Options
deriving DecidableEq, Repr

inductive EditError where
  /-- The edit adds so many lines. -/
  | multilineCommit (added : Nat)
  /-- The clipboard is off, and text of so many bytes was pasted. -/
  | pasteDisabled (bytes : Nat)
  | copyDisabled
  | noSelection
deriving DecidableEq, Repr

namespace EditError

def message : EditError → Text
  | multilineCommit _ => "Line breaks are not allowed by the editor options".toList
  | pasteDisabled _ | copyDisabled => "Clipboard is disabled by the editor options".toList
  | noSelection => "No selection captured".toList

/-- The warning that the host is given. Refusals that bring no text into the editor give none. -/
def warning? : EditError → Option Text
  | multilineCommit added =>
    some ("rejected edit adding ".toList ++ Text.ofNat added ++ " line(s)".toList)
  | pasteDisabled bytes =>
    some ("rejected paste of ".toList ++ Text.ofNat bytes ++ " bytes".toList)
  | copyDisabled | noSelection => none

end EditError

namespace Session

def start (text : Text) (options : Options) : Session where
  document := .ofText text
  selection := none
  options := options

def text (session : Session) : Text :=
  session.document.text

def render (session : Session) : Text :=
  Markup.render session.text

def select (session : Session) (anchor focus : Position) : Session :=
  { session with selection := session.document.select anchor focus }

def clearSelection (session : Session) : Session :=
  { session with selection := none }

/-- Does to the document of a session what is meant for a document. -/
def onDocument {α : Type} (action : StateM Document α) : StateM Session α :=
  modifyGet fun session =>
    let (result, document) := action.run session.document
    (result, { session with document })

def applyM (command : Command) : StateM Session (Option Patch) := do
  let session ← get
  if !session.options.allows command then return none
  let some patch ← onDocument (Document.formatM command session.selection) | return none
  modify clearSelection
  return some patch

/-- Puts a text in the place of all lines. -/
def replaceM (text : Text) : StateM Session Patch := do
  onDocument (modify fun doc => doc.replaceText text)
  modify clearSelection
  onDocument (modifyGet fun doc => doc.commit ⟨0, doc.lineCount⟩)

/-- Takes over the text that the host's input holds. Without leave to add lines, a text with more
lines than the document is refused. -/
def ingestM (text : Text) : StateM Session (Except EditError Patch) := do
  let session ← get
  let incoming := text.lines.length
  let present := session.document.lineCount
  if !session.options.allowMultilineCommit ∧ present < incoming then
    return .error (.multilineCommit (incoming - present))
  return .ok (← replaceM text)

/-- Inserts the lines of a text below the captured selection. -/
def pasteM (text : Text) : StateM Session (Except EditError Patch) := do
  let session ← get
  if !session.options.clipboardEnabled then return .error (.pasteDisabled text.byteLength)
  let some selection := session.selection | return .error .noSelection
  let place := min (selection.endLine + 1) session.document.lineCount
  let lines := text.lines
  onDocument (modify fun doc => doc.insertLines place lines)
  return .ok (← onDocument (modifyGet fun doc => doc.commit ⟨place, place + lines.length⟩))

/-- What a command makes of a session, if it has an effect. -/
def apply (session : Session) (command : Command) : Option (Patch × Session) :=
  let (patch?, next) := (applyM command).run session
  patch?.map fun patch => (patch, next)

def replace (session : Session) (text : Text) : Patch × Session :=
  (replaceM text).run session

/-- What taking over a text makes of a session, or why it is refused. -/
def ingest (session : Session) (text : Text) : Except EditError (Patch × Session) :=
  let (result, next) := (ingestM text).run session
  result.map fun patch => (patch, next)

/-- What pasting a text makes of a session, or why it is refused. -/
def paste (session : Session) (text : Text) : Except EditError (Patch × Session) :=
  let (result, next) := (pasteM text).run session
  result.map fun patch => (patch, next)

def copy (session : Session) : Except EditError Text :=
  if !session.options.clipboardEnabled then .error .copyDisabled
  else match session.selection with
    | none => .error .noSelection
    | some selection => .ok selection.rawText

def reset (session : Session) : Patch × Session :=
  session.replace []

end Session

inductive Operation where
  | select (anchor focus : Position)
  | clearSelection
  | apply (command : Command)
  | ingest (text : Text)
  | paste (text : Text)
  | copy
  | reset
deriving DecidableEq, Repr

inductive Reply where
  | selected (captured : Bool)
  | cleared
  | patched (patch : Patch)
  | unchanged
  | copied (text : Text)
  | refused (error : EditError)
deriving DecidableEq, Repr

namespace Reply

/-- The reply to a command. -/
def ofPatch? : Option Patch → Reply
  | some patch => patched patch
  | none => unchanged

/-- The reply to an edit that may be refused. -/
def ofEdit : Except EditError Patch → Reply
  | .ok patch => patched patch
  | .error error => refused error

end Reply

namespace Session

def performM : Operation → StateM Session Reply
  | .select anchor focus => do
    modify fun session => session.select anchor focus
    return .selected (← get).selection.isSome
  | .clearSelection => do
    modify clearSelection
    return .cleared
  | .apply command => return .ofPatch? (← applyM command)
  | .ingest text => return .ofEdit (← ingestM text)
  | .paste text => return .ofEdit (← pasteM text)
  | .copy => do
    match (← get).copy with
    | .ok text => return .copied text
    | .error error => return .refused error
  | .reset => return .patched (← replaceM [])

/-- The reply to an operation, and the session that the operation leaves. -/
def perform (session : Session) (operation : Operation) : Reply × Session :=
  (performM operation).run session

def performAll (session : Session) (operations : List Operation) : Session :=
  operations.foldl (fun session operation => (session.perform operation).2) session

end Session

end MarkupEditor
