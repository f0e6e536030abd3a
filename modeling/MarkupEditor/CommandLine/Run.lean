import MarkupEditor.CommandLine.Arguments
import MarkupEditor.Config
import MarkupEditor.Session

/-!
# Runs

A run loads the configuration, opens a session on the file, applies the requested command, and
either writes the file back or answers the text or HTML to print. A command that has no effect is
worth a warning, not an error. Nothing is written before everything else went well.
-/

namespace MarkupEditor.CommandLine

inductive RunError where
  | config (error : ConfigError)
  | noConfig (path : Text)
  | unreadable (path : Text) (cause : SystemError)
  | unwritable (path : Text) (cause : SystemError)
deriving DecidableEq, Repr

namespace RunError

def message : RunError → Text
  | config error => error.message
  | noConfig path => "No config file found at ".toList ++ path
  | unreadable path _ => "Failed to read ".toList ++ path
  | unwritable path _ => "Failed to write ".toList ++ path

def cause? : RunError → Option Text
  | config error => some error.cause
  | noConfig _ => none
  | unreadable _ cause | unwritable _ cause => some cause.message

def chain (error : RunError) : List Text :=
  error.message :: error.cause?.toList

end RunError

def positionText (position : Position) : Text :=
  Text.ofNat position.line ++ ':' :: Text.ofNat position.offset

def noSelectionWarning (request : Request) : Text :=
  "No actionable selection at ".toList ++ positionText request.anchor ++ "..".toList
    ++ positionText request.focus

def notEnabledWarning (request : Request) : Text :=
  request.command.name ++ " is not enabled in the editor options".toList

/-- Carries out a request, with a warning if it has no effect. -/
def edit (session : Session) (request : Request) : Session × Option Text :=
  let selected := session.select request.anchor request.focus
  if selected.selection.isNone then (selected, some (noSelectionWarning request))
  else match (Session.applyM request.command).run selected with
    | (some _, edited) => (edited, none)
    | (none, left) => (left, some (notEnabledWarning request))

variable {m : Type → Type} [Monad m] [Host m]

/-- Loads the named configuration, or else the one at the usual place, or else the default. -/
def loadConfig (path? : Option Text) : ExceptT RunError m Config := do
  match path? with
  | some path =>
    match ← (Config.loadFrom path : ExceptT ConfigError m _).run with
    | .error error => throw (.config error)
    | .ok none => throw (.noConfig path)
    | .ok (some config) => return config
  | none =>
    match ← (Config.load : ExceptT ConfigError m _).run with
    | .error error => throw (.config error)
    | .ok config? => return config?.getD {}

/-- Performs a run and answers what is to be printed, if anything. -/
def run (arguments : Arguments) : ExceptT RunError m (Option Text) := do
  let config ← loadConfig arguments.config
  match ← Host.readText (m := m) arguments.file with
  | .error error => throw (.unreadable arguments.file error)
  | .ok text =>
    let opened := Session.start text config.editor
    let (session, warning?) := match arguments.request with
      | some request => edit opened request
      | none => (opened, none)
    if let some warning := warning? then Host.warn (m := m) warning
    if arguments.inPlace then
      match ← Host.writeText (m := m) arguments.file session.text with
      | .error error => throw (.unwritable arguments.file error)
      | .ok () => return none
    else return some (if arguments.html then session.render else session.text)

end MarkupEditor.CommandLine
