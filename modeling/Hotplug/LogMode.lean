import Hotplug.Text.Blank
import Hotplug.Text.Case

/-!
# Modes of logging

How much is logged is chosen by a mode, and more finely by filter directives.
Both can come from environment variables.
-/

namespace Hotplug

inductive LogMode where
  | silent
  | development
  | debug
  deriving DecidableEq, Repr

inductive LogError where
  | unknownMode (name : String)
  | rejectedDirectives (directives : String)
  deriving DecidableEq, Repr

/-- The environment variables that logging heeds, where they are set. -/
structure LogEnvironment where
  mode : Option String
  level : Option String
  fallbackLevel : Option String
  deriving DecidableEq, Repr

namespace LogError

/-- The text of an error. What a filter says of directives that it rejects would
follow after them. -/
def message : LogError → String
  | unknownMode name => "Invalid environment variable: DEVHUB_LOG_MODE=" ++ name
  | rejectedDirectives directives =>
      "Invalid environment variable: " ++ directives

end LogError

namespace LogMode

/-- The mode of a name, in any case and with blanks around it. -/
def ofName (name : String) : Except LogError LogMode :=
  let plain := String.ofList
    (Text.lowered (String.ofList (Text.trim name.toList)))
  if plain = "" ∨ plain = "silent" then .ok silent
  else if plain = "development" ∨ plain = "dev" then .ok development
  else if plain = "debug" then .ok debug
  else .error (.unknownMode plain)

/-- The directives that hold when none are set. -/
def defaultDirectives : LogMode → Option String
  | silent => none
  | development => some "info"
  | debug => some "debug"

/-- Whether a directive names a target and a level in a form that can be
understood: at most one equals sign. -/
def isDirective (directive : List Char) : Bool :=
  decide (directive.count '=' ≤ 1)

/-- Start logging in a mode. The silent mode heeds no directives. -/
def start (environment : LogEnvironment) (mode : LogMode) :
    Except LogError Unit :=
  match mode.defaultDirectives with
  | none => .ok ()
  | some default =>
      let directives := (environment.level <|> environment.fallbackLevel).getD
        default
      if (directives.toList.splitOn ',').all isDirective then .ok ()
      else .error (.rejectedDirectives directives)

/-- Start logging in the mode that the environment names, or silently. -/
def startFromEnvironment (environment : LogEnvironment) :
    Except LogError Unit := do
  let mode ← match environment.mode with
    | some name => ofName name
    | none => .ok silent
  mode.start environment

end LogMode

end Hotplug
