import Storyboard.Schema.Numeral
import Storyboard.Text.LetterCase
import Storyboard.Text.UpperCase

/-!
# Settings

The tunables of a runtime. Each has a default; a variable of the environment
named `UIRUNTIME_` and the name of the setting, in any case, replaces it, and a
value given directly, its name in any case too, replaces both. Names that are no
setting are ignored.
-/
namespace Storyboard

inductive Environment where
  | development
  | testing
  | production
  deriving DecidableEq, Repr

def Environment.all : List Environment := [.development, .testing, .production]

def Environment.name : Environment → String
  | .development => "development"
  | .testing => "testing"
  | .production => "production"

/-- How secrets are stored and compared. -/
inductive Scheme where
  | bcrypt
  | plaintext
  deriving DecidableEq, Repr

def Scheme.all : List Scheme := [.bcrypt, .plaintext]

def Scheme.name : Scheme → String
  | .bcrypt => "bcrypt"
  | .plaintext => "plaintext"

/-- How many actions one chain may run. -/
structure DepthCap where
  depth : Nat
  positive : 0 < depth

structure Settings where
  environment : Environment
  debug : Bool
  logLevel : String
  /-- The largest document text, in bytes. -/
  maxDefinitionBytes : Int
  maxActionDepth : DepthCap
  /-- The label of the button a popup without buttons gets. -/
  defaultButtonText : String
  credentialScheme : Scheme
  submitTimeout : Binary64
  /-- Whether submits to one endpoint wait for each other. -/
  serializeSubmits : Bool

namespace Settings

def default : Settings where
  environment := .development
  debug := false
  logLevel := "INFO"
  maxDefinitionBytes := 2000000
  maxActionDepth := ⟨16, by decide⟩
  defaultButtonText := "OK"
  credentialScheme := .bcrypt
  submitTimeout := .ofInt 30
  serializeSubmits := false

def readCap (v : Json) : Check DepthCap :=
  match Read.wholeNumeral v with
  | .bad e => .bad e
  | .ok n => if h : 0 < n.toNat then .ok ⟨n.toNat, h⟩ else .fail .belowOne

/-- The settings a table of values gives. -/
def ofFields (o : Assoc Json) : Check Settings :=
  let read {α : Type} (name : String) (fallback : α) (reader : Json → Check α) : Check α :=
    (·.getD fallback) <$> Read.optional o (.plain name) reader
  Settings.mk
    <$> read "environment" default.environment (Read.choice Environment.all Environment.name)
    <*> read "debug" default.debug Read.flag
    <*> read "log_level" default.logLevel Read.text
    <*> read "max_definition_bytes" default.maxDefinitionBytes Read.wholeNumeral
    <*> read "max_action_depth" default.maxActionDepth readCap
    <*> read "default_popup_button_text" default.defaultButtonText Read.text
    <*> read "credential_scheme" default.credentialScheme (Read.choice Scheme.all Scheme.name)
    <*> read "submit_timeout_seconds" default.submitTimeout Read.realNumeral
    <*> read "serialize_remote_submits" default.serializeSubmits Read.flag

/-- What names of environment variables begin with, in lower case. -/
def variableStem : List Char := "uiruntime_".toList

/-- The setting a variable of the environment is for. -/
def settingOf? (key : String) : Option String :=
  let name := (Text.lower key).toList
  if variableStem.isPrefixOf name then some (String.ofList (name.drop variableStem.length))
  else none

/-- The values the environment gives. -/
def ofEnvironment (env : Assoc String) : Assoc Json :=
  Assoc.ofPairs (env.filterMap fun p => (settingOf? p.1).map fun name => (name, .str p.2))

/-- The values given directly, by names in any case. -/
def ofGiven (given : Assoc Json) : Assoc Json :=
  Assoc.ofPairs (given.map fun p => (Text.lower p.1, p.2))

/-- Settings from the environment and from values given directly. -/
def read (env : Assoc String) (given : Assoc Json) : Check Settings :=
  ofFields (Assoc.putAll (ofEnvironment env) (ofGiven given))

/-- The shape of a log line that names no time. -/
def plainLogFormat : String := "%(levelname)s:%(name)s:%(message)s"

/-- Why a name that is known among the terms of logging is no level. -/
inductive LevelFault where
  /-- The name of a format. -/
  | format
  /-- The name of the table of styles. -/
  | styles
  deriving DecidableEq, Repr

def LevelFault.message : LevelFault → String
  | .format => "Unknown level: '" ++ plainLogFormat ++ "'"
  | .styles =>
    "Level not an integer or a valid string: \x7b'%': (<class 'logging.PercentStyle'>, '" ++
      plainLogFormat ++ "'), '\x7b': (<class 'logging.StrFormatStyle'>, " ++
      "'\x7blevelname\x7d:\x7bname\x7d:\x7bmessage\x7d'), " ++
      "'$': (<class 'logging.StringTemplateStyle'>, " ++
      "'$\x7blevelname\x7d:$\x7bname\x7d:$\x7bmessage\x7d')\x7d"

/-- The number of a log level, by its name in any case; an unknown name counts as
informational. -/
def levelNumber (name : String) : Except LevelFault Nat :=
  match Text.upper name with
  | "DEBUG" => .ok 10
  | "WARNING" => .ok 30
  | "WARN" => .ok 30
  | "ERROR" => .ok 40
  | "CRITICAL" => .ok 50
  | "FATAL" => .ok 50
  | "NOTSET" => .ok 0
  | "BASIC_FORMAT" => .error .format
  | "_STYLES" => .error .styles
  | _ => .ok 20

/-- The level below which nothing is logged. -/
def logThreshold (s : Settings) : Except LevelFault Nat :=
  if s.debug then .ok 10 else levelNumber s.logLevel

/-- The level for what the network layers log. -/
def networkThreshold : Nat := 30

/-- The shape of a log line. -/
def logFormat : String := "%(asctime)s - %(name)s - %(levelname)s - %(message)s"

/-- Every setting by name, and two that follow from the environment. -/
def dump (s : Settings) : Assoc Json :=
  [("environment", .str s.environment.name),
   ("debug", .bool s.debug),
   ("log_level", .str s.logLevel),
   ("max_definition_bytes", .int s.maxDefinitionBytes),
   ("max_action_depth", .int s.maxActionDepth.depth),
   ("default_popup_button_text", .str s.defaultButtonText),
   ("credential_scheme", .str s.credentialScheme.name),
   ("submit_timeout_seconds", .float s.submitTimeout),
   ("serialize_remote_submits", .bool s.serializeSubmits),
   ("is_development", .bool (s.environment == .development)),
   ("is_testing", .bool (s.environment == .testing))]

end Settings

end Storyboard
