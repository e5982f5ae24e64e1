import Storyboard.App.Dispatch
import Storyboard.App.Network

/-!
# The command line

Two commands. `validate` lists the errors and warnings of a document; `run` replays
actions against an app and prints the state it ends in. Arguments, environment and
files are values here, and what is printed is a value too. The library of hashes and
the other side of remote submits are parameters.
-/
namespace Storyboard.CommandLine

/-- What a command line reads. -/
structure World where
  environment : Assoc String
  /-- The text of a file, if there is one. -/
  file? : String → Option String
  supply : Supply
  hasher : Hasher
  submitter : Submitter

/-- What stops a command without an exit code. -/
inductive Stop where
  | settings (issues : List Issue)
  | logging (fault : Settings.LevelFault)
  | breakdown (b : Breakdown)
  | tooDeepToRead
  | tag (fault : TagFault)
  | patch (fault : Form.PatchFault)
  | tooDeepToCopy
  /-- The session is nested too deeply to be dumped. -/
  | deepSession
  /-- An action behind a button of a popup is nested too deeply to be dumped. -/
  | deepEffect

/-- The wording for an action that cannot be dumped. Dumping tries the action once more
after it failed, and then meets what it was dumping before. -/
def metAgainMessage : String := "Circular reference detected (id repeated)"

/-- What a command printed, and how it ended. -/
structure Output where
  ending : Except Stop Nat
  out : String
  err : String
  notices : List Notice

/-- A line of text. -/
def line (s : String) : String := s ++ "\n"

def lines (ls : List String) : String := String.join (ls.map line)

/-- An exit with what was printed. -/
def exit (code : Nat) (out err : List String) : Output := ⟨.ok code, lines out, lines err, []⟩

def stop (s : Stop) : Output := ⟨.error s, "", "", []⟩

/-- The output with notices given before. -/
def Output.after (notices : List Notice) (o : Output) : Output :=
  { o with notices := notices ++ o.notices }

def help : List String :=
  ["UI-JSON Runtime CLI - Validate and replay UI-JSON apps",
   "",
   "Usage:",
   "  uiruntime <command> [options]",
   "",
   "Commands:",
   "  validate    Validate an Application Definition file",
   "  run         Replay a list of actions and print the resulting state",
   "  help        Show this help message",
   "",
   "Examples:",
   "  uiruntime validate app.json",
   "  uiruntime run app.json --data db.json --actions actions.json"]

/-- Every kind of line break as one line feed. -/
def unifyBreaks : List Char → List Char
  | '\r' :: '\n' :: rest => '\n' :: unifyBreaks rest
  | '\r' :: rest => '\n' :: unifyBreaks rest
  | c :: rest => c :: unifyBreaks rest
  | [] => []

/-- The text of a file, or the line that says that there is none. -/
def readText (world : World) (path : String) : Except String String :=
  match world.file? path with
  | some s => .ok (String.ofList (unifyBreaks s.toList))
  | none => .error ("Error: File not found: " ++ path)

/-- What became of reading a file as JSON. -/
inductive Loaded where
  | value (v : Json)
  | missing (complaint : String)
  | stopped (s : Stop)

def placeText (place : Json.Place) : String :=
  "line " ++ toString place.line ++ " column " ++ toString place.column ++ " (char " ++
    toString place.offset ++ ")"

def readJson (world : World) (path label : String) : Loaded :=
  match readText world path with
  | .error complaint => .missing complaint
  | .ok s =>
    match Json.read textBounds s with
    | .ok v => .value v
    | .error (.malformed fault rest) =>
      .missing ("Error: Invalid JSON in " ++ label ++ " file: " ++ fault.message ++ ": " ++
        placeText (Json.placeOf s rest))
    | .error .tooDeep => .stopped .tooDeepToRead
    | .error (.tooManyDigits count) => .stopped (.breakdown (.tooManyDigits count))
    | .error .unpaired => .stopped (.breakdown .unpaired)

def errorLine (issue : Issue) : String := "error: " ++ issue.text

def warningLine (issue : Issue) : String := "warning: " ++ issue.text

/-- Validates a file and lists what was found. -/
def validate (world : World) (settings : Settings) : List String → Output
  | [] =>
    exit 1 [] ["Error: No definition file specified", "Usage: uiruntime validate <file>"]
  | path :: _ =>
    match readText world path with
    | .error complaint => exit 1 [] [complaint]
    | .ok s =>
      match Validation.ofSource settings.maxDefinitionBytes (.text s) with
      | .error b => stop (.breakdown b)
      | .ok v =>
        let found := v.errors.map errorLine ++ v.warnings.map warningLine
        let verdict :=
          if v.succeeded then
            exit 0 (found ++
              [path ++ ": valid (" ++ toString v.warnings.length ++ " warning(s))"]) []
          else
            exit 1 found [path ++ ": invalid (" ++ toString v.errors.length ++ " error(s))"]
        verdict.after v.notices

/-- The files that a replay reads beside the document. -/
structure Options where
  data : Option String
  actions : Option String

/-- Reads the options, a later one replacing an earlier one. -/
def readOptions (options : Options) : List String → Except String Options
  | [] => .ok options
  | flag :: rest =>
    if flag == "--data" || flag == "-d" then
      match rest with
      | path :: rest => readOptions { options with data := some path } rest
      | [] => .error "Error: --data requires a value"
    else if flag == "--actions" || flag == "-a" then
      match rest with
      | path :: rest => readOptions { options with actions := some path } rest
      | [] => .error "Error: --actions requires a value"
    else .error ("Unknown option: " ++ flag)

/-- Reads an optional file of one kind of value. -/
def readOption {α : Type} (world : World) (path : Option String) (label : String) (fallback : α)
    (pick : Json → Option α) (complaint : String) : Except Output α :=
  match path with
  | none => .ok fallback
  | some path =>
    match readJson world path label with
    | .stopped s => .error (stop s)
    | .missing first => .error (exit 1 [] [first, complaint])
    | .value v =>
      match pick v with
      | some a => .ok a
      | none => .error (exit 1 [] [complaint])

def listOf? : Json → Option (List Json)
  | .arr items => some items
  | _ => none

/-- A replay in progress: the app, the effects so far, the notices so far. -/
structure Replay where
  app : App
  effects : List Effect
  notices : List Notice

/-- Replays one entry: a patch of the form, or an action. -/
def Replay.entry (submitter : Submitter) (r : Replay) (entry : Json) : Except Stop Replay :=
  match entry.fields?.bind fun fields => Assoc.get? fields "setFormState" with
  | some values =>
    match r.app.setForm (if values.truthy then values else .obj []) with
    | (app, none) => .ok { r with app }
    | (_, some fault) => .error (.patch fault)
  | none =>
    match r.app.dispatch (.inline submitter) entry with
    | .error fault => .error (.tag fault)
    | .ok (app, report) =>
      .ok ⟨app, r.effects ++ report.deliveries.flatMap (·.batch), r.notices ++ report.notices⟩

/-- Replays entries up to one that stops the command. -/
def Replay.entries (submitter : Submitter) (r : Replay) : List Json → Replay × Option Stop
  | [] => (r, none)
  | entry :: rest =>
    match r.entry submitter entry with
    | .ok r => r.entries submitter rest
    | .error s => (r, some s)

def screenState (r : ResolvedScreen) : Json :=
  .obj
    [("kind", .str r.view.kind),
     ("id", (r.view.id.map .str).getD .null),
     ("authVariant", (r.view.form?.map fun form => .str form.name).getD .null),
     ("redirectedFrom", (r.redirectedFrom.map .str).getD .null),
     ("reason", (r.view.reason?.map fun reason => .str reason.name).getD .null)]

/-- A session on its way out, if there is one. -/
def sessionState : Option Session → Except Stop Json
  | none => .ok .null
  | some s => if s.fits then .ok (s.dump .complete) else .error .deepSession

/-- A copy of a table on its way out. -/
def copyState : Option (Assoc Json) → Except Stop Json
  | none => .error .tooDeepToCopy
  | some copy => .ok (.obj copy)

def effectState (effects : List Effect) : Except Stop Json :=
  if effects.all (·.fits) then .ok (.arr (effects.map (·.dump)))
  else .error .deepEffect

/-- The state an app ends in, up to the first part of it that cannot be given out. -/
def finalState (resolved : ResolvedScreen) (app : App) (effects : List Effect) :
    Except Stop Json := do
  let session ← sessionState app.context.session
  let form ← copyState app.context.form.snapshot
  let records ← copyState app.context.store.snapshot
  let effects ← effectState effects
  .ok (.obj
    [("screen", screenState resolved), ("session", session), ("formState", form),
     ("records", records), ("effects", effects)])

/-- Prints a state, if it could be given out. -/
def printState : Except Stop Json → Output
  | .error s => stop s
  | .ok state => exit 0 [state.write (.indented true (some 2))] []

/-- Prints the state a replay ended in. -/
def Replay.finish (r : Replay) : Output :=
  let (resolved, app, notices) := r.app.currentScreen
  (printState (finalState resolved app r.effects)).after (r.notices ++ notices)

/-- Replays entries against an app for an accepted document. -/
def replay (world : World) (settings : Settings) (definition : Definition) (seed : Assoc Json)
    (entries : List Json) : Output :=
  let verifier := settings.credentialScheme.verifier world.hasher
  match App.ofDefinition settings verifier world.supply definition seed with
  | .error (.refused e, notices) => (exit 1 [] ["Error: " ++ e.message]).after notices
  | .error (.tooDeep, notices) => (stop .tooDeepToCopy).after notices
  | .ok (app, notices) =>
    let app := app.subscribe ⟨0, fun _ => true⟩
    let started : Replay := ⟨app, [], notices ++ settings.credentialNotices⟩
    match started.entries world.submitter entries with
    | (r, none) => r.finish
    | (r, some s) => (stop s).after r.notices

def run (world : World) (settings : Settings) : List String → Output
  | [] =>
    exit 1 []
      ["Error: No definition file specified",
       "Usage: uiruntime run <file> [--data FILE] [--actions FILE]"]
  | path :: args =>
    match readOptions ⟨none, none⟩ args with
    | .error complaint => exit 1 [] [complaint]
    | .ok options =>
      match readText world path with
      | .error complaint => exit 1 [] [complaint]
      | .ok s =>
        let inputs := do
          let seed ← readOption world options.data "data" [] Json.fields?
            "Error: Data file must contain an object of table -> records"
          let entries ← readOption world options.actions "actions" [] listOf?
            "Error: Actions file must contain a list"
          Except.ok (seed, entries)
        match inputs with
        | .error output => output
        | .ok (seed, entries) =>
          match Validation.ofSource settings.maxDefinitionBytes (.text s) with
          | .error b => stop (.breakdown b)
          | .ok v =>
            match v.definition with
            | none => (exit 1 [] (v.errors.map errorLine)).after v.notices
            | some definition => (replay world settings definition seed entries).after v.notices

/-- Runs a command line. -/
def execute (world : World) (args : List String) : Output :=
  match Settings.read world.environment [] with
  | .bad issues => stop (.settings issues)
  | .ok settings =>
    match settings.logThreshold, args with
    | .error fault, _ => stop (.logging fault)
    | .ok _, [] => exit 0 help []
    | .ok _, first :: rest =>
      match Text.lower first with
      | "help" => exit 0 help []
      | "-h" => exit 0 help []
      | "--help" => exit 0 help []
      | "validate" => validate world settings rest
      | "run" => run world settings rest
      | command => exit 1 help ["Unknown command: " ++ command]

end Storyboard.CommandLine
