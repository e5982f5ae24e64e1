import Storyboard.Action.Intake
import Storyboard.Document.Writer
import Storyboard.Template.Token
import Storyboard.Text.Blank
import Storyboard.Text.WordChar

/-!
# References

A document refers to screens, tables and design tokens by name. All references
are collected first, in the order in which they stand in the document; the
dangling ones are those whose name the document does not declare.

The parts with a fixed meaning are asked for their references directly. Themes
and screens are searched as they are written, so references below unknown keys
count as well.
-/
namespace Storyboard

inductive ReferenceKind where
  | screen
  | table
  | token
  deriving DecidableEq, Repr

/-- A name, what it stands for, and where it stands. -/
structure Reference where
  kind : ReferenceKind
  name : String
  path : List String
  deriving DecidableEq, Repr

namespace Reference

/-- The problem of a reference that nothing answers to. -/
def problem (r : Reference) : Problem :=
  match r.kind with
  | .screen => .undeclaredScreen r.name
  | .table => .undeclaredTable r.name
  | .token => .undeclaredToken r.name

def issue (r : Reference) : Issue := ⟨r.path, r.problem⟩

/-- A reference by a value; only texts refer to something. -/
def ofValue (kind : ReferenceKind) (path : List String) : Json → List Reference
  | .str name => [⟨kind, name, path⟩]
  | _ => []

def ofField (kind : ReferenceKind) (path : List String) (key : String) (fields : Assoc Json) :
    List Reference :=
  ofValue kind (path ++ [key]) ((Assoc.get? fields key).getD .null)

/-- The token a whole text stands for. Tokens have names like identifiers here, so that
an amount in dollars is not one. -/
def tokenName? (s : String) : Option String :=
  match s.toList with
  | '$' :: first :: rest =>
    let rest := Text.dropFinalBreak rest
    if (first.isAlpha || first == '_') &&
        rest.all (fun c => Text.isWordChar c || c == '.' || c == '-')
    then some (String.ofList (first :: rest))
    else none
  | _ => none

def ofText (path : List String) (s : String) : List Reference :=
  ((tokenName? s).map fun name => ⟨.token, name, path⟩).toList

/-- The references an action makes by its own fields. -/
def ofAction (path : List String) (fields : Assoc Json) (kind : ActionKind) : List Reference :=
  (if kind = .navigate then ofField .screen path "target" fields else []) ++
    ofField .screen path "screen" fields ++
    (if kind = .submit ∨ kind = .deleteRecord then ofField .table path "table" fields else [])

/-- The reference of a list to the table it shows. -/
def ofDataSource (path : List String) (fields : Assoc Json) : List Reference :=
  match Assoc.get? fields "dataSource" with
  | some (.obj source) => ofField .table (path ++ ["dataSource"]) "table" source
  | _ => []

/-- The references of an object by its own fields: those of an action if its `type`
says that it is one, and that of its data source. -/
def ofObject (path : List String) (fields : Assoc Json) : Except TagFault (List Reference) := do
  let kind ← ActionKind.lookUp ((Assoc.get? fields "type").getD .null)
  .ok ((match kind with
    | some kind => ofAction path fields kind
    | none => []) ++ ofDataSource path fields)

mutual

/-- The references in a value and everything below it. -/
def within (path : List String) : Json → Except TagFault (List Reference)
  | .str s => .ok (ofText path s)
  | .arr items => withinItems path 0 items
  | .obj fields => do
    let own ← ofObject path fields
    let below ← withinFields path fields
    .ok (own ++ below)
  | _ => .ok []

def withinItems (path : List String) (index : Nat) :
    List Json → Except TagFault (List Reference)
  | [] => .ok []
  | v :: rest => do
    let here ← within (path ++ [toString index]) v
    let others ← withinItems path (index + 1) rest
    .ok (here ++ others)

def withinFields (path : List String) : List (String × Json) → Except TagFault (List Reference)
  | [] => .ok []
  | (key, v) :: rest => do
    let here ← within (path ++ [key]) v
    let others ← withinFields path rest
    .ok (here ++ others)

end

def ofAuthentication (auth : Authentication) : List Reference :=
  let path := ["app", "authentication"]
  [⟨.screen, auth.postLoginScreen, path ++ ["postLoginScreen"]⟩,
   ⟨.screen, auth.authRedirectScreen, path ++ ["authRedirectScreen"]⟩,
   ⟨.table, auth.userTable, path ++ ["userTable"]⟩]

end Reference

/-- Why a document could not be searched. -/
inductive SearchFault where
  | tag (fault : TagFault)
  | tooDeep
  deriving DecidableEq, Repr

/-- As written, numbers that JSON text cannot hold included. -/
def Mode.verbatim : Mode := ⟨true, false, false⟩

namespace Definition

def themeReferences (d : Definition) : Except TagFault (List Reference) :=
  match d.app.theme with
  | .value theme => Reference.within ["app", "theme"] (theme.dump .verbatim)
  | _ => .ok []

/-- The references in screens, one screen after the other. -/
def screenReferences : List (String × Screen) → Except SearchFault (List Reference)
  | [] => .ok []
  | (id, screen) :: rest => do
    if !screen.fits then throw .tooDeep
    let here ← (Reference.within ["screens", id] (screen.dump .asWritten)).mapError .tag
    let others ← screenReferences rest
    .ok (here ++ others)

/-- Every reference of a document, in order. -/
def references (d : Definition) : Except SearchFault (List Reference) := do
  let theme ← d.themeReferences.mapError .tag
  let screens ← screenReferences d.screens
  .ok ([⟨.screen, d.initialScreen, ["initialScreen"]⟩] ++
    (d.authentication.map Reference.ofAuthentication).getD [] ++ theme ++ screens)

/-- Whether the document declares what a reference refers to. -/
def declares (d : Definition) (r : Reference) : Bool :=
  match r.kind with
  | .screen => d.namesScreen r.name
  | .table => d.tableNames.contains r.name
  | .token => Assoc.has d.tokens r.name

/-- The references that nothing answers to. -/
def danglingReferences (d : Definition) : Except SearchFault (List Reference) :=
  d.references.map fun refs => refs.filter fun r => !d.declares r

end Definition

/-- The names among references of a kind, each once. -/
def missingNames (kind : ReferenceKind) (refs : List Reference) : List String :=
  Token.distinct ((refs.filter fun r => r.kind = kind).map (·.name))

/-- One notice for all dangling references; none when there are none. -/
def danglingNotices (refs : List Reference) : List Notice :=
  if refs.isEmpty then []
  else [.danglingReferences (missingNames .screen refs) (missingNames .table refs)
    (missingNames .token refs)]

end Storyboard
