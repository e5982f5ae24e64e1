import Storyboard.App.Dispatch

/-!
# Facades

The facade of an app holds the document that hosts see: it resolves screens and gives the
names of the tables. The dispatcher behind it holds a copy of its own, which actions are
performed under. Starting and reloading set both; nothing else sets either.
-/
namespace Storyboard

/-- What a host holds. The document of `app` is the copy of the dispatcher. -/
structure Facade where
  definition : Definition
  app : App

namespace Facade

/-- A facade for an accepted document. -/
def ofDefinition (settings : Settings) (verifier : Verifier) (supply : Supply)
    (definition : Definition) (seed : Assoc Json) :
    Except (SeedStop × List Notice) (Facade × List Notice) :=
  match App.ofDefinition settings verifier supply definition seed with
  | .error e => .error e
  | .ok (app, notices) => .ok (⟨definition, app⟩, notices)

/-- The screen that is seen now, by the document of the facade. -/
def currentScreen (f : Facade) : ResolvedScreen × Facade × List Notice :=
  let (resolved, seen, notices) := App.currentScreen { f.app with definition := f.definition }
  (resolved, { f with app := { f.app with context := seen.context } }, notices)

/-- Creates the tables that the document of the facade declares. -/
def ensureTables (f : Facade) : Facade :=
  let context := f.app.context
  let store := context.store.ensureTables f.definition.tableNames
  { f with app := { f.app with context := { context with store } } }

/-- Goes to the initial screen unless the document of the facade has the active one. -/
def keepScreen (f : Facade) : Facade :=
  let screen := f.app.context.screen
  if screen == "" || !f.definition.namesScreen screen then
    { f with app := { f.app with context := f.app.context.navigate f.definition.initialScreen } }
  else f

/-- Swaps in another document: the copy of the facade first, then that of the dispatcher,
then the tables and the active screen. -/
def swapIn (f : Facade) (definition : Definition) : Facade :=
  let f : Facade := { f with definition }
  let f : Facade := { f with app := { f.app with definition } }
  f.ensureTables.keepScreen

/-- Swaps in the document that a text describes. When validation breaks off or refuses the
text, nothing has been swapped in yet. -/
def reload (f : Facade) (source : Source) :
    Facade × Except Breakdown (Validation × List Notice) :=
  match Validation.ofSource f.app.settings.maxDefinitionBytes source with
  | .error b => (f, .error b)
  | .ok v =>
    match v.definition with
    | none => (f, .ok (v, v.notices ++ [.reloadRejected v.errors.length]))
    | some definition => (f.swapIn definition, .ok (v, v.notices))

end Facade

end Storyboard
