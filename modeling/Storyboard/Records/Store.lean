import Storyboard.Records.Filter
import Storyboard.Records.Order
import Storyboard.Records.Supply

/-!
# The record store

Tables by name, each a list of records in order. Every record has an id, and the
texts of the ids of one table are distinct: seeding replaces missing and repeated
ids, and an inserted record gets an id of its own. Deleting is by the text of the
id and does nothing when no record has it.

Records are copied on their way into the store, and all tables together where a
snapshot is taken. A copy follows a bounded number of levels: a record that is
nested more deeply is not stored, and a seed that holds one is not read on.
-/
namespace Storyboard

/-- The text of an id; `null` is no id. -/
def idText? : Json → Option String
  | .null => none
  | v => some v.display

/-- Whether two ids have the same text. -/
def sameId (a b : Json) : Bool :=
  match idText? a, idText? b with
  | some s, some t => s == t
  | _, _ => false

namespace Record

def id (record : Record) : Json := (Assoc.get? record "id").getD .null

def hasId (record : Record) (id : Json) : Bool := sameId record.id id

end Record

/-- The texts of the ids of some records. -/
def idTexts (rows : List Record) : List String := rows.filterMap fun r => idText? (Record.id r)

inductive SeedFault where
  | notList
  | notObjects
  deriving DecidableEq, Repr

/-- A seed that is refused, with the table at fault. -/
structure SeedError where
  table : String
  fault : SeedFault
  deriving DecidableEq, Repr

/-- What ends a seed before its last table. -/
inductive SeedStop where
  | refused (e : SeedError)
  /-- A record is nested too deeply to be copied. -/
  | tooDeep
  deriving DecidableEq, Repr

def SeedError.message (e : SeedError) : String :=
  "Seed data for table '" ++ e.table ++ "' " ++ match e.fault with
    | .notList => "must be a list of records"
    | .notObjects => "must only contain objects"

/-- Tables by name, in order of creation. -/
structure Store where
  tables : Assoc (List Record)

namespace Store

def empty : Store := ⟨[]⟩

def tableNames (store : Store) : List String := Assoc.keys store.tables

def hasTable (store : Store) (table : String) : Bool := Assoc.has store.tables table

/-- The records of a table; none for an unknown table. -/
def rows (store : Store) (table : String) : List Record :=
  (Assoc.get? store.tables table).getD []

/-- Creates the tables that do not exist yet, empty. -/
def ensureTables (store : Store) (names : List String) : Store :=
  ⟨names.foldl (fun t n => if Assoc.has t n then t else Assoc.put t n []) store.tables⟩

/-- The tables that `ensureTables` would create. -/
def newTables (store : Store) (names : List String) : List String :=
  names.foldl (fun created n =>
    if store.hasTable n || created.contains n then created else created ++ [n]) []

def get? (store : Store) (table : String) (id : Json) : Option Record :=
  (store.rows table).find? fun r => Record.hasId r id

def findFirst (store : Store) (table : String) (test : Record → Bool) : Option Record :=
  (store.rows table).find? test

/-- The seed of one table in progress: the rows so far, the ids still to be drawn,
the notices given. -/
structure Seeding where
  rows : List Record
  supply : Supply
  notices : List Notice

/-- Adds a row. A row without an id, or with the id of an earlier row, gets a new one. -/
def Seeding.add (s : Seeding) (table : String) (row : Record) : Seeding :=
  let id := Record.id row
  let taken := idTexts s.rows
  match idText? id with
  | some text =>
    if taken.contains text then
      let (fresh, supply) := s.supply.next taken
      ⟨s.rows ++ [Assoc.put row "id" (.str fresh)], supply,
        s.notices ++ [.duplicateId id table]⟩
    else { s with rows := s.rows ++ [row] }
  | none =>
    let (fresh, supply) := s.supply.next taken
    ⟨s.rows ++ [Assoc.put row "id" (.str fresh)], supply, s.notices⟩

/-- Adds the rows of a list, each of them copied before its id is looked at. -/
def Seeding.addAll (table : String) : Seeding → List Json → Except (SeedStop × List Notice) Seeding
  | s, [] => .ok s
  | s, .obj row :: rest =>
    if (Json.obj row).copies then addAll table (s.add table row) rest
    else .error (.tooDeep, s.notices)
  | s, _ :: _ => .error (.refused ⟨table, .notObjects⟩, s.notices)

/-- What seeding leaves behind. -/
structure Seeded where
  store : Store
  supply : Supply
  notices : List Notice

/-- Seeds table after table; the notices given before a fault are kept with it. -/
def seedTables : Seeded → List (String × Json) → Except (SeedStop × List Notice) Seeded
  | done, [] => .ok done
  | done, (table, value) :: rest =>
    let items? : Option (List Json) := match value with
      | .null => some []
      | .arr items => some items
      | _ => none
    match items? with
    | none => .error (.refused ⟨table, .notList⟩, done.notices)
    | some items =>
      match Seeding.addAll table ⟨[], done.supply, done.notices⟩ items with
      | .error e => .error e
      | .ok s => seedTables ⟨⟨done.store.tables ++ [(table, s.rows)]⟩, s.supply, s.notices⟩ rest

/-- A store from a snapshot: table names to lists of records. -/
def ofSeed (supply : Supply) (seed : Assoc Json) : Except (SeedStop × List Notice) Seeded :=
  seedTables ⟨empty, supply, []⟩ seed

/-- The store as the value it can be seeded from. -/
def contents (store : Store) : Assoc Json :=
  Assoc.mapValues (fun rows => .arr (rows.map .obj)) store.tables

/-- A copy of all tables, if it can follow them together. -/
def snapshot (store : Store) : Option (Assoc Json) :=
  if (Json.obj store.contents).copies then some store.contents else none

structure Query where
  filter : Assoc Json
  order : Option SortOrder
  limit : Option Int

/-- The first `limit` elements; a negative limit counts from the end. -/
def takeLimit {α : Type} (limit : Option Int) (l : List α) : List α :=
  match limit with
  | none => l
  | some n => l.take (if n < 0 then n + l.length else n).toNat

/-- The records a query selects, with the notices of its filter. -/
def query (store : Store) (table : String) (q : Query) : List Record × List Notice :=
  let verdicts := (store.rows table).map fun r => (r, Filter.verdict q.filter r)
  let accepted := (verdicts.filter fun p => p.2.accepted).map (·.1)
  let ordered := match q.order with
    | none => accepted
    | some order => order.apply accepted
  (takeLimit q.limit ordered, verdicts.flatMap fun p => p.2.notices)

/-- What is said when a record is to go into a table that does not exist. -/
def unknownTableMessage (table : String) : String := "Table '" ++ table ++ "' does not exist"

/-- Why a record was not inserted. -/
inductive InsertFault where
  | noTable
  /-- The record is nested too deeply to be copied. -/
  | tooDeep
  deriving DecidableEq, Repr

/-- Appends a record under a new id, in the place of an id of its own. -/
def insert (store : Store) (supply : Supply) (table : String) (record : Record) :
    Except InsertFault (Record × Store × Supply) :=
  match Assoc.get? store.tables table with
  | none => .error .noTable
  | some rows =>
    if (Json.obj record).copies then
      let (fresh, supply) := supply.next (idTexts rows)
      let row := Assoc.put record "id" (.str fresh)
      .ok (row, ⟨Assoc.put store.tables table (rows ++ [row])⟩, supply)
    else .error .tooDeep

/-- Removes the record with an id; says whether there was one. -/
def delete (store : Store) (table : String) (id : Json) : Bool × Store :=
  match Assoc.get? store.tables table with
  | none => (false, store)
  | some rows =>
    let remaining := rows.filter fun r => !Record.hasId r id
    (remaining.length != rows.length, ⟨Assoc.put store.tables table remaining⟩)

end Store

end Storyboard
