import Mathlib.Data.List.Forall2
import Storyboard.Proofs.Records.Deletion
import Storyboard.Proofs.Records.Restoring

/-!
# Seeding keeps the data

Seeding takes the records of a table one by one and looks at each id against the rows that it has
made so far, those included that were given an id. However ids come mixed, every record becomes
one row in its place, with all of its fields; only an id that cannot stay is replaced by a drawn
one. A seed is to be refused for the first table that is no list of records, and for nothing else.
But the records are copied on the way, and a record that is nested too deeply for that ends the
seed where it stands, whether or not something behind it is malformed.
-/
namespace Storyboard

/-- A record has an id whose text none of the earlier ones has. -/
def Record.OwnId (earlier : List Record) (row : Record) : Prop :=
  Record.id row ≠ .null ∧ ∀ r ∈ earlier, ¬ Record.Bears r (Record.id row)

namespace Store

/-- The value of a table is neither `null` nor a list, or something in the list is no record. -/
inductive Malformed : Json → SeedFault → Prop
  | notList {v : Json} (given : v ≠ .null) (noList : ∀ items, v ≠ .arr items) :
      Malformed v .notList
  | notObjects {items : List Json} {item : Json} (mem : item ∈ items)
      (noRecord : ∀ fields, item ≠ .obj fields) : Malformed (.arr items) .notObjects

/-- The first thing in the value of a table that ends the seed. -/
inductive Spoils (table : String) : Json → SeedStop → Prop
  | notList {v : Json} (given : v ≠ .null) (noList : ∀ items, v ≠ .arr items) :
      Spoils table v (.refused ⟨table, .notList⟩)
  | notObjects {rows : List Record} {item : Json} {rest : List Json}
      (copied : ∀ row ∈ rows, (Json.obj row).copies = true)
      (noRecord : ∀ fields, item ≠ .obj fields) :
      Spoils table (.arr (rows.map .obj ++ item :: rest)) (.refused ⟨table, .notObjects⟩)
  | tooDeep {rows : List Record} {row : Record} {rest : List Json}
      (copied : ∀ row ∈ rows, (Json.obj row).copies = true)
      (deep : (Json.obj row).copies = false) :
      Spoils table (.arr (rows.map .obj ++ .obj row :: rest)) .tooDeep

/-- What becomes of a record behind the rows that were made of the earlier ones. -/
structure Settled (source : IdSource) (earlier : List Record) (row stored : Record) : Prop where
  /-- All fields but the id stay, in their order. -/
  others : stored.filter (fun p => p.1 != "id") = row.filter fun p => p.1 != "id"
  /-- An id of its own stays, where it stands. -/
  kept : row.OwnId earlier → stored = row
  /-- In the place of any other id there is one that was drawn. -/
  drawn : ¬ row.OwnId earlier → ∃ n, Record.id stored = .str (source.draw n)
  /-- Either way the row has an id of its own. -/
  own : stored.OwnId earlier

/-- The rows that were made of the records of a table. -/
structure RowsSettled (source : IdSource) (given stored : List Record) : Prop where
  length : stored.length = given.length
  row : ∀ i row r, given[i]? = some row → stored[i]? = some r →
    Settled source (stored.take i) row r

/-- No id that was drawn for a record of a table is the one of another record of it. -/
def DrawnApart (given stored : List Record) : Prop :=
  ∀ (i : Nat) (row r : Record), given[i]? = some row → stored[i]? = some r → r ≠ row →
    ∀ other ∈ given, ¬ r.Bears (Record.id other)

/-- The notices on the records that had an id and have another one now. -/
def reassignments (table : String) (given stored : List Record) : List Notice :=
  ((given.zip stored).filter fun p =>
    !(Record.id p.1).isNull && !Record.hasId p.2 (Record.id p.1)).map fun p =>
      .duplicateId (Record.id p.1) table

theorem ownId_iff {earlier : List Record} {row : Record} :
    row.OwnId earlier ↔ ∃ text, idText? (Record.id row) = some text ∧ text ∉ idTexts earlier := by
  constructor
  · rintro ⟨hgiven, hfree⟩
    refine ⟨_, idText?_eq_display hgiven, fun hmem => ?_⟩
    obtain ⟨r, hr, htext⟩ := List.mem_filterMap.mp hmem
    obtain ⟨hid, hdisplay⟩ := ne_null_of_idText? htext
    exact hfree r hr ⟨hid, hgiven, hdisplay⟩
  · rintro ⟨text, htext, hfree⟩
    obtain ⟨hgiven, rfl⟩ := ne_null_of_idText? htext
    refine ⟨hgiven, fun r hr hbears => hfree ?_⟩
    rw [← hbears.text]
    exact display_mem_idTexts hr hbears.given

section OneRecord

variable {source : IdSource} {earlier : List Record} {row stored : Record}

/-- A record that had no id of its own is settled under the next one that is free. -/
theorem settled_put (supply : Supply) (taken : ¬ row.OwnId earlier) :
    Settled supply.source earlier row
      (Assoc.put row "id" (.str (supply.next (idTexts earlier)).1)) where
  others := Assoc.filter_put fun _ => rfl
  kept own := absurd own taken
  drawn _ := ⟨_, Record.id_put row _⟩
  own := ownId_iff.mpr ⟨_, by rw [Record.id_put]; rfl, supply.next_not_mem (idTexts earlier)⟩

theorem settled_self (own : row.OwnId earlier) : Settled source earlier row row :=
  ⟨rfl, fun _ => rfl, fun taken => absurd own taken, own⟩

theorem reassignments_kept (table : String) (own : row.OwnId earlier) :
    reassignments table [row] [row] = [] := by
  have hbears : Record.hasId row (Record.id row) = true :=
    Record.hasId_iff.mpr ⟨own.1, own.1, rfl⟩
  simp [reassignments, hbears]

/-- A record without an id has none to lose. -/
theorem reassignments_filled (table : String) (missing : Record.id row = .null) :
    reassignments table [row] [stored] = [] := by
  simp [reassignments, missing, Json.isNull]

theorem reassignments_taken (table : String) (given : Record.id row ≠ .null)
    (taken : ¬ row.OwnId earlier) (own : stored.OwnId earlier) :
    reassignments table [row] [stored] = [.duplicateId (Record.id row) table] := by
  have hother : Record.hasId stored (Record.id row) = false := by
    rw [Record.hasId_eq_false]
    intro hbears
    refine taken ⟨given, fun r hr hr' => own.2 r hr ⟨hr'.given, own.1, ?_⟩⟩
    rw [hr'.text, hbears.text]
  have hgiven : (Record.id row).isNull = false := by
    cases hid : Record.id row with
    | null => exact absurd hid given
    | _ => rfl
  simp [reassignments, hother, hgiven]

end OneRecord

/-- Adding a record to a table puts one row at its end. A notice is given if the record had an id
and the row has another one. -/
theorem add_settled (s : Seeding) (table : String) (row : Record) :
    ∃ r, (s.add table row).rows = s.rows ++ [r] ∧ Settled s.supply.source s.rows row r ∧
      (s.add table row).supply.source = s.supply.source ∧
      (s.add table row).notices = s.notices ++ reassignments table [row] [r] := by
  simp only [Seeding.add]
  split
  · rename_i text htext
    obtain ⟨hgiven, -⟩ := ne_null_of_idText? htext
    split
    · rename_i hmem
      have htaken : ¬ row.OwnId s.rows := by
        rw [ownId_iff, htext]
        rintro ⟨_, heq, hfree⟩
        cases heq
        exact hfree (List.contains_iff_mem.mp hmem)
      have hsettled := settled_put s.supply htaken
      refine ⟨_, rfl, hsettled, rfl, ?_⟩
      rw [reassignments_taken table hgiven htaken hsettled.own]
    · rename_i hfree
      have hown : row.OwnId s.rows :=
        ownId_iff.mpr ⟨text, htext, fun hmem => hfree (List.contains_iff_mem.mpr hmem)⟩
      refine ⟨row, rfl, settled_self hown, rfl, ?_⟩
      rw [reassignments_kept table hown, List.append_nil]
  · rename_i hnone
    have hmissing : Record.id row = .null :=
      by_contra fun hgiven => by rw [idText?_eq_display hgiven] at hnone; cases hnone
    have htaken : ¬ row.OwnId s.rows := fun hown => hown.1 hmissing
    refine ⟨_, rfl, settled_put s.supply htaken, rfl, ?_⟩
    rw [reassignments_filled table hmissing, List.append_nil]

theorem RowsSettled.nil {source : IdSource} : RowsSettled source [] [] := ⟨rfl, nofun⟩

theorem RowsSettled.append {source : IdSource} {given stored : List Record} {row r : Record}
    (h : RowsSettled source given stored) (settled : Settled source stored row r) :
    RowsSettled source (given ++ [row]) (stored ++ [r]) := by
  refine ⟨by simp [h.length], fun i x y hx hy => ?_⟩
  obtain hi | hi := Nat.lt_or_ge i given.length
  · rw [List.getElem?_append_left hi] at hx
    rw [List.getElem?_append_left (h.length ▸ hi)] at hy
    rw [List.take_append_of_le_length (Nat.le_of_lt (h.length ▸ hi))]
    exact h.row i x y hx hy
  · obtain ⟨hlast, -⟩ := List.getElem?_eq_some_iff.mp hx
    have heq : i = given.length := by
      rw [List.length_append, List.length_singleton] at hlast
      omega
    rw [heq, List.getElem?_concat_length] at hx
    rw [heq, ← h.length, List.getElem?_concat_length] at hy
    cases hx
    cases hy
    rwa [heq, ← h.length, List.take_left]

theorem reassignments_append (table : String) {given stored : List Record}
    (length : stored.length = given.length) (row r : Record) :
    reassignments table (given ++ [row]) (stored ++ [r]) =
      reassignments table given stored ++ reassignments table [row] [r] := by
  rw [reassignments, List.zip_append length.symm, List.filter_append, List.map_append]
  rfl

/-- Records are added one after the other, behind those that were added before, if each of them
can be copied. -/
theorem addAll_settled (table : String) {source : IdSource} {said : List Notice}
    (rows : List Record) (copied : ∀ row ∈ rows, (Json.obj row).copies = true)
    {given : List Record} {s : Seeding} (hsource : s.supply.source = source)
    (h : RowsSettled source given s.rows)
    (hnotices : s.notices = said ++ reassignments table given s.rows) :
    ∃ done, Seeding.addAll table s (rows.map .obj) = .ok done ∧ done.supply.source = source ∧
      RowsSettled source (given ++ rows) done.rows ∧
      done.notices = said ++ reassignments table (given ++ rows) done.rows := by
  induction rows generalizing given s with
  | nil =>
    rw [List.append_nil]
    exact ⟨s, rfl, hsource, h, hnotices⟩
  | cons row rest ih =>
    obtain ⟨hcopies, hrest⟩ := List.forall_mem_cons.mp copied
    obtain ⟨r, hrows, hsettled, hkept, hadded⟩ := add_settled s table row
    rw [List.append_cons, List.map_cons, Seeding.addAll, if_pos hcopies]
    refine ih hrest (hkept.trans hsource) ?_ ?_
    · rw [hrows]
      exact h.append (hsource ▸ hsettled)
    · rw [hadded, hrows, hnotices, List.append_assoc, reassignments_append table h.length]

theorem mem_take_iff_getElem? {α : Type} {l : List α} {n : Nat} {a : α} :
    a ∈ l.take n ↔ ∃ i, i < n ∧ l[i]? = some a := by
  rw [List.mem_iff_getElem?]
  refine exists_congr fun i => ?_
  rw [List.getElem?_take]
  split <;> simp [*]

/-- If no drawn id is the one of another record, a record has an id of its own among the rows
exactly if it has one among the records: the rows before it that were given another id do not get
in its way, and one that lost its id lost it to a row that still has it. -/
theorem RowsSettled.ownId_iff {source : IdSource} {given stored : List Record}
    (h : RowsSettled source given stored) (apart : DrawnApart given stored) {i : Nat} {row : Record}
    (hrow : given[i]? = some row) :
    row.OwnId (stored.take i) ↔ row.OwnId (given.take i) := by
  obtain ⟨hi, -⟩ := List.getElem?_eq_some_iff.mp hrow
  constructor
  · rintro ⟨hgiven, hfree⟩
    refine ⟨hgiven, fun other hother hbears => ?_⟩
    obtain ⟨j, hj, hother⟩ := mem_take_iff_getElem?.mp hother
    obtain ⟨r, hr⟩ : ∃ r, stored[j]? = some r :=
      ⟨_, List.getElem?_eq_getElem (by rw [h.length]; exact Nat.lt_trans hj hi)⟩
    have hsettled := h.row j other r hother hr
    by_cases hown : other.OwnId (stored.take j)
    · rw [hsettled.kept hown] at hr
      exact hfree other (mem_take_iff_getElem?.mpr ⟨j, hj, hr⟩) hbears
    · -- The id of the other record was taken by a row that is earlier still.
      refine hown ⟨hbears.given, fun first hfirst hbears' => ?_⟩
      obtain ⟨k, hk, hfirst⟩ := mem_take_iff_getElem?.mp hfirst
      exact hfree first (mem_take_iff_getElem?.mpr ⟨k, Nat.lt_trans hk hj, hfirst⟩)
        ⟨hbears'.given, hgiven, hbears'.text.trans hbears.text⟩
  · rintro ⟨hgiven, hfree⟩
    refine ⟨hgiven, fun r hr hbears => ?_⟩
    obtain ⟨j, hj, hr⟩ := mem_take_iff_getElem?.mp hr
    obtain ⟨other, hother⟩ : ∃ other, given[j]? = some other :=
      ⟨_, List.getElem?_eq_getElem (Nat.lt_trans hj hi)⟩
    by_cases heq : r = other
    · exact hfree other (mem_take_iff_getElem?.mpr ⟨j, hj, hother⟩) (heq ▸ hbears)
    · exact apart j other r hother hr heq row (List.mem_of_getElem? hrow) hbears

/-- The value of a table is `null` or a list of records. -/
def Complete (value : Json) : Prop := value = .null ∨ value = .arr (value.records.map .obj)

/-- The value of a table is complete, and each of its records can be copied. -/
structure Sound (value : Json) : Prop where
  complete : Complete value
  copied : ∀ row ∈ value.records, (Json.obj row).copies = true

theorem filterMap_fields_map (rows : List Record) :
    (rows.map Json.obj).filterMap Json.fields? = rows := by
  induction rows with
  | nil => rfl
  | cons row rest ih => exact congrArg (row :: ·) ih

/-- What a list begins with before it ends the seed of its table, if it does. -/
theorem sound_or_spoiled (table : String) (value : Json) :
    Sound value ∨ ∃ stop, Spoils table value stop := by
  cases value with
  | null => exact .inl ⟨.inl rfl, nofun⟩
  | arr items =>
    -- By induction on what is behind the records that were added.
    suffices h : ∀ (rows : List Record) (rest : List Json),
        (∀ row ∈ rows, (Json.obj row).copies = true) →
        Sound (.arr (rows.map .obj ++ rest)) ∨
          ∃ stop, Spoils table (.arr (rows.map .obj ++ rest)) stop from
      h [] items (List.forall_mem_nil _)
    intro rows rest copied
    induction rest generalizing rows with
    | nil =>
      have hrecords : (Json.arr (rows.map .obj ++ [])).records = rows := by
        rw [List.append_nil, Json.records, filterMap_fields_map]
      refine .inl ⟨.inr ?_, ?_⟩
      · rw [hrecords, List.append_nil]
      · rw [hrecords]
        exact copied
    | cons item rest ih =>
      cases item with
      | obj row =>
        cases hcopies : (Json.obj row).copies with
        | false => exact .inr ⟨_, .tooDeep copied hcopies⟩
        | true =>
          have hrows := ih (rows ++ [row]) (List.forall_mem_append.mpr
            ⟨copied, List.forall_mem_singleton.mpr hcopies⟩)
          rwa [List.map_append, List.map_singleton, List.append_assoc] at hrows
      | _ => exact .inr ⟨_, .notObjects copied nofun⟩
  | _ => exact .inr ⟨_, .notList nofun nofun⟩

/-- What is refused is malformed. -/
theorem Spoils.malformed {table : String} {value : Json} {e : SeedError}
    (h : Spoils table value (.refused e)) : e.table = table ∧ Malformed value e.fault := by
  cases h with
  | notList given noList => exact ⟨rfl, .notList given noList⟩
  | notObjects _ noRecord =>
    exact ⟨rfl, .notObjects (List.mem_append_right _ List.mem_cons_self) noRecord⟩

/-- Records that can be copied are added, whatever is behind them. -/
theorem addAll_append (table : String) {rows : List Record}
    (copied : ∀ row ∈ rows, (Json.obj row).copies = true) (s : Seeding) :
    ∃ done : Seeding, ∀ rest,
      Seeding.addAll table s (rows.map .obj ++ rest) = Seeding.addAll table done rest := by
  induction rows generalizing s with
  | nil => exact ⟨s, fun _ => rfl⟩
  | cons row behind ih =>
    obtain ⟨hcopies, hbehind⟩ := List.forall_mem_cons.mp copied
    obtain ⟨done, hdone⟩ := ih hbehind (s.add table row)
    refine ⟨done, fun rest => ?_⟩
    rw [List.map_cons, List.cons_append, Seeding.addAll, if_pos hcopies, hdone]

/-- What spoils a table ends the seed. -/
theorem seedTables_spoiled (done : Seeded) {table : String} {value : Json} {stop : SeedStop}
    (spoils : Spoils table value stop) (rest : List (String × Json)) :
    ∃ said, seedTables done ((table, value) :: rest) = .error (stop, said) := by
  cases spoils with
  | notList given noList =>
    refine ⟨done.notices, ?_⟩
    cases value with
    | null => exact absurd rfl given
    | arr items => exact absurd rfl (noList items)
    | _ => rfl
  | @notObjects rows item _ copied noRecord =>
    obtain ⟨s, hs⟩ := addAll_append table copied ⟨[], done.supply, done.notices⟩
    refine ⟨s.notices, ?_⟩
    simp only [seedTables, hs]
    cases item with
    | obj row => exact absurd rfl (noRecord row)
    | _ => rfl
  | tooDeep copied deep =>
    obtain ⟨s, hs⟩ := addAll_append table copied ⟨[], done.supply, done.notices⟩
    refine ⟨s.notices, ?_⟩
    simp only [seedTables, hs, Seeding.addAll, deep]
    rfl

theorem seedTables_sound (done : Seeded) (table : String) {value : Json}
    (sound : Sound value) (rest : List (String × Json)) :
    ∃ s : Seeding, RowsSettled done.supply.source value.records s.rows ∧
      s.supply.source = done.supply.source ∧
      s.notices = done.notices ++ reassignments table value.records s.rows ∧
      seedTables done ((table, value) :: rest) =
        seedTables ⟨⟨done.store.tables ++ [(table, s.rows)]⟩, s.supply, s.notices⟩ rest := by
  obtain ⟨s, hadded, hsource, hrows, hnotices⟩ :=
    addAll_settled table (s := ⟨[], done.supply, done.notices⟩) value.records sound.copied rfl .nil
      (List.append_nil _).symm
  refine ⟨s, hrows, hsource, hnotices, ?_⟩
  obtain rfl | hlist := sound.complete
  · cases hadded
    rfl
  · rw [hlist, seedTables]
    simp only [hadded]

/-- A seed ends at the first thing that spoils a table, the tables before it being sound. -/
def EndsAt (seed : List (String × Json)) (stop : SeedStop) : Prop :=
  ∃ before table value after, seed = before ++ (table, value) :: after ∧
    Spoils table value stop ∧ ∀ t ∈ before, Sound t.2

/-- The table that was made of one of the seed. -/
structure TableSeeded (source : IdSource) (given : String × Json)
    (table : String × List Record) : Prop where
  name : table.1 = given.1
  sound : Sound given.2
  rows : RowsSettled source given.2.records table.2
  /-- The earlier records themselves decide which ids stay. -/
  own : DrawnApart given.2.records table.2 → ∀ (i : Nat) row, given.2.records[i]? = some row →
    (row.OwnId (table.2.take i) ↔ row.OwnId (given.2.records.take i))

/-- The notices on all tables, in their order. -/
def seedNotices (seed : List (String × Json)) (tables : List (String × List Record)) :
    List Notice :=
  (seed.zip tables).flatMap fun p => reassignments p.1.1 p.1.2.records p.2.2

/-- Either the tables are made one after the other, or the first that is spoiled ends it. -/
theorem seedTables_cases (seed : List (String × Json)) (done : Seeded) :
    (∃ stop said, seedTables done seed = .error (stop, said) ∧ EndsAt seed stop) ∨
      ∃ seeded tables, seedTables done seed = .ok seeded ∧
        seeded.store.tables = done.store.tables ++ tables ∧
        seeded.notices = done.notices ++ seedNotices seed tables ∧
        List.Forall₂ (TableSeeded done.supply.source) seed tables := by
  induction seed generalizing done with
  | nil => exact .inr ⟨done, [], rfl, (List.append_nil _).symm, (List.append_nil _).symm, .nil⟩
  | cons entry rest ih =>
    obtain ⟨table, value⟩ := entry
    obtain hsound | ⟨stop, hspoils⟩ := sound_or_spoiled table value
    · obtain ⟨s, hrows, hsource, hnotices, hrest⟩ := seedTables_sound done table hsound rest
      rw [hrest]
      obtain ⟨stop, said, herror, before, name, bad, after, rfl, hbad, hbefore⟩ |
          ⟨seeded, tables, hok, htables, hsaid, hall⟩ :=
        ih ⟨⟨done.store.tables ++ [(table, s.rows)]⟩, s.supply, s.notices⟩
      · exact .inl ⟨stop, said, herror, (table, value) :: before, name, bad, after, rfl, hbad,
          List.forall_mem_cons.mpr ⟨hsound, hbefore⟩⟩
      · refine .inr ⟨seeded, (table, s.rows) :: tables, hok, ?_, ?_, .cons ?_ ?_⟩
        · rw [htables, List.append_assoc]
          rfl
        · rw [hsaid, hnotices, List.append_assoc]
          rfl
        · exact ⟨rfl, hsound, hrows, fun apart i row hrow => hrows.ownId_iff apart hrow⟩
        · exact hsource ▸ hall
    · obtain ⟨said, herror⟩ := seedTables_spoiled done hspoils rest
      exact .inl ⟨stop, said, herror, [], table, value, rest, rfl, hspoils, nofun⟩

/-- A seed ends where it is spoiled first, by induction on the tables before. -/
theorem seedTables_of_endsAt {seed : List (String × Json)} {stop : SeedStop}
    (h : EndsAt seed stop) (done : Seeded) :
    ∃ said, seedTables done seed = .error (stop, said) := by
  obtain ⟨before, table, value, after, rfl, hspoils, hsound⟩ := h
  induction before generalizing done with
  | nil => exact seedTables_spoiled done hspoils after
  | cons entry rest ih =>
    obtain ⟨hentry, hrest⟩ := List.forall_mem_cons.mp hsound
    obtain ⟨_, -, -, -, hnext⟩ :=
      seedTables_sound done entry.1 hentry (rest ++ (table, value) :: after)
    rw [List.cons_append, hnext]
    exact ih _ hrest

theorem ofSeed_eq_error {supply : Supply} {seed : Assoc Json} {stop : SeedStop} :
    (∃ said, ofSeed supply seed = .error (stop, said)) ↔ EndsAt seed stop := by
  refine ⟨fun ⟨said, hsaid⟩ => ?_, fun h => seedTables_of_endsAt h _⟩
  obtain ⟨stop', said', herror, hends⟩ | ⟨seeded, _, hok, -⟩ :=
    seedTables_cases seed ⟨empty, supply, []⟩
  · cases hsaid.symm.trans herror
    exact hends
  · cases hsaid.symm.trans hok

/-- Nothing ends a seed of sound tables. -/
theorem not_endsAt {seed : List (String × Json)} (sound : ∀ t ∈ seed, Sound t.2)
    (stop : SeedStop) : ¬ EndsAt seed stop := by
  rintro ⟨before, table, value, after, rfl, hspoils, -⟩
  have hsound : Sound value := sound (table, value) (List.mem_append_right _ List.mem_cons_self)
  obtain ⟨s, -, -, -, hnext⟩ := seedTables_sound ⟨empty, ⟨.counter, 0⟩, []⟩ table hsound []
  obtain ⟨said, herror⟩ := seedTables_spoiled ⟨empty, ⟨.counter, 0⟩, []⟩ hspoils []
  cases herror.symm.trans hnext

end Store

end Storyboard
