import Storyboard.Component.Rendering
import Storyboard.Proofs.Component.Binding
import Storyboard.Proofs.Records.Deletion
import Storyboard.Proofs.Records.Queries
import Storyboard.Proofs.Template.Substitution

/-!
# Items and the rows behind them

A list behind a data source shows one item for each row that its query gives, in the order of the
query. An item is the template, resolved against the row, with the id of the row behind its fields.
As a query gives different rows of one table, the ids tell the items apart just as they tell the
rows apart.
-/
namespace Storyboard

namespace RowsDistinct

variable {rows rows' : List Record}

theorem of_perm (h : RowsDistinct rows) (perm : rows'.Perm rows) : RowsDistinct rows' :=
  ⟨fun r hr => h.given r (perm.mem_iff.mp hr), (perm.map _).nodup_iff.mpr h.distinct⟩

/-- Records that have the same ids are distinct along with each other. -/
theorem of_ids (h : RowsDistinct rows) (ids : rows'.map Record.id = rows.map Record.id) :
    RowsDistinct rows' := by
  constructor
  · intro r hr
    obtain ⟨row, hrow, hid⟩ := List.mem_map.mp (ids ▸ List.mem_map_of_mem hr)
    exact hid ▸ h.given row hrow
  · have htexts := congrArg (List.map Json.display) ids
    rw [List.map_map, List.map_map] at htexts
    exact htexts ▸ h.distinct

end RowsDistinct

theorem SortOrder.apply_perm (order : SortOrder) (records : List Record) :
    (order.apply records).Perm records := by
  have hrecords : (records.map fun r =>
      (SortKey.ofValue ((Assoc.get? r order.field).getD .null), r)).map Prod.snd = records := by
    rw [List.map_map]
    exact List.map_id records
  unfold apply
  dsimp only
  split
  · exact ((sortFalling_perm _ _).map Prod.snd).trans (.of_eq hrecords)
  · exact ((sortByRuns_perm _ _).map Prod.snd).trans (.of_eq hrecords)

namespace Store

theorem IdsDistinct.rows {store : Store} (h : store.IdsDistinct) (table : String) :
    RowsDistinct (store.rows table) := by
  unfold Store.rows
  cases hrows : Assoc.get? store.tables table with
  | none => exact .nil
  | some rows => exact h _ (Assoc.mem_of_get? hrows)

/-- What a query gives are rows of its table, each at most once. -/
theorem IdsDistinct.query {store : Store} (h : store.IdsDistinct) (table : String)
    (filter : Assoc Json) (order : Option SortOrder) :
    RowsDistinct (store.query table ⟨filter, order, none⟩).1 := by
  have hmatching : RowsDistinct (store.matching table filter) := (h.rows table).filter _
  rw [query_eq]
  cases order with
  | none => exact hmatching
  | some order => exact hmatching.of_perm (order.apply_perm _)

end Store

/-- Seen at the moment at which it is resolved, nothing is seen otherwise. -/
theorem Template.resolveShared_self (context : Json) (s : String) :
    resolveShared context context s = resolveString context s := by
  unfold resolveShared wholePath? resolveString
  cases whole? s.toList with
  | none => rfl
  | some inner =>
    dsimp only [Option.map_some]
    cases hvalue : Path.get? context (Text.strip inner) with
    | none => rfl
    | some v => cases v <;> rfl

theorem Template.resolveDeep_substitutes (now later : Json) :
    Json.Substitutes (resolveShared now later) (resolveDeep now later) (resolveDeepItems now later)
      (resolveDeepFields now later) := {}

theorem Template.resolveDeep_self (context v : Json) :
    resolveDeep context context v = resolve context v := by
  rw [(resolveDeep_substitutes context context).eq_substitute, resolve_eq]
  exact Json.substitute_eq_iff.mpr fun _ s _ => resolveShared_self context s

theorem resolveSeen_substitutes (now later : Json) (tokens : Assoc Json) :
    Json.Substitutes (fun s => Template.resolveDeep now later (Token.resolveString tokens s))
      (resolveSeen now later tokens) (resolveSeenItems now later tokens)
      (resolveSeenFields now later tokens) := {}

theorem resolveSeen_self (context : Json) (tokens : Assoc Json) (v : Json) :
    resolveSeen context context tokens v = resolveValue context tokens v := by
  rw [(resolveSeen_substitutes context context tokens).eq_substitute, resolveValue_eq]
  exact Json.substitute_eq_iff.mpr fun _ _ _ => Template.resolveDeep_self context _

/-- An object keeps its keys when it is resolved. -/
theorem resolveValue_obj (context : Json) (tokens fields : Assoc Json) :
    ∃ shown, resolveValue context tokens (.obj fields) = .obj shown ∧
      Assoc.keys shown = Assoc.keys fields := by
  refine ⟨_, (resolveValue_eq context tokens (.obj fields)).trans (Json.substitute_obj fields), ?_⟩
  exact Assoc.keys_mapValues _ fields

namespace Component

/-- What the rows behind a data source are shown through: the declared template, or else the first
of the items that are written. -/
inductive ShownThrough (c : Component) : Json → Prop
  | declared {v : Json} (given : c.template = some v) (something : v ≠ .null) : ShownThrough c v
  | first {v : Json} {rest : List Json} (untemplated : c.template.getD .null = .null)
    (written : c.writtenItems = .arr (v :: rest)) (something : v ≠ .null) : ShownThrough c v

theorem ShownThrough.itemTemplate_eq {c : Component} {v : Json} (h : c.ShownThrough v) :
    c.itemTemplate = .ok (some v) := by
  have hnull : ∀ {u : Json}, u ≠ .null → u.isNull = false := fun something =>
    Bool.eq_false_iff.mpr fun hnull => something (Filter.isNull_iff.mp hnull)
  cases h with
  | declared given something =>
    rw [itemTemplate, given]
    dsimp only
    rw [hnull something]
    rfl
  | first untemplated written something =>
    have hfirst : itemTemplate.firstItem c = .ok (some v) := by
      rw [itemTemplate.firstItem, ownItems_eq, written]
      simp [Json.truthy, hnull something]
    unfold itemTemplate
    cases htemplate : c.template with
    | none => exact hfirst
    | some u =>
      rw [htemplate] at untemplated
      cases (show u = .null from untemplated)
      exact hfirst

/-- An item shows a row: it is the template, resolved against the row, and behind its fields the id
of the row. -/
structure Shows (tokens : Assoc Json) (session : Option Session) (template : Assoc Json)
    (row item : Record) : Prop where
  fields : ∃ shown, resolveValue (bindingContext session row) tokens (.obj template) = .obj shown ∧
    item = shown ++ [("id", Record.id row)]
  id : Record.id item = Record.id row

section Objects

variable {template : Assoc Json} (unnamed : "id" ∉ Assoc.keys template)
include unnamed

theorem boundItem_object (tokens : Assoc Json) (session : Option Session) (row : Record) :
    ∃ item, boundItem tokens session session (.obj template) row = .obj item ∧
      Shows tokens session template row item := by
  obtain ⟨shown, hshown, hkeys⟩ := resolveValue_obj (bindingContext session row) tokens template
  rw [← hkeys] at unnamed
  have hput := Assoc.put_of_not_mem unnamed (Record.id row)
  refine ⟨_, ?_, ⟨shown, hshown, rfl⟩, ?_⟩
  · rw [boundItem, resolveSeen_self, hshown, withId,
      if_neg fun hhas => unnamed (Assoc.has_eq_true.mp hhas), hput]
  · rw [← hput, Record.id_put]

theorem boundItems_objects (tokens : Assoc Json) (session : Option Session)
    (rows : List Record) :
    ∃ items, rows.map (boundItem tokens session session (.obj template)) = items.map .obj ∧
      List.Forall₂ (Shows tokens session template) rows items := by
  induction rows with
  | nil => exact ⟨[], rfl, .nil⟩
  | cons row rest ih =>
    obtain ⟨item, hitem, hshows⟩ := boundItem_object unnamed tokens session row
    obtain ⟨items, hitems, hrest⟩ := ih
    refine ⟨item :: items, ?_, .cons hshows hrest⟩
    rw [List.map_cons, List.map_cons, hitem, hitems]

end Objects

theorem Shows.ids_eq {tokens : Assoc Json} {session : Option Session} {template : Assoc Json}
    {rows items : List Record} (h : List.Forall₂ (Shows tokens session template) rows items) :
    items.map Record.id = rows.map Record.id := by
  induction h with
  | nil => rfl
  | cons hshows _ ih => rw [List.map_cons, List.map_cons, hshows.id, ih]

theorem sourceQuery_eq (source : DataSource) {tokens : Assoc Json} {session : Option Session}
    {filter : Assoc Json}
    (resolved : resolveValue (bindingContext session []) tokens
      (.obj (source.filters.toOption.getD [])) = .obj filter) :
    sourceQuery source tokens session =
      ⟨filter, source.orderBy.toOption.bind SortOrder.ofText?, none⟩ := by
  rw [sourceQuery, resolved]
  rfl

/-- A list whose template is an object shares nothing with the session. -/
theorem items_of_object {c : Component} {source : DataSource}
    (bound : c.dataSource.toOption = some source) {template : Assoc Json}
    (shownThrough : c.ShownThrough (.obj template)) (store : Store) (tokens : Assoc Json)
    (session : Option Session) :
    (c.items store tokens session).1 =
      .ok ((store.query source.table (sourceQuery source tokens session)).1.map
        (boundItem tokens session session (.obj template))) := by
  have hbind : ∀ later, c.bind store tokens session later =
      ⟨.ok ((store.query source.table (sourceQuery source tokens session)).1.map
          (boundItem tokens session later (.obj template))),
        (store.query source.table (sourceQuery source tokens session)).2, session⟩ := by
    intro later
    unfold bind
    rw [bound, shownThrough.itemTemplate_eq]
    rfl
  rw [items, hbind session, hbind session]

end Component

theorem App.store_render (app : App) : app.render.2.1.context.store = app.context.store := by
  unfold App.render
  dsimp only
  split <;> rfl

/-- In every store there is, a list behind a data source has as many items as its query gives rows,
in their order. Each is the template resolved against its row, with the id of the row, and so the
texts of the ids tell all items apart. Rendering lists leaves the records as they are. -/
theorem list_items_follow_rows {store : Store} (reached : store.Reached) {c : Component}
    {source : DataSource} (bound : c.dataSource.toOption = some source) {template : Assoc Json}
    (shownThrough : c.ShownThrough (.obj template)) (unnamed : "id" ∉ Assoc.keys template)
    (tokens : Assoc Json) (session : Option Session) :
    (∃ filter items,
      resolveValue (bindingContext session []) tokens
        (.obj (source.filters.toOption.getD [])) = .obj filter ∧
      (c.items store tokens session).1 = .ok (items.map .obj) ∧
      List.Forall₂ (Component.Shows tokens session template)
        (store.query source.table
          ⟨filter, source.orderBy.toOption.bind SortOrder.ofText?, none⟩).1 items ∧
      RowsDistinct items) ∧
    ∀ app : App, app.context.store = store → app.render.2.1.context.store = store := by
  refine ⟨?_, fun app held => app.store_render.trans held⟩
  obtain ⟨filter, hfilter, -⟩ := resolveValue_obj (bindingContext session []) tokens
    (source.filters.toOption.getD [])
  obtain ⟨items, hitems, hshows⟩ := Component.boundItems_objects unnamed tokens session
    (store.query source.table ⟨filter, source.orderBy.toOption.bind SortOrder.ofText?, none⟩).1
  have hdistinct := reached.idsDistinct.query source.table filter
    (source.orderBy.toOption.bind SortOrder.ofText?)
  refine ⟨filter, items, hfilter, ?_, hshows, hdistinct.of_ids (Component.Shows.ids_eq hshows)⟩
  rw [Component.items_of_object bound shownThrough, Component.sourceQuery_eq source hfilter, hitems]

/-- Chores of which two have one id. -/
def choresSeed : Assoc Json :=
  [("chores", .arr [
    .obj [("id", .int 3), ("title", .str "Rake"), ("owner", .str "ada")],
    .obj [("id", .int 5), ("title", .str "Sweep"), ("owner", .str "ben")],
    .obj [("id", .str "3"), ("title", .str "Dig"), ("owner", .str "ada")]])]

/-- They get different ids, one of them goes, and there is a new one. -/
def choresStore : Store :=
  ⟨[("chores", [
    [("id", .int 3), ("title", .str "Rake"), ("owner", .str "ada")],
    [("id", .str "00000000000000000000000000000001"), ("title", .str "Dig"),
      ("owner", .str "ada")],
    [("title", .str "Mow"), ("owner", .str "ben"),
      ("id", .str "00000000000000000000000000000002")]])]⟩

theorem choresStore_reached : choresStore.Reached :=
  @Store.Reached.written ⟨.counter, 0⟩ choresSeed _ rfl
    [.delete "chores" (.int 5), .insert "chores" [("title", .str "Mow"), ("owner", .str "ben")]]

/-- The chores of whoever is logged in, by their titles. -/
def ownChores : DataSource :=
  ⟨"chores", .value [("owner", .str "\x7b\x7bsession.user.name\x7d\x7d")], .value "title", []⟩

def choreTemplate : Assoc Json :=
  [("line", .str "\x7b\x7btitle\x7d\x7d for \x7b\x7bowner\x7d\x7d"), ("tint", .str "$accent")]

/-- The template is not declared, but the first of the items. -/
def choreList : Component :=
  ⟨.list, .absent, .absent, .absent, .absent, .value ownChores, none, .absent, .absent, .absent,
    .absent, [("items", .arr [.obj choreTemplate, .str "unused"])]⟩

def gardener : Session := ⟨[("name", .str "ada")]⟩

theorem ownChores_in_step :
    choresStore.Reached ∧ choreList.dataSource.toOption = some ownChores ∧
      choreList.ShownThrough (.obj choreTemplate) ∧ "id" ∉ Assoc.keys choreTemplate ∧
      ∃ items, (choreList.items choresStore [] (some gardener)).1 = .ok (items.map .obj) ∧
        RowsDistinct items ∧
        items.map (fun item => (Record.id item).display) =
          ["00000000000000000000000000000001", "3"] := by
  have shownThrough : choreList.ShownThrough (.obj choreTemplate) := .first rfl rfl nofun
  have unnamed : "id" ∉ Assoc.keys choreTemplate := by decide
  obtain ⟨⟨filter, items, hfilter, hitems, hshows, hdistinct⟩, -⟩ :=
    list_items_follow_rows choresStore_reached (show choreList.dataSource.toOption = some ownChores
      from rfl) shownThrough unnamed [] (some gardener)
  refine ⟨choresStore_reached, rfl, shownThrough, unnamed, items, hitems, hdistinct, ?_⟩
  obtain rfl : [("owner", Json.str "ada")] = filter := Json.obj.inj hfilter
  have hids := congrArg (List.map Json.display) (Component.Shows.ids_eq hshows)
  rw [List.map_map] at hids
  exact hids.trans (by decide +kernel)

end Storyboard
