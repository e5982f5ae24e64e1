import Storyboard.Proofs.App.History
import Storyboard.Proofs.App.Step
import Storyboard.Proofs.Records.Distinct

/-!
# Distinct ids in running apps

A running app writes to its records through submits, signups and deletions, and creates
tables when its document changes. All of these keep the ids of each table distinct.
-/
namespace Storyboard

/-- Every action keeps the ids of the records distinct. -/
theorem Performer.idsDistinct_perform (p : Performer) {c : Context} (action : Action)
    (h : c.store.IdsDistinct) : (p.perform c action).context.store.IdsDistinct := by
  have hc := p.perform_changes c action
  generalize (p.perform c action).context = after at hc
  cases hc with
  | unchanged => exact h
  | navigated => exact h
  | wentBack => exact h
  | filled => exact h
  | submitted _ table _ _ _ _ hi => exact (h.ensureTables [table]).insert hi
  | submitFailed _ table => exact h.ensureTables [table]
  | deleted a => exact h.delete a.table a.recordId.toJson
  | loggedIn => exact h
  | signedUp _ auth _ _ _ _ _ hi => exact (h.ensureTables [auth.userTable]).insert hi
  | signupFailed _ auth => exact h.ensureTables [auth.userTable]
  | loggedOut => exact h
  | sentHome => exact h

theorem idsDistinct_lasting : Lasting fun _ c => c.store.IdsDistinct where
  perform p action h := p.idsDistinct_perform action h
  navigate _ h := h
  form _ h := h
  ensureTables names h := h.ensureTables names

theorem App.idsDistinct_ofDefinition {settings : Settings} {verifier : Verifier} {supply : Supply}
    {definition : Definition} {seed : Assoc Json} {app : App} {notices : List Notice}
    (h : ofDefinition settings verifier supply definition seed = .ok (app, notices)) :
    app.context.store.IdsDistinct := by
  unfold ofDefinition at h
  split at h
  · cases h
  · rename_i seeded hs
    cases h
    exact (Store.idsDistinct_ofSeed hs).ensureTables definition.tableNames

/-- Every row of every table has an id, and the texts of the ids of one table are
distinct: in a store after any writes on any seed, and in an app after any run. -/
theorem ids_stay_distinct :
    (∀ (supply : Supply) (seed : Assoc Json) (seeded : Store.Seeded) (writes : List Store.Write),
      Store.ofSeed supply seed = .ok seeded →
        (Store.afterWrites writes (seeded.store, seeded.supply)).1.IdsDistinct) ∧
    (∀ (settings : Settings) (verifier : Verifier) (supply : Supply) (definition : Definition)
      (seed : Assoc Json) (app : App) (notices : List Notice) (ops : List App.Operation),
      App.ofDefinition settings verifier supply definition seed = .ok (app, notices) →
        (app.after ops).context.store.IdsDistinct) := by
  constructor
  · intro supply seed seeded writes hs
    exact Store.idsDistinct_afterWrites writes (Store.idsDistinct_ofSeed hs)
  · intro settings verifier supply definition seed app notices ops hstart
    exact idsDistinct_lasting.run app (App.idsDistinct_ofDefinition hstart) ops

/-- Four rows of which one has no id, and three have ids of one text. -/
def clashingSeed : Assoc Json :=
  [("tags", .arr [.obj [("id", .bool true)], .obj [("id", .str "True")], .obj [],
    .obj [("id", .arr [.null])]])]

/-- An app without tables of its own, and a submit into the seeded one. -/
def tagsDefinition : Definition :=
  ⟨"1", ⟨"Tags", .absent, .absent, .absent, .absent, []⟩, [], "home", []⟩

def tagsRun : List App.Operation :=
  [.dispatch .scheduled (.obj [("type", .str "submit"), ("target", .str "database"),
    ("table", .str "tags"), ("fields", .obj [("id", .str "name")])])]

theorem clashing_ids_stay_distinct :
    (∃ seeded, Store.ofSeed ⟨.counter, 0⟩ clashingSeed = .ok seeded ∧
      (Store.afterWrites [.insert "tags" [("id", .int 3)], .delete "tags" (.str "True")]
        (seeded.store, seeded.supply)).1.IdsDistinct) ∧
    (∃ app notices,
      App.ofDefinition .default .plaintext ⟨.counter, 0⟩ tagsDefinition clashingSeed =
        .ok (app, notices) ∧
      (app.after tagsRun).context.store.IdsDistinct) :=
  ⟨⟨_, rfl, ids_stay_distinct.1 ⟨.counter, 0⟩ clashingSeed _ _ rfl⟩,
    ⟨_, _, rfl, ids_stay_distinct.2 .default .plaintext ⟨.counter, 0⟩ tagsDefinition clashingSeed
      _ _ _ rfl⟩⟩

end Storyboard
