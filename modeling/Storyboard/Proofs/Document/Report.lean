import Storyboard.Proofs.Document.Walk
import Storyboard.Proofs.Template.MissingTokens

/-!
# The report of dangling references

What a validation warns of is said of the dump of a document: its references in the order in
which they stand there, each under the path that leads to its text, less those that the
document declares. `reference_report_exact` says so of every accepted document.
-/
namespace Storyboard

namespace Json

/-- The fixed places of a document where a screen or a table is named. -/
def namedPlaces : List (ReferenceKind × List String) :=
  [(.screen, ["initialScreen"]),
   (.screen, ["app", "authentication", "postLoginScreen"]),
   (.screen, ["app", "authentication", "authRedirectScreen"]),
   (.table, ["app", "authentication", "userTable"])]

/-- The name at a fixed place. -/
def nameAt? (document : Json) (kind : ReferenceKind) (path : List String) : Option Reference :=
  ((document.at? path).bind str?).map fun name => ⟨kind, name, path⟩

/-- The parts of a document that are searched, with the paths to them: the theme, then one
screen after the other. -/
def searched (document : Json) : List (List String × Json) :=
  ((document.at? ["app", "theme"]).map fun theme => (["app", "theme"], theme)).toList ++
    (((document.at? ["screens"]).bind fields?).getD []).map fun screen =>
      (["screens", screen.1], screen.2)

/-- The references of a document, in the order in which it is searched. -/
def references (document : Json) : List Reference :=
  (namedPlaces.filterMap fun place => document.nameAt? place.1 place.2) ++
    document.searched.flatMap fun part => Reference.below part.1 part.2

/-- A document refers to something: by the name at a fixed place, or inside a searched part,
by what stands there. -/
inductive Refers (document : Json) : Reference → Prop
  | named {kind : ReferenceKind} {path : List String} {r : Reference}
    (place : (kind, path) ∈ namedPlaces) (name : document.nameAt? kind path = some r) :
    Refers document r
  | inside {start path : List String} {v u : Json} {route : Reference.Route} {r : Reference}
    (part : (start, v) ∈ document.searched) (leads : v.Leads path u)
    (found : route.find? (start ++ path) u = some r) : Refers document r

theorem mem_below {start : List String} {v : Json} {r : Reference} :
    r ∈ Reference.below start v ↔
      ∃ path u route, v.Leads path u ∧ Reference.Route.find? (start ++ path) route u = some r := by
  have hall : ∀ route, route ∈ Reference.Route.all := by
    intro route
    cases route <;> decide
  rw [Reference.below, List.mem_flatMap]
  constructor
  · rintro ⟨⟨at', u⟩, hplace, hr⟩
    obtain ⟨path, rfl, hleads⟩ := mem_places.mp hplace
    obtain ⟨route, -, hfound⟩ := List.mem_filterMap.mp hr
    exact ⟨path, u, route, hleads, hfound⟩
  · rintro ⟨path, u, route, hleads, hfound⟩
    exact ⟨(start ++ path, u), mem_places.mpr ⟨path, rfl, hleads⟩,
      List.mem_filterMap.mpr ⟨route, hall route, hfound⟩⟩

theorem mem_references {document : Json} {r : Reference} :
    r ∈ document.references ↔ document.Refers r := by
  rw [references, List.mem_append, List.mem_filterMap, List.mem_flatMap]
  constructor
  · rintro (⟨⟨kind, path⟩, hplace, hname⟩ | ⟨⟨start, v⟩, hpart, hr⟩)
    · exact .named hplace hname
    · obtain ⟨path, u, route, hleads, hfound⟩ := mem_below.mp hr
      exact .inside hpart hleads hfound
  · rintro (⟨hplace, hname⟩ | ⟨hpart, hleads, hfound⟩)
    · exact .inl ⟨_, hplace, hname⟩
    · exact .inr ⟨_, hpart, mem_below.mpr ⟨_, _, _, hleads, hfound⟩⟩

theorem leads_of_searched {document v : Json} {start : List String}
    (h : (start, v) ∈ document.searched) : document.Leads start v := by
  rcases List.mem_append.mp h with htheme | hscreen
  · rw [Option.mem_toList] at htheme
    obtain ⟨theme, htheme, heq⟩ := Option.map_eq_some_iff.mp htheme
    cases heq
    exact .of_at? htheme
  · obtain ⟨⟨id, screen⟩, hmem, heq⟩ := List.mem_map.mp hscreen
    cases heq
    cases hscreens : (document.at? ["screens"]).bind fields? with
    | none =>
      rw [hscreens] at hmem
      cases hmem
    | some screens =>
      rw [hscreens] at hmem
      obtain ⟨w, hw, hfields⟩ := Option.bind_eq_some_iff.mp hscreens
      cases w <;> cases hfields
      exact (Leads.of_at? hw).under hmem

/-- The path of a reference leads from the document to the text that makes it. -/
theorem Refers.located {document : Json} {r : Reference} (h : document.Refers r) :
    ∃ s, document.Leads r.path (.str s) ∧ r.NamedBy s := by
  cases h with
  | @named kind path _ place name =>
    obtain ⟨s, hs, rfl⟩ := Option.map_eq_some_iff.mp name
    obtain ⟨u, hu, hstr⟩ := Option.bind_eq_some_iff.mp hs
    cases u <;> cases hstr
    refine ⟨s, .of_at? hu, ?_⟩
    have hkind : kind ≠ .token := by
      rintro rfl
      exact absurd place (by simp [namedPlaces])
    cases kind with
    | token => exact absurd rfl hkind
    | _ => exact rfl
  | inside part leads found =>
    obtain ⟨inner, s, hpath, hleads, hnamed⟩ := Reference.find?_located leads found
    exact ⟨s, hpath ▸ (leads_of_searched part).append hleads, hnamed⟩

end Json

/-- A path that starts with a declared field of a dumped part goes on from the value of that
field, if it was given. -/
theorem at?_assemble (part : Part) {entries : List Entry} {extra : Assoc Json} (e : Entry)
    (he : e ∈ entries) (keys : entries.map (·.key) = part.keys) (aside : Aside part.keys extra)
    (path : List String) :
    (assemble .asWritten entries extra).at? (e.key.external :: path) =
      if e.given then e.value.at? path else none := by
  have hdistinct : (entries.map (·.key.external)).Nodup := by
    have hkeys := part.keysApart.distinct
    rwa [← keys, List.map_map] at hkeys
  have haside : ∀ e ∈ entries, e.key.external ∉ Assoc.keys extra := fun e he =>
    aside e.key (keys ▸ List.mem_map_of_mem he)
  obtain ⟨fields, hfields, hget⟩ := get?_assemble hdistinct haside
  rw [hfields, Json.at?]
  cases hgiven : e.given with
  | false => rw [get?_assemble_left_out hdistinct haside hfields he hgiven]; rfl
  | true => rw [hget e he hgiven]; rfl

namespace Definition

variable {d : Definition}

theorem at?_initialScreen (tidy : d.Tidy) :
    (d.dump .asWritten).at? ["initialScreen"] = some (.str d.initialScreen) :=
  at?_assemble .definition (.always Keys.initialScreen (.str d.initialScreen)) (by simp) rfl
    tidy.own []

theorem at?_screens (tidy : d.Tidy) :
    (d.dump .asWritten).at? ["screens"] = some (dumpTable (Screen.dump .asWritten) d.screens) :=
  at?_assemble .definition
    (.always (.plain "screens") (dumpTable (Screen.dump .asWritten) d.screens)) (by simp) rfl
    tidy.own []

theorem at?_app (tidy : d.Tidy) (path : List String) :
    (d.dump .asWritten).at? ("app" :: path) = (d.app.dump .asWritten).at? path :=
  at?_assemble .definition (.always (.plain "app") (d.app.dump .asWritten)) (by simp) rfl
    tidy.own path

theorem at?_theme (tidy : d.Tidy) :
    (d.dump .asWritten).at? ["app", "theme"] =
      if d.app.theme.isGiven then some (d.app.theme.dump (Theme.dump .asWritten)) else none := by
  rw [at?_app tidy]
  exact at?_assemble .metadata (.ofSlot (.plain "theme") (Theme.dump .asWritten) d.app.theme)
    (by simp) rfl tidy.app []

theorem at?_authentication (tidy : d.Tidy) (path : List String) :
    (d.dump .asWritten).at? ("app" :: "authentication" :: path) =
      if d.app.authentication.isGiven then
        (d.app.authentication.dump (Authentication.dump .asWritten)).at? path
      else none := by
  rw [at?_app tidy]
  exact at?_assemble .metadata (.ofSlot (.plain "authentication") (Authentication.dump .asWritten)
    d.app.authentication) (by simp) rfl tidy.app path

/-- The declared fields of an authentication, in order. -/
def authenticationEntries (auth : Authentication) : List Entry :=
  [.always (.plain "enabled") (.bool auth.enabled),
   .always Keys.userTable (.str auth.userTable),
   .always Keys.emailField (.str auth.emailField),
   .always Keys.passwordField (.str auth.passwordField),
   .always Keys.postLoginScreen (.str auth.postLoginScreen),
   .always Keys.authRedirectScreen (.str auth.authRedirectScreen)]

/-- The names in an authentication are read off where it is declared. -/
theorem nameAt?_authentication (tidy : d.Tidy) (kind : ReferenceKind) (key : Key)
    (name : Authentication → String)
    (field : ∀ auth, .always key (.str (name auth)) ∈ authenticationEntries auth) :
    (d.dump .asWritten).nameAt? kind ["app", "authentication", key.external] =
      d.authentication.map fun auth =>
        ⟨kind, name auth, ["app", "authentication", key.external]⟩ := by
  rw [Json.nameAt?, at?_authentication tidy, authentication]
  cases hauth : d.app.authentication with
  | absent => rfl
  | null => rfl
  | value auth =>
    have haside := tidy.authentication auth (by rw [authentication, hauth]; rfl)
    have hfield := at?_assemble .authentication _ (field auth) rfl haside []
    exact congrArg (fun v? : Option Json => (v?.bind Json.str?).map fun name =>
      (⟨kind, name, ["app", "authentication", key.external]⟩ : Reference)) hfield

theorem namedPlaces_dump (tidy : d.Tidy) :
    (Json.namedPlaces.filterMap fun place => (d.dump .asWritten).nameAt? place.1 place.2) =
      ⟨.screen, d.initialScreen, ["initialScreen"]⟩ ::
        (d.authentication.map Reference.ofAuthentication).getD [] := by
  have hinitial : (d.dump .asWritten).nameAt? .screen ["initialScreen"] =
      some ⟨.screen, d.initialScreen, ["initialScreen"]⟩ := by
    rw [Json.nameAt?, at?_initialScreen tidy]
    rfl
  have hlogin := nameAt?_authentication tidy .screen Keys.postLoginScreen
    Authentication.postLoginScreen (by simp [authenticationEntries])
  have hredirect := nameAt?_authentication tidy .screen Keys.authRedirectScreen
    Authentication.authRedirectScreen (by simp [authenticationEntries])
  have huser := nameAt?_authentication tidy .table Keys.userTable
    Authentication.userTable (by simp [authenticationEntries])
  simp only [Keys.postLoginScreen] at hlogin
  simp only [Keys.authRedirectScreen] at hredirect
  simp only [Keys.userTable] at huser
  simp only [Json.namedPlaces, List.filterMap_cons, List.filterMap_nil, hinitial, hlogin, hredirect,
    huser]
  cases d.authentication <;> rfl

/-- A theme is searched as it is written, but for numbers that JSON text cannot hold. -/
theorem dump_theme (t : Theme) :
    t.dump .asWritten = (t.dump .verbatim).mapFloats Json.finiteOrNull := by
  rw [← Theme.dump_verbatim_settled]
  rfl

theorem theme_below (tidy : d.Tidy) {refs : List Reference} (h : d.themeReferences = .ok refs) :
    refs = (((d.dump .asWritten).at? ["app", "theme"]).map
      (Reference.below ["app", "theme"])).getD [] := by
  rw [at?_theme tidy]
  unfold themeReferences at h
  cases htheme : d.app.theme with
  | value t =>
    rw [htheme] at h
    have hwithin :=
      Reference.within_mapFloats inert_finiteOrNull (t.dump .verbatim) ["app", "theme"]
    rw [← dump_theme] at hwithin
    exact Reference.within_eq_ok (hwithin.trans h)
  | null =>
    rw [htheme] at h
    cases h
    rfl
  | absent =>
    rw [htheme] at h
    cases h
    rfl

theorem screens_below {screens : List (String × Screen)} {refs : List Reference}
    (h : screenReferences screens = .ok refs) :
    refs = (Assoc.mapValues (Screen.dump .asWritten) screens).flatMap fun screen =>
      Reference.below ["screens", screen.1] screen.2 := by
  induction screens generalizing refs with
  | nil =>
    cases h
    rfl
  | cons p rest ih =>
    obtain ⟨here, others, hhere, hothers, rfl⟩ := screenReferences_cons_eq_ok h
    rw [Assoc.mapValues, List.map_cons, List.flatMap_cons, ← Reference.within_eq_ok hhere,
      ih hothers]
    rfl

/-- The references that a search finds are those of the dump. -/
theorem references_dump (tidy : d.Tidy) {refs : List Reference} (h : d.references = .ok refs) :
    refs = (d.dump .asWritten).references := by
  obtain ⟨theme, screens, htheme, hscreens, rfl⟩ := references_eq_ok h
  have htheme := theme_below tidy htheme
  have hscreens := screens_below hscreens
  have hsearched : (d.dump .asWritten).searched.flatMap (fun part =>
      Reference.below part.1 part.2) = theme ++ screens := by
    rw [Json.searched, List.flatMap_append, htheme, hscreens, at?_screens tidy]
    cases (d.dump .asWritten).at? ["app", "theme"] <;>
      simp [dumpTable, Json.fields?, List.flatMap_map]
  rw [Json.references, namedPlaces_dump tidy, hsearched, List.singleton_append, List.append_assoc]

end Definition

/-- The warnings of an accepted document are the references of its dump that it does not
declare, in the order in which they stand there. Each is located by the path that leads to the
text that makes it. What is missing of a kind are the names of these references, each once, in
the order in which they first occur. -/
theorem reference_report_exact {data : Json} {v : Validation} {d : Definition}
    (validated : Validation.ofJson data = .ok v) (accepted : v.definition = some d) :
    ∃ undeclared : List Reference,
      undeclared = ((d.dump .asWritten).references.filter fun r => !d.declares r) ∧
      v.warnings = undeclared.map Reference.issue ∧
      (∀ r ∈ undeclared, r.issue.pathText = String.intercalate "." r.path ∧
        ∃ s, (d.dump .asWritten).Leads r.path (.str s) ∧ r.NamedBy s) ∧
      v.notices = danglingNotices undeclared ∧
      ∀ kind, Token.FirstOccurrences ((undeclared.filter fun r => r.kind = kind).map (·.name))
        (missingNames kind undeclared) := by
  obtain ⟨undeclared, hread, hdangling, rfl⟩ := Validation.accepted validated accepted
  obtain ⟨refs, hrefs, hundeclared⟩ := Definition.danglingReferences_eq_ok.mp hdangling
  have hdump := Definition.references_dump (Read.tidy_around_screens hread) hrefs
  rw [hdump] at hundeclared
  refine ⟨undeclared, hundeclared, rfl, fun r hr => ⟨rfl, ?_⟩, rfl, fun kind => ?_⟩
  · rw [hundeclared] at hr
    exact (Json.mem_references.mp (List.mem_filter.mp hr).1).located
  · exact Token.firstOccurrences_distinct _

/-- A theme with a list under a key it does not know, and a list whose action and follow-up name
one table and one screen again. -/
def galleryDocument : Json :=
  .obj [("version", .str "1"), ("initialScreen", .str "start"),
    ("app", .obj [("name", .str "Gallery"), ("designTokens", .obj [("brand", .str "#123456")]),
      ("theme", .obj [("primaryColor", .str "$brand"),
        ("shades", .arr [.str "$5.00", .str "$dark"])])]),
    ("screens", .obj [("home", .obj [("components", .arr [.obj [("type", .str "list"),
      ("dataSource", .obj [("table", .str "sales")]),
      ("action", .obj [("type", .str "submit"), ("table", .str "sales"),
        ("onSuccess", .obj [("type", .str "navigate"), ("target", .str "away"),
          ("screen", .str "start")])])]])])])]

theorem gallery_document_reported :
    ∃ v d, Validation.ofJson galleryDocument = .ok v ∧ v.definition = some d ∧
      v.warnings.map Issue.pathText =
        ["initialScreen", "app.theme.shades.1", "screens.home.components.0.dataSource.table",
         "screens.home.components.0.action.table",
         "screens.home.components.0.action.onSuccess.target",
         "screens.home.components.0.action.onSuccess.screen"] ∧
      ∃ undeclared, v.warnings = undeclared.map Reference.issue ∧
        missingNames .screen undeclared = ["start", "away"] ∧
        (∀ r ∈ undeclared, ∃ s, (d.dump .asWritten).Leads r.path (.str s) ∧ r.NamedBy s) := by
  refine ⟨_, _, rfl, rfl, rfl, ?_⟩
  obtain ⟨undeclared, rfl, hwarnings, hlocated, -, -⟩ :=
    @reference_report_exact galleryDocument _ _ rfl rfl
  exact ⟨_, hwarnings, rfl, fun r hr => (hlocated r hr).2⟩

end Storyboard
