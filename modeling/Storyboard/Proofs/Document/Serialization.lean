import Storyboard.Proofs.Document.Parts
import Storyboard.Proofs.Document.References
import Storyboard.Proofs.Json.RoundTrip

/-!
# Documents as text

A document that was accepted can be written, read and validated again. The settled document
comes back, with the same warnings, and it is written like the document. Where the document
was canonical and its numbers finite, the text holds the document itself.

All of this is said of legible documents. Of text nothing else could be said: a reader
refuses numbers of too many digits, and a double comes back only if its own text does.
-/
namespace Storyboard

/-- An accepted document was read and searched. -/
theorem Validation.accepted {data : Json} {v : Validation} {d : Definition}
    (hv : ofJson data = .ok v) (hd : v.definition = some d) :
    ∃ dangling, Read.definition data = .ok d ∧ d.danglingReferences = .ok dangling ∧
      v = ⟨some d, [], dangling.map Reference.issue, danglingNotices dangling⟩ := by
  unfold ofJson at hv
  split at hv
  · cases hv
    cases hd
  · rename_i read hread
    split at hv
    · cases hv
    · rename_i dangling hdangling
      cases hv
      cases hd
      exact ⟨dangling, hread, hdangling, rfl⟩

theorem Validation.ofJson_eq {data : Json} {d : Definition} {dangling : List Reference}
    (hread : Read.definition data = .ok d) (hdangling : d.danglingReferences = .ok dangling) :
    ofJson data =
      .ok ⟨some d, [], dangling.map Reference.issue, danglingNotices dangling⟩ := by
  rw [ofJson, hread]
  dsimp only
  rw [hdangling]

namespace Definition

theorem serialize?_eq_some {d : Definition} {indent : Option Nat} {t : String} :
    d.serialize? indent = some t ↔
      d.fits = true ∧ (d.dump .asWritten).write (.indented false indent) = t := by
  unfold serialize?
  split
  · rename_i hfits
    rw [Option.some_inj, and_iff_right hfits]
  · rename_i hfits
    refine ⟨fun h => ?_, fun h => absurd h.1 hfits⟩
    cases h

/-- A settled document is written like the document. -/
theorem serialize?_settled (d : Definition) (indent : Option Nat) :
    d.settled.serialize? indent = d.serialize? indent := by
  rw [serialize?, serialize?, fits_settled, dump_settled, Json.write_reread]

/-- What is read from the text of a document. -/
theorem read_serialize {d : Definition} {indent : Option Nat} {t : String}
    (hlegible : (d.dump .asWritten).Legible textBounds) (ht : d.serialize? indent = some t) :
    Json.read textBounds t = .ok (d.dump .asWritten).reread := by
  obtain ⟨hfits, rfl⟩ := serialize?_eq_some.mp ht
  exact Json.read_write (Json.Style.spaced_indented indent) hlegible (height_dump_le hfits)

end Definition

section Accepted

variable {data : Json} {v : Validation} {d : Definition} {indent : Option Nat} {t : String}

/-- The text of an accepted document is accepted again, with the same warnings in the same
order, and the document that comes back is written like the first one, however it is
indented. -/
theorem serialize_then_validate (legible : data.Legible textBounds)
    (validated : Validation.ofJson data = .ok v) (accepted : v.definition = some d)
    (written : d.serialize? indent = some t) :
    ∃ data' v' d', Json.read textBounds t = .ok data' ∧ Validation.ofJson data' = .ok v' ∧
      v'.definition = some d' ∧ v'.errors = [] ∧
      (∀ indent', d'.serialize? indent' = d.serialize? indent') ∧ v'.warnings = v.warnings := by
  obtain ⟨dangling, hread, hdangling, rfl⟩ := Validation.accepted validated accepted
  have hrestated := faithful_definition data d legible hread
  have hsettled : d.settled.danglingReferences = .ok dangling := by
    rw [d.danglingReferences_settled, hdangling]
  have hagain := Validation.ofJson_eq hrestated.again hsettled
  exact ⟨_, _, _, Definition.read_serialize hrestated.legible written, hagain, rfl, rfl,
    d.serialize?_settled, rfl⟩

/-- Plain names and both spellings of one key, a word and a number for truth values, a record
id with a fraction, numbers that are none, unknown keys, and four dangling references. -/
def looseDocument : Json :=
  .obj [("version", .str "1"), ("initial_screen", .str "home"), ("note", .arr [.float (.nan 0)]),
    ("app", .obj [("name", .str "Notes"), ("theme", .null),
      ("authentication", .obj [("enabled", .str "yes"), ("user_table", .str "users"),
        ("userTable", .str "people"), ("email_field", .str "email"),
        ("passwordField", .str "password"), ("postLoginScreen", .str "home"),
        ("authRedirectScreen", .str "welcome")])]),
    ("screens", .obj [("home", .obj [("requires_auth", .int 0),
      ("layout", .obj [("ratio", .float (.infinity true))]),
      ("components", .arr [.obj [("type", .str "button"), ("icon", .str "$trash"),
        ("action", .obj [("type", .str "deleteRecord"), ("table", .str "notes"),
          ("record_id", .float (.finite false 7881299347898368 (-50)))])]])])])]

theorem loose_document_reserialized :
    ∃ v d t, Validation.ofJson looseDocument = .ok v ∧ v.definition = some d ∧
      d.serialize? none = some t ∧ v.warnings.length = 4 ∧
      ∃ data' v' d', Json.read textBounds t = .ok data' ∧ Validation.ofJson data' = .ok v' ∧
        v'.definition = some d' ∧ v'.errors = [] ∧
        (∀ indent, d'.serialize? indent = d.serialize? indent) ∧ v'.warnings = v.warnings := by
  have hlegible : looseDocument.Legible textBounds := by decide
  refine ⟨_, _, _, rfl, rfl, rfl, rfl, ?_⟩
  exact @serialize_then_validate _ _ _ none _ hlegible rfl rfl rfl

/-- The text of an accepted document that is canonical, with finite numbers only, holds the
document: no key is lost, added or changed at any depth. -/
theorem serialize_canonical (legible : data.Legible textBounds)
    (canonical : data.canonical (.part .definition) = true) (finite : data.allFinite = true)
    (validated : Validation.ofJson data = .ok v) (accepted : v.definition = some d)
    (written : d.serialize? indent = some t) :
    ∃ data', Json.read textBounds t = .ok data' ∧ data'.Equivalent data := by
  obtain ⟨dangling, hread, -, -⟩ := Validation.accepted validated accepted
  have hrestated := faithful_definition data d legible hread
  exact ⟨_, Definition.read_serialize hrestated.legible written,
    hrestated.alike canonical finite⟩

/-- Unknown keys in the document, the app, a table, a column, a component and a button of a
popup; the keys of the innermost action in an order of their own. -/
def plainDocument : Json :=
  .obj [("version", .str "1"), ("initialScreen", .str "home"), ("owner", .str "ada"),
    ("app", .obj [("name", .str "Notes"), ("language", .arr [.str "en"]),
      ("databaseSchema", .obj [("notes", .obj [("rows", .int 3),
        ("fields", .obj [("done", .obj [("type", .str "boolean"), ("required", .bool true),
          ("initial_screen", .null)])])])])]),
    ("screens", .obj [("home", .obj [("requiresAuth", .bool false),
      ("components", .arr [.obj [("type", .str "button"), ("icon", .str "trash"),
        ("action", .obj [("type", .str "popup"), ("title", .str "Delete?"),
          ("message", .str "It is lost."), ("buttons", .arr [.obj [("text", .str "Yes"),
            ("width", .float (.finite false 4503599627370496 (-53))),
            ("action", .obj [("recordId", .int 7), ("table", .str "notes"),
              ("type", .str "deleteRecord")])]])])]])])])]

theorem plain_document_reread :
    ∃ v d t, Validation.ofJson plainDocument = .ok v ∧ v.definition = some d ∧
      d.serialize? (some 2) = some t ∧
      ∃ data', Json.read textBounds t = .ok data' ∧ data'.Equivalent plainDocument := by
  have hlegible : plainDocument.Legible textBounds := by decide
  have hcanonical : plainDocument.canonical (.part .definition) = true := by decide
  have hfinite : plainDocument.allFinite = true := by decide
  refine ⟨_, _, _, rfl, rfl, rfl, ?_⟩
  exact @serialize_canonical _ _ _ (some 2) _ hlegible hcanonical hfinite rfl rfl rfl

end Accepted

end Storyboard
