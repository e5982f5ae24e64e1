import Storyboard.Proofs.Document.BreakingOff
import Storyboard.Proofs.Document.Serialization

/-!
# Saving what was accepted

A validation accepts values without a declared kind however deep they are, but the text of a
document has no more than `nestingLimit` levels of them. Of the screens the validation makes
sure: it dumps every one. What stands outside of the screens it never dumps, so an accepted
document has a text if and only if what it keeps there is not too deep.

A text that escapes half of a surrogate pair is never accepted, so nothing is said of it.
-/
namespace Storyboard

/-- A value without a declared kind that a document keeps outside of its screens. -/
inductive Definition.KeptOutside (d : Definition) : Json → Prop
  | document {p : String × Json} (extra : p ∈ d.extra) : KeptOutside d p.2
  | app {p : String × Json} (extra : p ∈ d.app.extra) : KeptOutside d p.2
  | theme {theme : Theme} {p : String × Json} (given : theme ∈ d.app.theme.toOption)
    (extra : p ∈ theme.extra) : KeptOutside d p.2
  | authentication {auth : Authentication} {p : String × Json}
    (given : auth ∈ d.app.authentication.toOption) (extra : p ∈ auth.extra) : KeptOutside d p.2
  | table {tables : Assoc Table} {table : String × Table} {p : String × Json}
    (given : tables ∈ d.app.databaseSchema.toOption) (declared : table ∈ tables)
    (extra : p ∈ table.2.extra) : KeptOutside d p.2
  | column {tables : Assoc Table} {table : String × Table} {column : String × Column}
    {p : String × Json} (given : tables ∈ d.app.databaseSchema.toOption)
    (declared : table ∈ tables) (field : column ∈ table.2.fields)
    (extra : p ∈ column.2.extra) : KeptOutside d p.2
  | default {tables : Assoc Table} {table : String × Table} {column : String × Column} {v : Json}
    (given : tables ∈ d.app.databaseSchema.toOption) (declared : table ∈ tables)
    (field : column ∈ table.2.fields) (value : v ∈ column.2.default) : KeptOutside d v

theorem fieldsFit_iff {levels : Nat} {fields : Assoc Json} :
    fieldsFit levels fields = true ↔ ∀ p ∈ fields, p.2.height ≤ levels := by
  rw [fieldsFit, decide_eq_true_eq, Json.heightFields_le]

theorem optionFits_iff {levels : Nat} {x : Option Json} :
    optionFits levels x = true ↔ ∀ v ∈ x, v.height ≤ levels := by
  cases x with
  | none => simp [optionFits]
  | some v => simp [optionFits, valueFits]

theorem Column.fits_iff {c : Column} :
    c.fits = true ↔ (∀ v ∈ c.default, v.height ≤ nestingLimit) ∧
      ∀ p ∈ c.extra, p.2.height ≤ nestingLimit := by
  rw [fits, Bool.and_eq_true, optionFits_iff, fieldsFit_iff]

theorem Table.fits_iff {t : Table} :
    t.fits = true ↔ (∀ c ∈ t.fields, c.2.fits = true) ∧
      ∀ p ∈ t.extra, p.2.height ≤ nestingLimit := by
  rw [fits, Bool.and_eq_true, List.all_eq_true, fieldsFit_iff]

theorem Metadata.fits_iff {m : Metadata} :
    m.fits = true ↔
      (∀ theme ∈ m.theme.toOption, ∀ p ∈ theme.extra, p.2.height ≤ nestingLimit) ∧
      (∀ tables ∈ m.databaseSchema.toOption, ∀ t ∈ tables, t.2.fits = true) ∧
      (∀ auth ∈ m.authentication.toOption, ∀ p ∈ auth.extra, p.2.height ≤ nestingLimit) ∧
      ∀ p ∈ m.extra, p.2.height ≤ nestingLimit := by
  obtain ⟨name, theme, tokens, schema, auth, extra⟩ := m
  rw [fits]
  simp only [Bool.and_eq_true, and_assoc, fieldsFit_iff]
  refine and_congr ?_ (and_congr ?_ (and_congr_left' ?_))
  · cases theme <;> simp [Slot.toOption, fieldsFit_iff]
  · cases schema <;> simp [Slot.toOption]
  · cases auth <;> simp [Slot.toOption, fieldsFit_iff]

namespace Definition

/-- What a document keeps outside of its screens fits, each value on its own. -/
theorem fits_iff {d : Definition} :
    d.fits = true ↔ (∀ p ∈ d.screens, p.2.fits = true) ∧
      ∀ v, d.KeptOutside v → v.height ≤ nestingLimit := by
  rw [fits, Bool.and_eq_true, Bool.and_eq_true, Metadata.fits_iff, List.all_eq_true, fieldsFit_iff]
  constructor
  · rintro ⟨⟨⟨htheme, htables, hauth, happ⟩, hscreens⟩, hextra⟩
    refine ⟨hscreens, fun v hkept => ?_⟩
    cases hkept with
    | document extra => exact hextra _ extra
    | app extra => exact happ _ extra
    | theme given extra => exact htheme _ given _ extra
    | authentication given extra => exact hauth _ given _ extra
    | table given declared extra => exact (Table.fits_iff.mp (htables _ given _ declared)).2 _ extra
    | column given declared field extra =>
      have htable := Table.fits_iff.mp (htables _ given _ declared)
      exact (Column.fits_iff.mp (htable.1 _ field)).2 _ extra
    | default given declared field value =>
      have htable := Table.fits_iff.mp (htables _ given _ declared)
      exact (Column.fits_iff.mp (htable.1 _ field)).1 _ value
  · rintro ⟨hscreens, hkept⟩
    have htables : ∀ tables ∈ d.app.databaseSchema.toOption, ∀ t ∈ tables, t.2.fits = true := by
      intro tables given t declared
      refine Table.fits_iff.mpr ⟨fun c field => Column.fits_iff.mpr ⟨fun v value => ?_,
        fun p extra => ?_⟩, fun p extra => ?_⟩
      · exact hkept v (.default given declared field value)
      · exact hkept p.2 (.column given declared field extra)
      · exact hkept p.2 (.table given declared extra)
    refine ⟨⟨⟨fun theme given p extra => ?_, htables, fun auth given p extra => ?_,
      fun p extra => ?_⟩, hscreens⟩, fun p extra => ?_⟩
    · exact hkept p.2 (.theme given extra)
    · exact hkept p.2 (.authentication given extra)
    · exact hkept p.2 (.app extra)
    · exact hkept p.2 (.document extra)

/-- There is a text for the documents that fit. -/
theorem isSome_serialize? (d : Definition) (indent : Option Nat) :
    (d.serialize? indent).isSome = true ↔ d.fits = true := by
  rw [serialize?]
  cases d.fits <;> simp

end Definition

namespace Validation

/-- The screens of an accepted document were dumped for the search. -/
theorem screens_fit {data : Json} {v : Validation} {d : Definition} (h : ofJson data = .ok v)
    (given : v.definition = some d) : ∀ p ∈ d.screens, p.2.fits = true := by
  obtain ⟨dangling, -, hdangling, -⟩ := accepted h given
  have hsearched : ¬ Stops d.danglingReferences := by simp [hdangling]
  intro p listed
  by_contra hdeep
  rw [Definition.stops_danglingReferences] at hsearched
  exact hsearched (.deep listed (Bool.eq_false_iff.mpr hdeep))

theorem of_ofSource {limit : Int} {source : Source} {v : Validation} {d : Definition}
    (h : ofSource limit source = .ok v) (given : v.definition = some d) :
    ∃ data, readSource limit source = .ok (.ok data) ∧ ofJson data = .ok v := by
  unfold ofSource at h
  cases hread : readSource limit source with
  | error breakdown =>
    rw [hread] at h
    cases h
  | ok sourced =>
    cases sourced with
    | error problem =>
      rw [hread] at h
      cases h
      cases given
    | ok data =>
      rw [hread] at h
      exact ⟨data, rfl, h⟩

end Validation

/-- An accepted document has a text, whatever the indent, if and only if no value that it keeps
outside of its screens is nested too deeply. -/
theorem accepted_document_saved_iff {limit : Int} {source : Source} {v : Validation}
    {d : Definition} (accepted : Validation.ofSource limit source = .ok v)
    (given : v.definition = some d) (indent : Option Nat) :
    (d.serialize? indent).isSome = true ↔ ∀ w, d.KeptOutside w → w.height ≤ nestingLimit := by
  obtain ⟨data, -, hvalidated⟩ := Validation.of_ofSource accepted given
  rw [Definition.isSome_serialize?, Definition.fits_iff]
  exact and_iff_right (Validation.screens_fit hvalidated given)

section Notes

/-- A document with a note beside its screens, an unknown key. -/
def notedDocument (note : Json) : Json :=
  .obj [("version", .str "1"), ("app", .obj [("name", .str "Notes")]),
    ("screens", .obj [("home", .obj [("components", .arr [])])]), ("initialScreen", .str "home"),
    ("note", note)]

def notedDefinition (note : Json) : Definition where
  version := "1"
  app := ⟨"Notes", .absent, .absent, .absent, .absent, []⟩
  screens := [("home", ⟨.absent, .absent, none, .value [], none, []⟩)]
  initialScreen := "home"
  extra := [("note", note)]

def notedText (note : Json) : String := (notedDocument note).write (.indented false none)

/-- Whatever the note is, the document is accepted. -/
theorem ofJson_notedDocument (note : Json) :
    Validation.ofJson (notedDocument note) = .ok ⟨some (notedDefinition note), [], [], []⟩ := by
  have hread : Read.definition (notedDocument note) = .ok (notedDefinition note) := rfl
  have hdangling : (notedDefinition note).danglingReferences = .ok [] := rfl
  exact Validation.ofJson_eq hread hdangling

theorem legible_notedDocument {note : Json} {bounds : Json.Bounds} (legible : note.Legible bounds) :
    (notedDocument note).Legible bounds := by
  have hscreen : (Json.obj [("components", .arr [])]).Legible bounds :=
    .obj _ (by decide) (by simpa using .arr [] (by simp))
  have hscreens : (Json.obj [("home", .obj [("components", .arr [])])]).Legible bounds :=
    .obj _ (by decide) (by simpa using hscreen)
  have happ : (Json.obj [("name", .str "Notes")]).Legible bounds :=
    .obj _ (by decide) (by simpa using .str "Notes")
  refine .obj _ (by simp [Assoc.keys]) ?_
  simp only [List.forall_mem_cons]
  exact ⟨.str _, happ, hscreens, .str _, legible, List.forall_mem_nil _⟩

/-- The text of the document is accepted as well, if a reader of JSON text takes the note. -/
theorem ofSource_notedText {note : Json} {limit : Int} (legible : note.Legible textBounds)
    (levels : note.height < textBounds.depth)
    (size : ((notedText note).utf8ByteSize : Int) ≤ limit) :
    Validation.ofSource limit (.text (notedText note)) =
      .ok ⟨some (notedDefinition note.reread), [], [], []⟩ := by
  have hheight : (notedDocument note).height ≤ textBounds.depth := by
    have hthree : 3 ≤ textBounds.depth - 1 := by decide
    simp only [notedDocument, Json.height, Json.heightFields, Json.heightItems]
    omega
  have hread := Json.read_write (Json.Style.spaced_indented none) (legible_notedDocument legible)
    hheight
  have hsource : Validation.readSource limit (.text (notedText note)) =
      .ok (.ok (notedDocument note.reread)) := by
    simp only [Validation.readSource, Source.characters]
    rw [if_neg (not_lt.mpr size), notedText, hread]
    rfl
  rw [Validation.ofSource, hsource]
  exact ofJson_notedDocument note.reread

/-- The note is all that the document keeps outside of its screens. -/
theorem keptOutside_notedDefinition {note v : Json} :
    (notedDefinition note).KeptOutside v ↔ v = note := by
  constructor
  · intro hkept
    cases hkept with
    | document extra =>
      cases List.mem_singleton.mp extra
      rfl
    | app extra => cases extra
    | theme given => cases given
    | authentication given => cases given
    | table given => cases given
    | column given => cases given
    | default given => cases given
  · rintro rfl
    have hextra : ("note", v) ∈ (notedDefinition v).extra := List.mem_singleton_self _
    exact .document hextra

/-- The text of the document is as long as the text of the note makes it. -/
theorem utf8ByteSize_notedText (note : Json) :
    (notedText note).utf8ByteSize + (Json.null.writeAt (.plain false) 1).utf8ByteSize =
      (notedText .null).utf8ByteSize + (note.writeAt (.plain false) 1).utf8ByteSize := by
  simp only [notedText, notedDocument, Json.write, Json.Style.indented, Json.writeAt,
    Json.writeFields, String.utf8ByteSize_append, Nat.zero_add]
  omega

end Notes

namespace Json

theorem reread_wrapped (n : Nat) : (wrapped n).reread = wrapped n := by
  induction n with
  | zero => rfl
  | succ n ih => rw [wrapped, reread_arr, List.map_singleton, ih]

theorem utf8ByteSize_wrapped (depth n : Nat) :
    ((wrapped n).writeAt (.plain false) depth).utf8ByteSize = 2 * (n + 1) := by
  induction n generalizing depth with
  | zero => rfl
  | succ n ih =>
    have hopening : "[".utf8ByteSize = 1 := rfl
    have hclosing : "]".utf8ByteSize = 1 := rfl
    have hempty : "".utf8ByteSize = 0 := rfl
    simp only [Style.plain] at ih
    simp only [wrapped, writeAt, writeItems, Style.lineBreak, Style.plain,
      String.utf8ByteSize_append, ih]
    omega

end Json

/-- The text of a document with a note of some levels is accepted. -/
theorem ofSource_wrapped {n : Nat} (levels : n + 1 < textBounds.depth) :
    Validation.ofSource Settings.default.maxDefinitionBytes (.text (notedText (.wrapped n))) =
      .ok ⟨some (notedDefinition (.wrapped n)), [], [], []⟩ := by
  have hheight : (Json.wrapped n).height < textBounds.depth := by rwa [Json.height_wrapped]
  have hsize : ((notedText (.wrapped n)).utf8ByteSize : Int) ≤
      Settings.default.maxDefinitionBytes := by
    have hwrapped := utf8ByteSize_notedText (.wrapped n)
    have hnull : (notedText .null).utf8ByteSize < 1000 := by decide +kernel
    have hlimit : Settings.default.maxDefinitionBytes = 2000000 := rfl
    have hdepth : textBounds.depth = 980 := rfl
    rw [Json.utf8ByteSize_wrapped] at hwrapped
    omega
  have haccepted := ofSource_notedText (Json.legible_wrapped textBounds n) hheight hsize
  rwa [Json.reread_wrapped] at haccepted

/-- A note of three levels can be saved. -/
theorem shallow_note_saved :
    ((notedDefinition (.wrapped 2)).serialize? (some 2)).isSome = true := by
  have haccepted := ofSource_wrapped (n := 2) (by decide)
  refine (accepted_document_saved_iff haccepted rfl (some 2)).mpr fun w hkept => ?_
  rw [keptOutside_notedDefinition] at hkept
  rw [hkept, Json.height_wrapped]
  decide

/-- A note of one level too many is accepted without errors, and then there is no text for it. -/
theorem deep_note_not_saved :
    (∃ v d, Validation.ofSource Settings.default.maxDefinitionBytes
        (.text (notedText (.wrapped 255))) = .ok v ∧ v.succeeded = true ∧
      v.definition = some d ∧ ∀ indent, d.serialize? indent = none) ∧
    ¬ ∀ (limit : Int) (source : Source) (v : Validation) (d : Definition) (indent : Option Nat),
      Validation.ofSource limit source = .ok v → v.succeeded = true → v.definition = some d →
        (d.serialize? indent).isSome = true := by
  have haccepted := ofSource_wrapped (n := 255) (by decide)
  have hdeep : (notedDefinition (.wrapped 255)).fits = false := by decide +kernel
  have hnone : ∀ indent, (notedDefinition (.wrapped 255)).serialize? indent = none := by
    intro indent
    rw [Definition.serialize?, hdeep]
    rfl
  refine ⟨⟨_, _, haccepted, rfl, rfl, hnone⟩, fun saved => ?_⟩
  have hsome := saved _ _ _ _ none haccepted rfl rfl
  rw [hnone] at hsome
  cases hsome

end Storyboard
