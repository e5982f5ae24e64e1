import Storyboard.Document.Validation
import Storyboard.Proofs.Document.Refusal
import Storyboard.Proofs.Json.Digits
import Storyboard.Settings

/-!
# Validations that break off

A validation accepts a text or refuses it with an error, unless it breaks off. It breaks off
in three ways and no other: the reader meets a whole number of too many digits; a document that
was read cannot be searched, since somewhere in it the `type` of an object is a list or an
object; or one of its screens is nested too deeply to be dumped for the search.

This is about texts whose escapes stand for characters. An escape for one half of a surrogate
pair, without the other half, stands for none, and what is made of such a text is left open.
-/
namespace Storyboard

/-- A computation stops at an error. -/
def Stops {ε α : Type} (x : Except ε α) : Prop := ∃ e, x = .error e

/-- The error a computation stops at. -/
def stoppedAt? {ε α : Type} : Except ε α → Option ε
  | .error e => some e
  | .ok _ => none

section Stops

variable {ε δ α β γ : Type}

@[simp] theorem not_stops_ok (a : α) : ¬ Stops (.ok a : Except ε α) := nofun

@[simp] theorem stops_error (e : ε) : Stops (.error e : Except ε α) := ⟨e, rfl⟩

@[simp] theorem stops_mapError (f : ε → δ) (x : Except ε α) : Stops (x.mapError f) ↔ Stops x := by
  cases x with
  | error e => exact ⟨fun _ => stops_error e, fun _ => stops_error (f e)⟩
  | ok a => exact ⟨fun h => absurd h (not_stops_ok a), fun h => absurd h (not_stops_ok a)⟩

@[simp] theorem stops_map (f : α → β) (x : Except ε α) : Stops (x.map f) ↔ Stops x := by
  cases x with
  | error e => exact ⟨fun _ => stops_error e, fun _ => stops_error e⟩
  | ok a => exact ⟨fun h => absurd h (not_stops_ok _), fun h => absurd h (not_stops_ok a)⟩

theorem stoppedAt?_eq_some {x : Except ε α} {e : ε} : stoppedAt? x = some e ↔ x = .error e := by
  cases x <;> simp [stoppedAt?]

/-- Two computations, one after the other, whose results are put together. -/
theorem stops_both (x : Except ε α) (y : Except ε β) (f : α → β → γ) :
    Stops (do let a ← x; let b ← y; .ok (f a b)) ↔ Stops x ∨ Stops y := by
  cases x with
  | error e => exact ⟨fun _ => .inl (stops_error e), fun _ => stops_error e⟩
  | ok a =>
    cases y with
    | error e => exact ⟨fun _ => .inr (stops_error e), fun _ => stops_error e⟩
    | ok b => exact ⟨fun h => absurd h (not_stops_ok _), fun h => by simp at h⟩

end Stops

/-- Lists and objects, the empty ones included. -/
def Json.isContainer : Json → Bool
  | .arr _ => true
  | .obj _ => true
  | _ => false

/-- Somewhere in a value, the `type` of an object is a container. -/
inductive Json.Unsearchable : Json → Prop
  | tag {fields : Assoc Json} {v : Json} (tag : Assoc.get? fields "type" = some v)
    (container : v.isContainer = true) : Unsearchable (.obj fields)
  | item {items : List Json} {v : Json} (listed : v ∈ items) (inside : Unsearchable v) :
    Unsearchable (.arr items)
  | field {fields : Assoc Json} {p : String × Json} (listed : p ∈ fields)
    (inside : Unsearchable p.2) : Unsearchable (.obj fields)

namespace Reference

theorem stops_lookUp (v : Json) : Stops (ActionKind.lookUp v) ↔ v.isContainer = true := by
  cases v <;> simp [ActionKind.lookUp, Json.isContainer]

/-- The references of an object are found unless its `type` is a container. -/
theorem stops_ofObject (path : List String) (fields : Assoc Json) :
    Stops (ofObject path fields) ↔
      ∃ v, Assoc.get? fields "type" = some v ∧ v.isContainer = true := by
  have htag : Stops (ofObject path fields) ↔
      Stops (ActionKind.lookUp ((Assoc.get? fields "type").getD .null)) := by
    unfold ofObject
    cases ActionKind.lookUp ((Assoc.get? fields "type").getD .null) with
    | error fault => exact ⟨fun _ => stops_error fault, fun _ => stops_error fault⟩
    | ok kind => exact ⟨fun h => absurd h (not_stops_ok _), fun h => absurd h (not_stops_ok _)⟩
  rw [htag, stops_lookUp]
  cases Assoc.get? fields "type" with
  | none => simp [Json.isContainer]
  | some v => simp

theorem stops_withinItems {items : List Json}
    (h : ∀ v ∈ items, ∀ path, Stops (within path v) ↔ v.Unsearchable) (path : List String)
    (index : Nat) : Stops (withinItems path index items) ↔ ∃ v ∈ items, v.Unsearchable := by
  induction items generalizing index with
  | nil => simp [withinItems]
  | cons v rest ih =>
    obtain ⟨hv, hrest⟩ := List.forall_mem_cons.mp h
    rw [withinItems, stops_both, hv, ih hrest, List.exists_mem_cons_iff]

theorem stops_withinFields {fields : List (String × Json)}
    (h : ∀ p ∈ fields, ∀ path, Stops (within path p.2) ↔ p.2.Unsearchable) (path : List String) :
    Stops (withinFields path fields) ↔ ∃ p ∈ fields, p.2.Unsearchable := by
  induction fields with
  | nil => simp [withinFields]
  | cons p rest ih =>
    obtain ⟨hp, hrest⟩ := List.forall_mem_cons.mp h
    rw [withinFields, stops_both, hp, ih hrest, List.exists_mem_cons_iff]

/-- A search stops at the values that cannot be searched, and at no others. -/
theorem stops_within (v : Json) : ∀ path, Stops (within path v) ↔ v.Unsearchable := by
  induction v using Json.induction with
  | arr items ih =>
    intro path
    rw [within, stops_withinItems ih]
    refine ⟨fun ⟨v, hv, h⟩ => .item hv h, fun h => ?_⟩
    cases h with
    | item listed inside => exact ⟨_, listed, inside⟩
  | obj fields ih =>
    intro path
    rw [within, stops_both, stops_ofObject, stops_withinFields ih]
    constructor
    · rintro (⟨v, htag, hcontainer⟩ | ⟨p, hp, h⟩)
      · exact .tag htag hcontainer
      · exact .field hp h
    · intro h
      cases h with
      | tag htag hcontainer => exact .inl ⟨_, htag, hcontainer⟩
      | field listed inside => exact .inr ⟨_, listed, inside⟩
  | _ => exact fun _ => ⟨fun h => absurd h (not_stops_ok _), fun h => nomatch h⟩

end Reference

namespace Definition

/-- A document that cannot be searched: a theme or a screen holds what cannot be, or a screen is
nested too deeply. -/
inductive Unsearchable (d : Definition) : Prop
  | theme {theme : Theme} (given : theme ∈ d.app.theme.toOption)
    (inside : (theme.dump .verbatim).Unsearchable)
  | screen {p : String × Screen} (listed : p ∈ d.screens)
    (inside : (p.2.dump .asWritten).Unsearchable)
  | deep {p : String × Screen} (listed : p ∈ d.screens) (deep : p.2.fits = false)

theorem stops_themeReferences (d : Definition) :
    Stops d.themeReferences ↔
      ∃ theme ∈ d.app.theme.toOption, (theme.dump .verbatim).Unsearchable := by
  unfold themeReferences
  cases d.app.theme with
  | value theme =>
    dsimp only
    rw [Reference.stops_within]
    simp [Slot.toOption]
  | _ => simp [Slot.toOption]

theorem stops_screenReferences (screens : List (String × Screen)) :
    Stops (screenReferences screens) ↔
      ∃ p ∈ screens, p.2.fits = false ∨ (p.2.dump .asWritten).Unsearchable := by
  induction screens with
  | nil => simp [screenReferences]
  | cons p rest ih =>
    rw [List.exists_mem_cons_iff, ← ih, screenReferences]
    cases hfits : p.2.fits with
    | false => exact ⟨fun _ => .inl (.inl rfl), fun _ => stops_error _⟩
    | true =>
      have hboth := stops_both ((Reference.within ["screens", p.1] (p.2.dump .asWritten)).mapError
        SearchFault.tag) (screenReferences rest) (· ++ ·)
      rw [stops_mapError, Reference.stops_within] at hboth
      simpa using hboth

/-- The dangling references of a document are found unless it cannot be searched. -/
theorem stops_danglingReferences (d : Definition) :
    Stops d.danglingReferences ↔ d.Unsearchable := by
  unfold danglingReferences references
  rw [stops_map, stops_both, stops_mapError, stops_themeReferences, stops_screenReferences]
  constructor
  · rintro (⟨theme, given, inside⟩ | ⟨p, listed, hdeep | hinside⟩)
    · exact .theme given inside
    · exact .deep listed hdeep
    · exact .screen listed hinside
  · intro h
    cases h with
    | theme given inside => exact .inl ⟨_, given, inside⟩
    | screen listed inside => exact .inr ⟨_, listed, .inr inside⟩
    | deep listed deep => exact .inr ⟨_, listed, .inl deep⟩

end Definition

/-- The reader of a text meets no half of a surrogate pair without the other half. -/
def Source.Paired (source : Source) : Prop :=
  ∀ s, source.characters = .ok s → Json.read textBounds s ≠ .error .unpaired

namespace Validation

/-- A document was accepted, with warnings at most. -/
def Accepts (v : Validation) : Prop := v.definition.isSome = true ∧ v.errors = []

/-- A document was refused, with an error at least and without warnings. -/
def Refuses (v : Validation) : Prop := v.definition = none ∧ v.errors ≠ [] ∧ v.warnings = []

/-- A validation accepts or refuses, and does not do both. -/
def Answers (v : Validation) : Prop := Xor v.Accepts v.Refuses

theorem answers_of_accepts {v : Validation} (h : v.Accepts) : v.Answers :=
  .inl ⟨h, fun hrefuses => hrefuses.2.1 h.2⟩

theorem answers_rejected {issues : List Issue} (h : issues ≠ []) : (rejected issues).Answers :=
  .inr ⟨⟨rfl, h, rfl⟩, fun haccepts => h haccepts.2⟩

/-- A validation of what was read breaks off if a document was read that cannot be searched, and
answers otherwise. -/
theorem ofJson_cases (data : Json) :
    (∃ d, Read.definition data = .ok d ∧ d.Unsearchable ∧ Stops (ofJson data)) ∨
      (∀ d, Read.definition data = .ok d → ¬ d.Unsearchable) ∧
        ∃ v, ofJson data = .ok v ∧ v.Answers := by
  have hreasons := Read.Reasons.definition data
  unfold ofJson
  generalize Read.definition data = document at hreasons ⊢
  cases document with
  | bad issues =>
    exact .inr ⟨(fun _ hread => by cases hread), rejected issues, rfl, answers_rejected hreasons⟩
  | ok d =>
    have hstops := d.stops_danglingReferences
    dsimp only
    cases hdangling : d.danglingReferences with
    | error fault =>
      rw [hdangling] at hstops
      exact .inl ⟨d, rfl, hstops.mp (stops_error fault), stops_error _⟩
    | ok dangling =>
      rw [hdangling] at hstops
      refine .inr ⟨fun d' hd' => ?_, _, rfl, answers_of_accepts ⟨rfl, rfl⟩⟩
      cases hd'
      exact fun h => not_stops_ok dangling (hstops.mpr h)

/-- Reading a text breaks off at nothing but a number of too many digits. -/
theorem readSource_eq_error {limit : Int} {source : Source} (paired : source.Paired)
    {b : Breakdown} (h : readSource limit source = .error b) :
    ∃ s n, source.characters = .ok s ∧ Json.DigitRun textBounds s.toList n ∧
      b = .tooManyDigits n := by
  unfold readSource at h
  cases hcharacters : source.characters with
  | error problem =>
    rw [hcharacters] at h
    cases h
  | ok s =>
    rw [hcharacters] at h
    dsimp only at h
    split at h
    · cases h
    · split at h <;> cases h
      · rename_i n hread
        exact ⟨s, n, rfl, Json.digitRun_of_read hread, rfl⟩
      · rename_i hread
        exact absurd hread (paired s hcharacters)

end Validation

/-- The ways in which the text of a document is neither accepted nor refused. -/
inductive Source.BreaksOff (limit : Int) (source : Source) : Prop
  /-- Digits of one whole number stand side by side in the text, and there are too many. -/
  | digits {s : String} {n : Nat} (characters : source.characters = .ok s)
    (run : Json.DigitRun textBounds s.toList n)
    (stopped : Validation.readSource limit source = .error (.tooManyDigits n))
  /-- A document was read from the text and cannot be searched. -/
  | search {data : Json} {d : Definition}
    (read : Validation.readSource limit source = .ok (.ok data))
    (document : Read.definition data = .ok d) (unsearchable : d.Unsearchable)

namespace Validation

variable {limit : Int} {source : Source}

/-- A validation stops in the listed ways. -/
theorem stops_of_breaksOff (h : source.BreaksOff limit) : Stops (ofSource limit source) := by
  unfold ofSource
  cases h with
  | digits _ _ stopped =>
    rw [stopped]
    exact stops_error _
  | @search data d read document unsearchable =>
    rw [read]
    obtain ⟨_, -, -, hstops⟩ | ⟨hall, -⟩ := ofJson_cases data
    · exact hstops
    · exact absurd unsearchable (hall d document)

/-- It stops in no other. -/
theorem breaksOff_of_stops (paired : source.Paired) (h : Stops (ofSource limit source)) :
    source.BreaksOff limit := by
  obtain ⟨b, hb⟩ := h
  unfold ofSource at hb
  split at hb
  · rename_i breakdown hread
    obtain ⟨s, count, hcharacters, hrun, rfl⟩ := readSource_eq_error paired hread
    exact .digits hcharacters hrun hread
  · cases hb
  · rename_i data hread
    obtain ⟨d, hd, hunsearchable, -⟩ | ⟨-, v, hv, -⟩ := ofJson_cases data
    · exact .search hread hd hunsearchable
    · exact nomatch hb.symm.trans hv

/-- A validation that does not stop accepts or refuses. -/
theorem answers_ofSource {v : Validation} (h : ofSource limit source = .ok v) : v.Answers := by
  unfold ofSource at h
  split at h
  · cases h
  · cases h
    exact answers_rejected (List.cons_ne_nil _ _)
  · rename_i data hread
    obtain ⟨_, -, -, b, hb⟩ | ⟨-, v', hv', hanswers⟩ := ofJson_cases data
    · exact nomatch h.symm.trans hb
    · cases h.symm.trans hv'
      exact hanswers

end Validation

/-- A validation breaks off, in one of the known ways, or it either accepts a document without
errors or refuses it with an error at least and without warnings. -/
theorem validation_answers_or_breaks_off (limit : Int) (source : Source)
    (paired : source.Paired) :
    source.BreaksOff limit ∧ Stops (Validation.ofSource limit source) ∨
      ¬ source.BreaksOff limit ∧
        ∃ v, Validation.ofSource limit source = .ok v ∧ v.Answers := by
  cases hvalidated : Validation.ofSource limit source with
  | error b => exact .inl ⟨Validation.breaksOff_of_stops paired ⟨b, hvalidated⟩, stops_error b⟩
  | ok v =>
    refine .inr ⟨fun h => ?_, v, rfl, Validation.answers_ofSource hvalidated⟩
    have hstops := Validation.stops_of_breaksOff h
    rw [hvalidated] at hstops
    exact not_stops_ok v hstops

/-- The text of a document with a note in a screen, an unknown key: the `type` of the note is a
list. -/
def labelledText : String :=
  Json.write .compact (.obj [("version", .str "1"), ("app", .obj [("name", .str "Notes")]),
    ("screens", .obj [("home", .obj [("components", .arr []),
      ("note", .obj [("type", .arr [.str "label"])])])]),
    ("initialScreen", .str "home")])

/-- A text that can be read is one whose reader met no half of a pair. -/
theorem Source.paired_of_read {s : String}
    (h : (stoppedAt? (Json.read textBounds s)).isNone = true) :
    (Source.text s).Paired := by
  rintro _ ⟨⟩ hunpaired
  rw [hunpaired] at h
  cases h

theorem labelled_text_breaks_off :
    (Source.text labelledText).Paired ∧
      (Source.text labelledText).BreaksOff Settings.default.maxDefinitionBytes := by
  have hpaired : (Source.text labelledText).Paired := Source.paired_of_read (by decide +kernel)
  have hstopped : (stoppedAt? (Validation.ofSource Settings.default.maxDefinitionBytes
      (.text labelledText))).isSome = true := by decide +kernel
  refine ⟨hpaired, ?_⟩
  obtain ⟨hbreaks, -⟩ | ⟨-, v, hv, -⟩ := validation_answers_or_breaks_off
    Settings.default.maxDefinitionBytes (.text labelledText) hpaired
  · exact hbreaks
  · rw [hv] at hstopped
    cases hstopped

/-- The validation neither accepts the document nor refuses it. -/
theorem labelled_note_breaks_off :
    Validation.ofSource Settings.default.maxDefinitionBytes (.text labelledText) =
        .error (.search (.tag .list)) ∧
      ¬ ∀ (limit : Int) (source : Source),
        ∃ v, Validation.ofSource limit source = .ok v ∧ v.Answers := by
  have hstopped : Validation.ofSource Settings.default.maxDefinitionBytes (.text labelledText) =
      .error (.search (.tag .list)) := stoppedAt?_eq_some.mp (by decide +kernel)
  refine ⟨hstopped, fun never => ?_⟩
  obtain ⟨v, hv, -⟩ := never Settings.default.maxDefinitionBytes (.text labelledText)
  rw [hstopped] at hv
  cases hv

end Storyboard
