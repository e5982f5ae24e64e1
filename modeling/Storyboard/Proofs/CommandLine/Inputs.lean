import Storyboard.CommandLine
import Storyboard.Proofs.Document.BreakingOff

/-!
# What a run works on

A run is given the name of a document and options, which may name a file with the seed and one
with the entries to replay. An option that is left out brings a fallback; one that is there
brings what its file holds, if that is of the right kind. A file that is missing or malformed, or
holds the wrong kind of value, leads to a complaint; but one that asks too much of the reader
stops the command. Of files with half a surrogate pair nothing is said.
-/
namespace Storyboard.CommandLine

/-- A file holds a value as JSON. -/
def Holds (world : World) (path : String) (v : Json) : Prop :=
  ∃ s, readText world path = .ok s ∧ Json.read textBounds s = .ok v

/-- A file asks too much of the reader: it is nested too deeply, or a whole number in it has too
many digits. -/
def Overtaxes (world : World) (path : String) : Prop :=
  ∃ s, readText world path = .ok s ∧
    (Json.read textBounds s = .error .tooDeep ∨
      ∃ count, Json.read textBounds s = .error (.tooManyDigits count))

/-- The reader of a file meets no half of a surrogate pair without the other half. -/
def PairedFile (world : World) (path : String) : Prop :=
  ∀ s, readText world path = .ok s → (Source.text s).Paired

/-- The same of all files that some arguments name. -/
def Paired (world : World) (args : List String) : Prop := ∀ path ∈ args, PairedFile world path

/-- What an option brings: the fallback if it names no file, else what the file holds, if that is
of the right kind. -/
inductive Brings {α : Type} (world : World) (pick : Json → Option α) (fallback : α) :
    Option String → α → Prop
  | fallback : Brings world pick fallback none fallback
  | file {path : String} {v : Json} {a : α} (holds : Holds world path v) (kind : pick v = some a) :
    Brings world pick fallback (some path) a

section Files

variable {world : World} {path label : String}

theorem readJson_eq_value {v : Json} :
    readJson world path label = .value v ↔ Holds world path v := by
  unfold readJson Holds
  cases readText world path with
  | error complaint => exact ⟨nofun, nofun⟩
  | ok s =>
    dsimp only
    cases hread : Json.read textBounds s with
    | ok w =>
      constructor
      · rintro ⟨⟩
        exact ⟨s, rfl, hread⟩
      · rintro ⟨_, ⟨⟩, hv⟩
        rw [hread] at hv
        cases hv
        rfl
    | error fault =>
      refine ⟨fun h => ?_, fun ⟨_, hs, hv⟩ => ?_⟩
      · cases fault <;> cases h
      · cases hs
        rw [hread] at hv
        cases hv

theorem stopped_of_overtaxes (h : Overtaxes world path) (label : String) :
    ∃ s, readJson world path label = .stopped s := by
  obtain ⟨s, hs, hdeep | ⟨count, hdigits⟩⟩ := h
  · exact ⟨.tooDeepToRead, by simp only [readJson, hs, hdeep]⟩
  · exact ⟨.breakdown (.tooManyDigits count), by simp only [readJson, hs, hdigits]⟩

theorem overtaxes_of_stopped (paired : PairedFile world path) {stop : Stop}
    (h : readJson world path label = .stopped stop) : Overtaxes world path := by
  unfold readJson at h
  cases hs : readText world path with
  | error complaint =>
    rw [hs] at h
    cases h
  | ok s =>
    rw [hs] at h
    dsimp only at h
    refine ⟨s, hs, ?_⟩
    cases hread : Json.read textBounds s with
    | ok v =>
      rw [hread] at h
      cases h
    | error fault =>
      rw [hread] at h
      cases fault with
      | malformed fault rest => cases h
      | tooDeep => exact .inl rfl
      | tooManyDigits count => exact .inr ⟨count, rfl⟩
      | unpaired => exact absurd hread (paired s hs s rfl)

variable {α : Type} {pick : Json → Option α} {fallback : α} {complaint : String}
  {option : Option String}

theorem readOption_eq_ok {a : α} :
    readOption world option label fallback pick complaint = .ok a ↔
      Brings world pick fallback option a := by
  unfold readOption
  cases option with
  | none =>
    constructor
    · rintro ⟨⟩
      exact .fallback
    · rintro ⟨⟩
      rfl
  | some path =>
    dsimp only
    constructor
    · intro h
      split at h
      · cases h
      · cases h
      · rename_i v hvalue
        split at h <;> cases h
        exact .file (readJson_eq_value.mp hvalue) ‹_›
    · intro h
      cases h with
      | file holds kind =>
        rw [readJson_eq_value.mpr holds]
        dsimp only
        rw [kind]

/-- An option whose file asks too much of the reader stops the command. -/
theorem readOption_of_overtaxes (label : String) (pick : Json → Option α) (fallback : α)
    (complaint : String) (h : ∃ file ∈ option, Overtaxes world file) :
    ∃ s, readOption world option label fallback pick complaint = .error (stop s) := by
  obtain ⟨file, hfile, hovertaxes⟩ := h
  cases hfile
  obtain ⟨s, hs⟩ := stopped_of_overtaxes hovertaxes label
  exact ⟨s, by rw [readOption, hs]⟩

/-- An option that brings nothing overtaxes the reader or leads to a complaint. -/
theorem readOption_eq_error (paired : ∀ file ∈ option, PairedFile world file) {output : Output}
    (h : readOption world option label fallback pick complaint = .error output) :
    (∃ file ∈ option, Overtaxes world file) ∨
      ∃ complaints, complaints ≠ [] ∧ output = exit 1 [] complaints := by
  cases option with
  | none => cases h
  | some path =>
    unfold readOption at h
    dsimp only at h
    split at h
    · rename_i s hstopped
      exact .inl ⟨path, rfl, overtaxes_of_stopped (paired path rfl) hstopped⟩
    · cases h
      exact .inr ⟨_, List.cons_ne_nil _ _, rfl⟩
    · split at h <;> cases h
      exact .inr ⟨_, List.cons_ne_nil _ _, rfl⟩

/-- The files of a replay ask too much of the reader; the seed is read first. -/
inductive Options.Overtax (world : World) (options : Options) : Prop
  | data (file : ∃ file ∈ options.data, Overtaxes world file)
  | actions {seed : Assoc Json} (data : Brings world Json.fields? [] options.data seed)
    (file : ∃ file ∈ options.actions, Overtaxes world file)

/-- The seed and the entries of a replay. -/
def readInputs (world : World) (options : Options) : Except Output (Assoc Json × List Json) := do
  let seed ← readOption world options.data "data" [] Json.fields?
    "Error: Data file must contain an object of table -> records"
  let entries ← readOption world options.actions "actions" [] listOf?
    "Error: Actions file must contain a list"
  Except.ok (seed, entries)

variable {options : Options}

theorem readInputs_of_brings {seed : Assoc Json} {entries : List Json}
    (data : Brings world Json.fields? [] options.data seed)
    (actions : Brings world listOf? [] options.actions entries) :
    readInputs world options = .ok (seed, entries) := by
  rw [readInputs, readOption_eq_ok.mpr data, readOption_eq_ok.mpr actions]
  rfl

theorem readInputs_of_overtax (h : options.Overtax world) :
    ∃ s, readInputs world options = .error (stop s) := by
  cases h with
  | data file =>
    obtain ⟨s, hs⟩ := readOption_of_overtaxes "data" Json.fields? []
      "Error: Data file must contain an object of table -> records" file
    exact ⟨s, by rw [readInputs, hs]; rfl⟩
  | actions data file =>
    obtain ⟨s, hs⟩ := readOption_of_overtaxes "actions" listOf? []
      "Error: Actions file must contain a list" file
    exact ⟨s, by rw [readInputs, readOption_eq_ok.mpr data, hs]; rfl⟩

/-- Seed and entries are there, or they overtax the reader, or there is a complaint. -/
theorem readInputs_cases (data : ∀ file ∈ options.data, PairedFile world file)
    (actions : ∀ file ∈ options.actions, PairedFile world file) :
    (∃ seed entries, readInputs world options = .ok (seed, entries) ∧
        Brings world Json.fields? [] options.data seed ∧
        Brings world listOf? [] options.actions entries) ∨
      options.Overtax world ∨
      ∃ complaints, complaints ≠ [] ∧
        readInputs world options = .error (exit 1 [] complaints) := by
  unfold readInputs
  cases hdata : readOption world options.data "data" [] Json.fields?
      "Error: Data file must contain an object of table -> records" with
  | error output =>
    obtain hovertaxes | ⟨complaints, hne, rfl⟩ := readOption_eq_error data hdata
    · exact .inr (.inl (.data hovertaxes))
    · exact .inr (.inr ⟨complaints, hne, rfl⟩)
  | ok seed =>
    have hseed := readOption_eq_ok.mp hdata
    cases hactions : readOption world options.actions "actions" [] listOf?
        "Error: Actions file must contain a list" with
    | error output =>
      obtain hovertaxes | ⟨complaints, hne, rfl⟩ := readOption_eq_error actions hactions
      · exact .inr (.inl (.actions hseed hovertaxes))
      · exact .inr (.inr ⟨complaints, hne, rfl⟩)
    | ok entries => exact .inl ⟨seed, entries, rfl, hseed, readOption_eq_ok.mp hactions⟩

end Files

/-- The files of a replay are named by its arguments, or were named before. -/
theorem mem_of_readOptions {args : List String} {before options : Options}
    (h : readOptions before args = .ok options) :
    (∀ file ∈ options.data, file ∈ before.data ∨ file ∈ args) ∧
      ∀ file ∈ options.actions, file ∈ before.actions ∨ file ∈ args := by
  fun_induction readOptions before args with
  | case1 => cases h; exact ⟨fun _ => .inl, fun _ => .inl⟩
  | case2 before flag _ path rest ih =>
    obtain ⟨hdata, hactions⟩ := ih h
    refine ⟨fun file hfile => .inr ?_, fun file hfile => ?_⟩
    · rcases hdata file hfile with hnew | hrest
      · cases hnew
        exact .tail _ (.head _)
      · exact .tail _ (.tail _ hrest)
    · exact (hactions file hfile).imp_right fun hrest => .tail _ (.tail _ hrest)
  | case3 => cases h
  | case4 before flag _ _ path rest ih =>
    obtain ⟨hdata, hactions⟩ := ih h
    refine ⟨fun file hfile => ?_, fun file hfile => .inr ?_⟩
    · exact (hdata file hfile).imp_right fun hrest => .tail _ (.tail _ hrest)
    · rcases hactions file hfile with hnew | hrest
      · cases hnew
        exact .tail _ (.head _)
      · exact .tail _ (.tail _ hrest)
  | case5 => cases h
  | case6 => cases h

/-- The files of a replay are among those that the arguments name. -/
theorem Paired.options {world : World} {path : String} {args : List String} {options : Options}
    (paired : Paired world (path :: args)) (read : readOptions ⟨none, none⟩ args = .ok options) :
    (∀ file ∈ options.data, PairedFile world file) ∧
      ∀ file ∈ options.actions, PairedFile world file := by
  obtain ⟨hdata, hactions⟩ := mem_of_readOptions read
  refine ⟨fun file hfile => ?_, fun file hfile => ?_⟩
  · exact paired file (.tail _ ((hdata file hfile).resolve_left (Option.not_mem_none file)))
  · exact paired file (.tail _ ((hactions file hfile).resolve_left (Option.not_mem_none file)))

/-- The arguments name a document, which is there, and options. -/
inductive Names (world : World) : List String → String → Options → Prop
  | mk {path text : String} {rest : List String} {options : Options}
    (read : readOptions ⟨none, none⟩ rest = .ok options)
    (document : readText world path = .ok text) : Names world (path :: rest) text options

/-- The text of a document, the seed and the entries of a replay. -/
structure Inputs where
  text : String
  seed : Assoc Json
  entries : List Json

/-- The arguments name a document, and seed and entries can be read. -/
structure Supplies (world : World) (args : List String) (i : Inputs) : Prop where
  files : ∃ options, Names world args i.text options ∧
    Brings world Json.fields? [] options.data i.seed ∧
    Brings world listOf? [] options.actions i.entries

section Inputs

variable {world : World} {args : List String} {i i' : Inputs}

theorem Names.unique {text text' : String} {options options' : Options}
    (h : Names world args text options) (h' : Names world args text' options') :
    text = text' ∧ options = options' := by
  cases h with
  | mk read document =>
    cases h' with
    | mk read' document' =>
      exact ⟨Except.ok.inj (document.symm.trans document'), Except.ok.inj (read.symm.trans read')⟩

/-- What the inputs are is decided by the arguments. -/
theorem Supplies.unique (h : Supplies world args i) (h' : Supplies world args i') :
    i = i' := by
  obtain ⟨options, named, data, actions⟩ := h.files
  obtain ⟨options', named', data', actions'⟩ := h'.files
  obtain ⟨htext, rfl⟩ := named.unique named'
  have hread := (readInputs_of_brings data actions).symm.trans (readInputs_of_brings data' actions')
  obtain ⟨hseed, hentries⟩ := Prod.mk.inj (Except.ok.inj hread)
  rcases i with ⟨text, seed, entries⟩
  obtain ⟨rfl, rfl, rfl⟩ : text = i'.text ∧ seed = i'.seed ∧ entries = i'.entries :=
    ⟨htext, hseed, hentries⟩
  rfl

theorem Supplies.not_overtax (h : Supplies world args i) {text : String} {options : Options}
    (named : Names world args text options) : ¬ options.Overtax world := by
  intro overtaxing
  obtain ⟨options', named', data, actions⟩ := h.files
  obtain ⟨-, rfl⟩ := named.unique named'
  obtain ⟨s, hs⟩ := readInputs_of_overtax overtaxing
  exact nomatch hs.symm.trans (readInputs_of_brings data actions)

end Inputs

end Storyboard.CommandLine
