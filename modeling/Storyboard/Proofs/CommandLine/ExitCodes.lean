import Storyboard.Proofs.CommandLine.Inputs
import Storyboard.Proofs.CommandLine.Replays

/-!
# Exit codes

A run of the command reads its options and files, has the document validated, starts an app from
the seed, replays the entries and prints the state in the end. It is to end with an exit code: 0
with the state on the standard output, or 1 with nothing there and a complaint on the other one.
It keeps that unless it breaks off, which happens on the way at each of the stages, and always
before anything is printed.

If seed and entries are nested no deeper than `replayLevels`, the last stages cannot break off,
and it is left to the document and to single entries whether the run does.
-/
namespace Storyboard

/-- An app starts from a seed exactly if every table is complete, with records that can be
copied. -/
theorem App.starts_iff (settings : Settings) (verifier : Verifier) (supply : Supply)
    (d : Definition) {seed : Assoc Json} :
    (∃ app notices, ofDefinition settings verifier supply d seed = .ok (app, notices)) ↔
      ∀ t ∈ seed, Store.Sound t.2 := by
  unfold ofDefinition
  obtain ⟨stop, said, herror, hends⟩ | ⟨seeded, tables, hok, -, -, hall⟩ :=
    Store.seedTables_cases seed ⟨Store.empty, supply, []⟩
  · rw [Store.ofSeed, herror]
    refine ⟨fun hstarts => ?_, fun hsound => absurd hends (Store.not_endsAt hsound stop)⟩
    obtain ⟨_, _, h⟩ := hstarts
    cases h
  · rw [Store.ofSeed, hok]
    exact ⟨fun _ => ((List.forall₂_and_left _ _).mp (hall.imp fun _ _ h => ⟨h.sound, h⟩)).1,
      fun _ => ⟨_, _, rfl⟩⟩

section

variable {settings : Settings} {verifier : Verifier} {supply : Supply} {d : Definition}
  {seed : Assoc Json} {stop : SeedStop}

/-- What ends a seed keeps an app from starting. -/
theorem App.ofDefinition_of_endsAt (h : Store.EndsAt seed stop) :
    ∃ said, ofDefinition settings verifier supply d seed = .error (stop, said) := by
  obtain ⟨said, hsaid⟩ := Store.ofSeed_eq_error.mpr h
  exact ⟨said, by rw [ofDefinition, hsaid]⟩

theorem App.endsAt_of_ofDefinition {said : List Notice}
    (h : ofDefinition settings verifier supply d seed = .error (stop, said)) :
    Store.EndsAt seed stop := by
  unfold ofDefinition at h
  split at h
  · rename_i hsaid
    cases h
    exact Store.ofSeed_eq_error.mp ⟨said, hsaid⟩
  · cases h

end

namespace CommandLine

/-- The text of a document is accepted. -/
def Accepted (settings : Settings) (text : String) (d : Definition) : Prop :=
  ∃ v, Validation.ofSource settings.maxDefinitionBytes (.text text) = .ok v ∧
    v.definition = some d

/-- A replay at its start. -/
def Replay.start (settings : Settings) (app : App) (notices : List Notice) : Replay :=
  ⟨app.subscribe ⟨0, fun _ => true⟩, [], notices ++ settings.credentialNotices⟩

/-- The arguments lead to an app and the entries to replay against it. -/
inductive Starts (world : World) (settings : Settings) (args : List String) :
    Replay → List Json → Prop
  | mk {i : Inputs} {d : Definition} {app : App} {notices : List Notice}
    (supplied : Supplies world args i) (accepted : Accepted settings i.text d)
    (started : App.ofDefinition settings (settings.credentialScheme.verifier world.hasher)
      world.supply d i.seed = .ok (app, notices)) :
    Starts world settings args (.start settings app notices) i.entries

/-- The arguments lead to a state in the end. -/
inductive EndsIn (world : World) (settings : Settings) (args : List String) : Json → Prop
  | mk {first last : Replay} {entries : List Json} {state : Json}
    (starts : Starts world settings args first entries)
    (replayed : first.entries world.submitter entries = (last, none))
    (shown : last.outcome = .ok state) : EndsIn world settings args state

/-- The ways in which a run ends without an exit code. -/
inductive BreaksOff (world : World) (settings : Settings) (args : List String) : Prop
  /-- The seed or the entries ask too much of the reader. -/
  | files {text : String} {options : Options} (named : Names world args text options)
    (overtaxing : options.Overtax world)
  /-- The validation of the document breaks off. -/
  | document {i : Inputs} (supplied : Supplies world args i)
    (breaks : (Source.text i.text).BreaksOff settings.maxDefinitionBytes)
  /-- A record of the seed is nested too deeply to be copied, and up to it all is well. -/
  | seed {i : Inputs} {d : Definition} (supplied : Supplies world args i)
    (accepted : Accepted settings i.text d) (deep : Store.EndsAt i.seed .tooDeep)
  /-- An entry is faulty. -/
  | entry {first : Replay} {entries : List Json} (starts : Starts world settings args first entries)
    (faulty : ∃ entry ∈ entries, Faulty entry)
  /-- Something in the state in the end is nested too deeply to be given out. -/
  | state {first last : Replay} {entries : List Json}
    (starts : Starts world settings args first entries)
    (replayed : first.entries world.submitter entries = (last, none)) (deep : ¬ last.Presentable)

/-- What a run is to do: it ends with the exit code 0 or 1, with 0 exactly if it printed the state
in the end, and with 1 only if it printed nothing but a complaint. -/
structure KeepsPromise (world : World) (settings : Settings) (args : List String) : Prop where
  exits : (run world settings args).ending = .ok 0 ∨ (run world settings args).ending = .ok 1
  zero : (run world settings args).ending = .ok 0 ↔ ∃ state, EndsIn world settings args state ∧
    (run world settings args).out = line (state.write (.indented true (some 2)))
  one : (run world settings args).ending = .ok 1 →
    (run world settings args).out = "" ∧ (run world settings args).err ≠ ""

section Stages

variable {world : World} {settings : Settings} {args : List String} {i : Inputs} {d : Definition}

/-- Where the settings can be read, the command `run` is a run under them. -/
theorem execute_run {level : Nat} (read : Settings.read world.environment [] = .ok settings)
    (threshold : settings.logThreshold = .ok level) (args : List String) :
    execute world ("run" :: args) = run world settings args := by
  have hcommand : Text.lower "run" = "run" := by decide +kernel
  unfold execute
  simp only [read, threshold, hcommand]

/-- With a document and options there, seed and entries are read. -/
theorem run_of_names {text : String} {options : Options} (named : Names world args text options) :
    run world settings args =
      match readInputs world options with
      | .error output => output
      | .ok (seed, entries) =>
        match Validation.ofSource settings.maxDefinitionBytes (.text text) with
        | .error b => stop (.breakdown b)
        | .ok v =>
          match v.definition with
          | none => (exit 1 [] (v.errors.map errorLine)).after v.notices
          | some d => (replay world settings d seed entries).after v.notices := by
  cases named with
  | mk read document =>
    unfold run
    simp only [read, document]
    rfl

/-- With all inputs there, the document is validated. -/
theorem run_of_supplies (supplied : Supplies world args i) :
    run world settings args =
      match Validation.ofSource settings.maxDefinitionBytes (.text i.text) with
      | .error b => stop (.breakdown b)
      | .ok v =>
        match v.definition with
        | none => (exit 1 [] (v.errors.map errorLine)).after v.notices
        | some d => (replay world settings d i.seed i.entries).after v.notices := by
  obtain ⟨options, named, data, actions⟩ := supplied.files
  rw [run_of_names named, readInputs_of_brings data actions]

/-- With an accepted document, the entries are replayed. -/
theorem run_of_accepted (supplied : Supplies world args i) (accepted : Accepted settings i.text d) :
    ∃ notices, run world settings args =
      (replay world settings d i.seed i.entries).after notices := by
  obtain ⟨v, hv, hd⟩ := accepted
  rw [run_of_supplies supplied, hv]
  dsimp only
  rw [hd]
  exact ⟨v.notices, rfl⟩

/-- With an app that starts, the entries decide. -/
theorem replay_of_started {seed : Assoc Json} {entries : List Json} {app : App}
    {notices : List Notice}
    (started : App.ofDefinition settings (settings.credentialScheme.verifier world.hasher)
      world.supply d seed = .ok (app, notices)) :
    replay world settings d seed entries =
      match (Replay.start settings app notices).entries world.submitter entries with
      | (r, none) => r.finish
      | (r, some s) => (stop s).after r.notices := by
  unfold replay
  simp only [started]
  rfl

/-- What is replayed at last decides how the run ends. -/
theorem run_of_starts {first : Replay} {entries : List Json}
    (starts : Starts world settings args first entries) :
    ∃ notices, run world settings args =
      (match first.entries world.submitter entries with
        | (r, none) => r.finish
        | (r, some s) => (stop s).after r.notices).after notices := by
  cases starts with
  | mk supplied accepted started =>
    obtain ⟨notices, hrun⟩ := run_of_accepted supplied accepted
    rw [hrun, replay_of_started started]
    exact ⟨notices, rfl⟩

/-- Each of the ways to break off does end a run without an exit code. -/
theorem BreaksOff.stops (h : BreaksOff world settings args) :
    Stops (run world settings args).ending ∧ (run world settings args).out = "" := by
  cases h with
  | files named overtaxing =>
    obtain ⟨s, hs⟩ := readInputs_of_overtax overtaxing
    rw [run_of_names named, hs]
    exact ⟨stops_error _, rfl⟩
  | document supplied breaks =>
    obtain ⟨b, hb⟩ := Validation.stops_of_breaksOff breaks
    rw [run_of_supplies supplied, hb]
    exact ⟨stops_error _, rfl⟩
  | seed supplied accepted deep =>
    obtain ⟨notices, hrun⟩ := run_of_accepted supplied accepted
    obtain ⟨said, hended⟩ := App.ofDefinition_of_endsAt deep
    rw [hrun, replay, hended]
    exact ⟨stops_error _, rfl⟩
  | @entry first entries starts faulty =>
    obtain ⟨notices, hrun⟩ := run_of_starts starts
    obtain ⟨s, hs⟩ := (Replay.entries_stop_iff world.submitter first).mpr faulty
    rw [hrun]
    generalize first.entries world.submitter entries = result at hs
    obtain ⟨last, stopped⟩ := result
    cases hs
    exact ⟨stops_error _, rfl⟩
  | @state first last entries starts replayed deep =>
    obtain ⟨notices, hrun⟩ := run_of_starts starts
    rw [hrun, replayed]
    obtain ⟨state, hshown, -⟩ | ⟨-, hstops, hsilent⟩ := last.finish_cases
    · have hstops := last.stops_outcome.mpr deep
      rw [hshown] at hstops
      exact absurd hstops (not_stops_ok state)
    · exact ⟨hstops, hsilent⟩

/-- How a run ends: it breaks off in one of the known ways, complains, or prints the state in the
end. -/
inductive Verdict (world : World) (settings : Settings) (args : List String) (o : Output) : Prop
  | broke (why : BreaksOff world settings args)
  | refused (ending : o.ending = .ok 1) (silent : o.out = "") (told : o.err ≠ "")
  | finished {state : Json} (ends : EndsIn world settings args state) (ending : o.ending = .ok 0)
    (printed : o.out = line (state.write (.indented true (some 2))))

theorem Verdict.after {o : Output} (h : Verdict world settings args o) (notices : List Notice) :
    Verdict world settings args (o.after notices) := by
  cases h with
  | broke why => exact .broke why
  | refused ending silent told => exact .refused ending silent told
  | finished ends ending printed => exact .finished ends ending printed

theorem verdict_of_complaints {complaints : List String} (h : complaints ≠ []) :
    Verdict world settings args (exit 1 [] complaints) :=
  .refused rfl rfl (lines_ne_empty h)

/-- The last stages: an app is started, the entries are replayed, the state is printed. -/
theorem verdict_of_accepted (supplied : Supplies world args i)
    (accepted : Accepted settings i.text d) :
    Verdict world settings args (replay world settings d i.seed i.entries) := by
  cases hstarted : App.ofDefinition settings (settings.credentialScheme.verifier world.hasher)
      world.supply d i.seed with
  | error fault =>
    obtain ⟨stop, said⟩ := fault
    rw [replay, hstarted]
    cases stop with
    | refused e => exact (verdict_of_complaints (List.cons_ne_nil _ _)).after _
    | tooDeep => exact .broke (.seed supplied accepted (App.endsAt_of_ofDefinition hstarted))
  | ok started =>
    obtain ⟨app, notices⟩ := started
    have starts := Starts.mk supplied accepted hstarted
    have hfaulty : _ ↔ ∃ entry ∈ i.entries, Faulty entry :=
      Replay.entries_stop_iff world.submitter (.start settings app notices)
    rw [replay_of_started hstarted]
    generalize hreplayed :
      (Replay.start settings app notices).entries world.submitter i.entries = result at hfaulty ⊢
    obtain ⟨last, stopped⟩ := result
    cases stopped with
    | some s => exact .broke (.entry starts (hfaulty.mp ⟨s, rfl⟩))
    | none =>
      obtain ⟨state, hshown, hending, hprinted⟩ | ⟨hdeep, -⟩ := last.finish_cases
      · exact .finished (.mk starts hreplayed hshown) hending hprinted
      · exact .broke (.state starts hreplayed hdeep)

theorem verdict_of_supplies (supplied : Supplies world args i)
    (paired : (Source.text i.text).Paired) :
    Verdict world settings args (run world settings args) := by
  rw [run_of_supplies supplied]
  cases hv : Validation.ofSource settings.maxDefinitionBytes (.text i.text) with
  | error b => exact .broke (.document supplied (Validation.breaksOff_of_stops paired ⟨b, hv⟩))
  | ok v =>
    dsimp only
    cases hd : v.definition with
    | some d => exact (verdict_of_accepted supplied ⟨v, hv, hd⟩).after _
    | none =>
      obtain ⟨⟨haccepts, -⟩, -⟩ | ⟨⟨-, herrors, -⟩, -⟩ := Validation.answers_ofSource hv
      · rw [hd] at haccepts
        cases haccepts
      · exact (verdict_of_complaints fun hnil => herrors (List.map_eq_nil_iff.mp hnil)).after _

/-- The stages of a run, one after the other. -/
theorem run_verdict (settings : Settings) (paired : Paired world args) :
    Verdict world settings args (run world settings args) := by
  cases args with
  | nil => exact verdict_of_complaints (List.cons_ne_nil _ _)
  | cons path rest =>
    cases hoptions : readOptions ⟨none, none⟩ rest with
    | error complaint =>
      rw [run, hoptions]
      exact verdict_of_complaints (List.cons_ne_nil _ _)
    | ok options =>
      cases hdocument : readText world path with
      | error complaint =>
        rw [run, hoptions]
        dsimp only
        rw [hdocument]
        exact verdict_of_complaints (List.cons_ne_nil _ _)
      | ok text =>
        have named := Names.mk hoptions hdocument
        obtain ⟨hdata, hactions⟩ := paired.options hoptions
        obtain ⟨seed, entries, -, data, actions⟩ | overtaxing | ⟨complaints, hne, hread⟩ :=
          readInputs_cases hdata hactions
        · have supplied : Supplies world (path :: rest) ⟨text, seed, entries⟩ :=
            ⟨options, named, data, actions⟩
          exact verdict_of_supplies supplied (paired path List.mem_cons_self text hdocument)
        · exact .broke (.files named overtaxing)
        · rw [run_of_names named, hread]
          exact verdict_of_complaints hne

end Stages

/-- Levels of nesting that any seed and any entry may have: a popup among the entries can be
dumped at the end together with everything behind its buttons. -/
def replayLevels : Nat := 250

section Levels

variable {world : World} {settings : Settings} {args : List String} {i : Inputs}

/-- The fields of a record of the seed stand three levels below it. -/
theorem heightFields_record_le {seed : Assoc Json} {t : String × Json} (ht : t ∈ seed)
    {row : Record} (hrow : row ∈ t.2.records) :
    Json.heightFields row + 3 ≤ (Json.obj seed).height := by
  obtain ⟨table, value⟩ := t
  have hvalue : value.height ≤ Json.heightFields seed :=
    Json.heightFields_le.mp (Nat.le_refl _) _ ht
  cases value with
  | arr items =>
    obtain ⟨item, hitem, hfields⟩ := List.mem_filterMap.mp hrow
    cases item <;> cases hfields
    have hitem' := Json.height_le_of_mem hitem
    simp only [Json.height] at hvalue hitem' ⊢
    omega
  | _ => cases hrow

/-- The records of a seed of few levels can be copied. -/
theorem sound_of_levels {seed : Assoc Json} (levels : (Json.obj seed).height ≤ replayLevels)
    {t : String × Json} (ht : t ∈ seed) (complete : Store.Complete t.2) : Store.Sound t.2 := by
  refine ⟨complete, fun row hrow => Store.copies_obj.mpr ?_⟩
  have hrecord := heightFields_record_le ht hrow
  have hlevels : replayLevels = 250 := rfl
  have hcopy : Json.copyLimit = 495 := rfl
  omega

theorem not_tooDeep_of_levels {seed : Assoc Json}
    (levels : (Json.obj seed).height ≤ replayLevels) : ¬ Store.EndsAt seed .tooDeep := by
  rintro ⟨before, table, value, after, rfl, hspoils, -⟩
  have ht : (table, value) ∈ before ++ (table, value) :: after :=
    List.mem_append_right before List.mem_cons_self
  cases hspoils with
  | @tooDeep rows row rest _ deep =>
    have hrow : row ∈ (Json.arr (rows.map .obj ++ .obj row :: rest)).records :=
      List.mem_filterMap.mpr ⟨.obj row, List.mem_append_right _ List.mem_cons_self, rfl⟩
    have hrecord := heightFields_record_le ht hrow
    have hlevels : replayLevels = 250 := rfl
    have hcopy : Json.copyLimit = 495 := rfl
    have hcopies := Store.copies_obj.mpr (show Json.heightFields row ≤ Json.copyLimit - 1 by omega)
    exact Bool.false_ne_true (deep.symm.trans hcopies)

/-- With inputs of few levels, the state in the end can be given out. -/
theorem presentable_of_levels {d : Definition} {app : App} {notices : List Notice} {last : Replay}
    (seed : (Json.obj i.seed).height ≤ replayLevels)
    (entries : ∀ entry ∈ i.entries, entry.height ≤ replayLevels)
    (started : App.ofDefinition settings (settings.credentialScheme.verifier world.hasher)
      world.supply d i.seed = .ok (app, notices))
    (replayed : (Replay.start settings app notices).entries world.submitter i.entries =
      (last, none)) : last.Presentable := by
  have hrows : ∀ t ∈ i.seed, ∀ row ∈ t.2.records, Json.heightFields row ≤ 249 := by
    intro t ht row hrow
    have hrecord := heightFields_record_le ht hrow
    have hlevels : replayLevels = 250 := rfl
    omega
  have hcontext : app.context.Shallow 249 := App.shallow_ofDefinition (by decide) hrows started
  have hstart : (Replay.start settings app notices).Shallow 249 :=
    ⟨hcontext, List.forall_mem_nil _⟩
  have hlast := Replay.shallow_entries world.submitter hstart (by decide) (by decide) entries
  rw [replayed] at hlast
  exact hlast.presentable (by decide)

/-- With inputs of few levels, a run breaks off at its document or at an entry of it. -/
theorem breaksOff_iff_of_levels (supplied : Supplies world args i)
    (seed : (Json.obj i.seed).height ≤ replayLevels)
    (entries : ∀ entry ∈ i.entries, entry.height ≤ replayLevels) :
    BreaksOff world settings args ↔
      (Source.text i.text).BreaksOff settings.maxDefinitionBytes ∨
        (∃ d, Accepted settings i.text d) ∧ (∀ t ∈ i.seed, Store.Complete t.2) ∧
          ∃ entry ∈ i.entries, Faulty entry := by
  constructor
  · intro h
    cases h with
    | files named overtaxing => exact absurd overtaxing (supplied.not_overtax named)
    | document supplied' breaks =>
      cases supplied.unique supplied'
      exact .inl breaks
    | seed supplied' accepted deep =>
      cases supplied.unique supplied'
      exact absurd deep (not_tooDeep_of_levels seed)
    | entry starts faulty =>
      cases starts with
      | mk supplied' accepted started =>
        cases supplied.unique supplied'
        have hsound := (App.starts_iff _ _ _ _).mp ⟨_, _, started⟩
        exact .inr ⟨⟨_, accepted⟩, fun t ht => (hsound t ht).complete, faulty⟩
    | state starts replayed deep =>
      cases starts with
      | mk supplied' accepted started =>
        cases supplied.unique supplied'
        exact absurd (presentable_of_levels seed entries started replayed) deep
  · rintro (breaks | ⟨⟨d, accepted⟩, complete, faulty⟩)
    · exact .document supplied breaks
    · obtain ⟨app, notices, started⟩ :=
        (App.starts_iff settings (settings.credentialScheme.verifier world.hasher) world.supply
          d).mpr fun t ht => sound_of_levels seed ht (complete t ht)
      exact .entry (.mk supplied accepted started) faulty

end Levels

/-- If no file that is named has half a surrogate pair in it, a run keeps its promise unless it
breaks off in one of the known ways, and then it has no exit code and has printed nothing. If seed
and entries are nested no deeper than `replayLevels`, it breaks off exactly if the validation of
the document does, or if the document is accepted, the seed is complete and some entry is faulty. -/
theorem run_exits_iff (world : World) (settings : Settings) (args : List String)
    (paired : Paired world args) :
    (KeepsPromise world settings args ↔ ¬ BreaksOff world settings args) ∧
      (BreaksOff world settings args →
        Stops (run world settings args).ending ∧ (run world settings args).out = "") ∧
      ∀ i, Supplies world args i → (Json.obj i.seed).height ≤ replayLevels →
        (∀ entry ∈ i.entries, entry.height ≤ replayLevels) →
        (BreaksOff world settings args ↔
          (Source.text i.text).BreaksOff settings.maxDefinitionBytes ∨
            (∃ d, Accepted settings i.text d) ∧ (∀ t ∈ i.seed, Store.Complete t.2) ∧
              ∃ entry ∈ i.entries, Faulty entry) := by
  refine ⟨⟨fun promise breaks => ?_, fun unbroken => ?_⟩, BreaksOff.stops,
    fun i supplied seed entries => breaksOff_iff_of_levels supplied seed entries⟩
  · obtain ⟨⟨s, hs⟩, -⟩ := breaks.stops
    obtain hzero | hone := promise.exits
    · exact nomatch hs.symm.trans hzero
    · exact nomatch hs.symm.trans hone
  · cases run_verdict settings paired with
    | broke why => exact absurd why unbroken
    | refused ending silent told =>
      refine ⟨.inr ending, ⟨(fun hzero => nomatch ending.symm.trans hzero), ?_⟩,
        fun _ => ⟨silent, told⟩⟩
      rintro ⟨state, -, printed⟩
      exact absurd (silent.symm.trans printed).symm (line_ne_empty _)
    | finished ends ending printed =>
      exact ⟨.inl ending, ⟨fun _ => ⟨_, ends, printed⟩, fun _ => ending⟩,
        (fun hone => nomatch ending.symm.trans hone)⟩

/-- The text of a document with one empty screen. -/
def deskText : String :=
  Json.write .compact (.obj [("version", .str "1"), ("app", .obj [("name", .str "Desk")]),
    ("screens", .obj [("home", .obj [("components", .arr [])])]), ("initialScreen", .str "home")])

/-- A world with the document and with entries to replay. Nobody signs up in it, and its hasher
is not asked for anything. -/
def desk (entries : List Json) : World where
  environment := []
  file? := Assoc.get? [("app.json", deskText),
    ("actions.json", Json.write .compact (.arr entries))]
  supply := ⟨.counter, 0⟩
  hasher := ⟨fun _ => none, fun _ _ => .unrecognized⟩
  submitter := .prompt

def deskArguments : List String := ["app.json", "--actions", "actions.json"]

/-- A navigation to the screen that is there. -/
def navigation : Json := .obj [("type", .str "navigate"), ("target", .str "home")]

/-- A run with entries that are not faulty ends with an exit code. -/
theorem navigations_exit :
    Paired (desk [navigation, navigation]) deskArguments ∧
      KeepsPromise (desk [navigation, navigation]) Settings.default deskArguments := by
  have hpaired : Paired (desk [navigation, navigation]) deskArguments := by
    refine List.forall_mem_cons.mpr ⟨?_, List.forall_mem_cons.mpr ⟨?_,
      List.forall_mem_singleton.mpr ?_⟩⟩
    · intro s hs
      cases Except.ok.inj hs
      exact Source.paired_of_read (by decide +kernel)
    · exact fun s hs => nomatch hs
    · intro s hs
      cases Except.ok.inj hs
      exact Source.paired_of_read (by decide +kernel)
  refine ⟨hpaired, ?_⟩
  obtain ⟨hpromise, -, hlevels⟩ :=
    run_exits_iff (desk [navigation, navigation]) Settings.default deskArguments hpaired
  have hentries : Holds (desk [navigation, navigation]) "actions.json"
      (.arr [navigation, navigation]) := ⟨_, rfl, rfl⟩
  have hsupplied : Supplies (desk [navigation, navigation]) deskArguments
      ⟨String.ofList (unifyBreaks deskText.toList), [], [navigation, navigation]⟩ :=
    ⟨_, .mk rfl rfl, .fallback, .file hentries rfl⟩
  have hnavigation : ¬ Faulty navigation := by
    intro h
    cases h with
    | patch given => cases given
    | tag action container =>
      obtain ⟨fields, tag, hfields, htag, hcontainer⟩ := container
      cases hfields
      cases htag
      obtain ⟨item, items, htext⟩ | ⟨field, more, htext⟩ := hcontainer <;> cases htext
  refine hpromise.mpr fun breaks => ?_
  obtain hdocument | ⟨-, -, hfaulty⟩ :=
    (hlevels _ hsupplied (by decide) (by decide)).mp breaks
  · obtain ⟨b, hb⟩ := Validation.stops_of_breaksOff hdocument
    have hvalidated : stoppedAt? (Validation.ofSource Settings.default.maxDefinitionBytes
        (.text (String.ofList (unifyBreaks deskText.toList)))) = none := by decide +kernel
    rw [hb] at hvalidated
    cases hvalidated
  · obtain ⟨entry, hentry, hfaulty⟩ := hfaulty
    simp only [List.mem_cons, List.not_mem_nil, or_false, or_self] at hentry
    exact hnavigation (hentry ▸ hfaulty)

/-- The patch at which a command stopped. -/
def Output.patchFault? (o : Output) : Option Form.PatchFault :=
  match o.ending with
  | .error (.patch fault) => some fault
  | _ => none

theorem Output.patchFault?_eq_some {o : Output} {fault : Form.PatchFault} :
    o.patchFault? = some fault ↔ o.ending = .error (.patch fault) := by
  unfold patchFault?
  constructor
  · intro h
    split at h <;> cases h
    assumption
  · intro h
    rw [h]

/-- A patch that is a number. -/
def numberPatch : Json := .obj [("setFormState", .int 5)]

/-- The command stops at the patch instead of ending with an exit code. -/
theorem number_patch_breaks_off :
    (execute (desk [numberPatch]) ("run" :: deskArguments)).ending =
        .error (.patch (.notIterable "int")) ∧
      ¬ ∀ (world : World) (settings : Settings) (args : List String),
        KeepsPromise world settings args := by
  have hstopped : (run (desk [numberPatch]) Settings.default deskArguments).ending =
      .error (.patch (.notIterable "int")) :=
    Output.patchFault?_eq_some.mp (by decide +kernel)
  have hrun : execute (desk [numberPatch]) ("run" :: deskArguments) =
      run (desk [numberPatch]) Settings.default deskArguments := execute_run rfl rfl deskArguments
  rw [hrun]
  refine ⟨hstopped, fun always => ?_⟩
  obtain hzero | hone := (always (desk [numberPatch]) Settings.default deskArguments).exits
  · exact nomatch hstopped.symm.trans hzero
  · exact nomatch hstopped.symm.trans hone

end CommandLine

end Storyboard
