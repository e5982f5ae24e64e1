import Storyboard.CommandLine
import Storyboard.Proofs.Action.Intake
import Storyboard.Proofs.App.Shallow
import Storyboard.Proofs.Document.BreakingOff

/-!
# Replays

A replay takes entry after entry, and whether it stops at one is decided by the entry alone: by a
patch that no form can take, or by a tag that cannot be looked up. Whatever the entries before
it did to the app does not matter. The state in the end can be presented unless something in it
is nested too deeply, which takes entries or a seed that are nested deeply themselves.
-/
namespace Storyboard

variable {n : Nat}

namespace Form

/-- A pair of a scalar and a value. -/
def IsPair (v : Json) : Prop :=
  ∃ key value, v.elements? = some [key, value] ∧ (Key.ofJson? key).isSome = true

/-- A value that can be merged into a form: an object, or a list of pairs. -/
def Mergeable (v : Json) : Prop :=
  (∃ fields, v = .obj fields) ∨
    ∃ pairs, v.elements? = some pairs ∧ ∀ pair ∈ pairs, IsPair pair

/-- Of two elements, the first decides. -/
theorem isPair_iff {v key value : Json} (h : v.elements? = some [key, value]) :
    IsPair v ↔ (Key.ofJson? key).isSome = true := by
  refine ⟨fun ⟨key', value', h', hkey⟩ => ?_, fun hkey => ⟨key, value, h, hkey⟩⟩
  cases h.symm.trans h'
  exact hkey

/-- Pairs are merged into every form, and nothing else is. -/
theorem mergePairs_eq_none {form : Form} {index : Nat} {pairs : List Json} :
    (mergePairs form index pairs).2 = none ↔ ∀ pair ∈ pairs, IsPair pair := by
  induction pairs generalizing form index with
  | nil => exact ⟨fun _ => List.forall_mem_nil _, fun _ => rfl⟩
  | cons pair rest ih =>
    rw [List.forall_mem_cons, mergePairs]
    split
    · rename_i hnone
      refine ⟨nofun, fun h => ?_⟩
      obtain ⟨key, value, helements, -⟩ := h.1
      cases hnone.symm.trans helements
    · rename_i key value helements
      rw [isPair_iff helements]
      split
      · rename_i k hkey
        rw [ih, hkey]
        exact ⟨fun h => ⟨rfl, h⟩, fun h => h.2⟩
      · rename_i hkey
        rw [hkey]
        exact ⟨nofun, fun h => nomatch h.1⟩
    · rename_i other hother helements
      refine ⟨nofun, fun h => ?_⟩
      obtain ⟨key, value, helements', -⟩ := h.1
      cases helements.symm.trans helements'
      exact absurd rfl (hother key value)

/-- Whether a patch is refused does not depend on the form. -/
theorem patch_eq_none (form : Form) {v : Json} : (patch form v).2 = none ↔ Mergeable v := by
  unfold patch
  split
  · rename_i fields
    exact ⟨fun _ => .inl ⟨fields, rfl⟩, fun _ => rfl⟩
  · rename_i hfields
    split
    · rename_i pairs hpairs
      rw [mergePairs_eq_none]
      refine ⟨fun h => .inr ⟨pairs, hpairs, h⟩, fun h => ?_⟩
      obtain ⟨fields, rfl⟩ | ⟨pairs', hpairs', hall⟩ := h
      · exact absurd rfl (hfields fields)
      · cases hpairs.symm.trans hpairs'
        exact hall
    · rename_i hnone
      refine ⟨nofun, fun h => ?_⟩
      obtain ⟨fields, rfl⟩ | ⟨pairs, hpairs, -⟩ := h
      · exact absurd rfl (hfields fields)
      · cases hnone.symm.trans hpairs

/-- The elements of a value are no higher than the value. -/
theorem height_element_le {v : Json} {items : List Json} (h : v.elements? = some items) :
    ∀ u ∈ items, u.height ≤ v.height := by
  intro u hu
  unfold Json.elements? at h
  split at h <;> cases h
  · exact Nat.le_succ_of_le (Json.height_le_of_mem hu)
  · obtain ⟨c, -, rfl⟩ := List.mem_map.mp hu
    exact Nat.le_refl 1
  · obtain ⟨p, -, rfl⟩ := List.mem_map.mp hu
    exact Nat.le_add_left 1 _

theorem shallow_mergePairs {form : Form} (h : form.Shallow n) {index : Nat} {pairs : List Json}
    (hpairs : ∀ pair ∈ pairs, pair.height ≤ n) : (mergePairs form index pairs).1.Shallow n := by
  induction pairs generalizing form index with
  | nil => exact h
  | cons pair rest ih =>
    obtain ⟨hpair, hrest⟩ := List.forall_mem_cons.mp hpairs
    rw [mergePairs]
    split
    · exact h
    · rename_i key value helements
      split
      · rename_i k hkey
        have hvalue := height_element_le helements value
          (List.mem_cons_of_mem _ List.mem_cons_self)
        exact ih (h.put k (Nat.le_trans hvalue hpair)) hrest
      · exact h
    · exact h

theorem shallow_putAll {form : Form} (h : form.Shallow n) {fields : List (String × Json)}
    (hfields : ∀ p ∈ fields, p.2.height ≤ n) :
    Shallow n (fields.foldl (fun f p => put f (.id p.1) p.2) form) := by
  induction fields generalizing form with
  | nil => exact h
  | cons p rest ih =>
    obtain ⟨hp, hrest⟩ := List.forall_mem_cons.mp hfields
    exact ih (h.put (.id p.1) hp) hrest

theorem shallow_patch {form : Form} (h : form.Shallow n) {v : Json} (hv : v.height ≤ n) :
    (patch form v).1.Shallow n := by
  unfold patch
  split
  · exact shallow_putAll h (Json.heightFields_le.mp (Nat.le_of_succ_le hv))
  · split
    · rename_i pairs hpairs
      exact shallow_mergePairs h fun pair hpair =>
        Nat.le_trans (height_element_le hpairs pair hpair) hv
    · exact h

end Form

namespace CommandLine

@[simp] theorem lines_nil : lines [] = "" := rfl

theorem lines_cons (s : String) (rest : List String) :
    lines (s :: rest) = line s ++ lines rest := by
  simp [lines]

theorem lines_singleton (s : String) : lines [s] = line s := by simp [lines_cons]

theorem line_ne_empty (s : String) : line s ≠ "" := fun h =>
  nomatch (String.append_eq_empty_iff.mp h).2

/-- Lines are some text, even if they are empty lines. -/
theorem lines_ne_empty {ls : List String} (h : ls ≠ []) : lines ls ≠ "" := by
  cases ls with
  | nil => exact absurd rfl h
  | cons s rest =>
    rw [lines_cons]
    exact fun heq => line_ne_empty s (String.append_eq_empty_iff.mp heq).1

/-- An entry that a replay stops at. -/
inductive Faulty : Json → Prop
  /-- A patch of the form that no form can take; an empty one changes nothing, whatever it is. -/
  | patch {fields : Assoc Json} {values : Json}
    (given : Assoc.get? fields "setFormState" = some values) (filled : values.truthy = true)
    (unfit : ¬ Form.Mergeable values) : Faulty (.obj fields)
  /-- An action whose tag cannot be looked up. -/
  | tag {entry : Json}
    (action : ∀ fields ∈ entry.fields?, Assoc.get? fields "setFormState" = none)
    (container : entry.HasContainerTag) : Faulty entry

/-- An entry that is no patch is faulty exactly if its tag cannot be looked up. -/
theorem faulty_of_action {entry : Json}
    (action : ∀ fields ∈ entry.fields?, Assoc.get? fields "setFormState" = none) :
    Faulty entry ↔ entry.HasContainerTag := by
  refine ⟨fun h => ?_, .tag action⟩
  cases h with
  | patch given filled unfit =>
    exact nomatch given.symm.trans (action _ rfl)
  | tag action container => exact container

/-- A patch is faulty exactly if what it merges, the given values or nothing if they are falsy,
is no patch of a form. -/
theorem faulty_of_patch {fields : Assoc Json} {values : Json}
    (given : Assoc.get? fields "setFormState" = some values) :
    Faulty (.obj fields) ↔ ¬ Form.Mergeable (if values.truthy then values else .obj []) := by
  constructor
  · intro h
    cases h with
    | patch given' filled unfit =>
      cases given.symm.trans given'
      rw [filled]
      exact unfit
    | tag action container => exact nomatch given.symm.trans (action fields rfl)
  · intro h
    cases hfilled : values.truthy with
    | true =>
      rw [hfilled] at h
      exact .patch given hfilled h
    | false =>
      rw [hfilled] at h
      exact absurd (.inl ⟨[], rfl⟩) h

namespace Replay

variable {submitter : Submitter} {r next : Replay} {entry : Json} {entries : List Json}

/-- What a replay has come to is of limited height, and its effects can be dumped. -/
structure Shallow (n : Nat) (r : Replay) : Prop where
  context : r.app.context.Shallow n
  effects : ∀ e ∈ r.effects, e.Dumps

/-- The patch that an entry is, if it is one. -/
theorem patch_of_bind {values : Json}
    (h : (entry.fields?.bind fun fields => Assoc.get? fields "setFormState") = some values) :
    ∃ fields, entry = .obj fields ∧ Assoc.get? fields "setFormState" = some values := by
  obtain ⟨fields, hfields, hgiven⟩ := Option.bind_eq_some_iff.mp h
  cases entry <;> cases hfields
  exact ⟨fields, rfl, hgiven⟩

/-- A replay stops at the faulty entries and at no others, whatever it has come to. -/
theorem stops_entry (submitter : Submitter) (r : Replay) :
    Stops (r.entry submitter entry) ↔ Faulty entry := by
  unfold Replay.entry
  split
  · rename_i values hvalues
    obtain ⟨fields, rfl, hgiven⟩ := patch_of_bind hvalues
    rw [faulty_of_patch hgiven, ← Form.patch_eq_none r.app.context.form]
    generalize (if values.truthy then values else Json.obj []) = patch
    have hsecond : (r.app.setForm patch).2 = (r.app.context.form.patch patch).2 := rfl
    rw [← hsecond]
    generalize r.app.setForm patch = result
    obtain ⟨app, fault⟩ := result
    cases fault with
    | none => simp
    | some fault => simp
  · rename_i hnone
    have haction : ∀ fields ∈ entry.fields?, Assoc.get? fields "setFormState" = none :=
      fun fields hfields => Option.bind_eq_none_iff.mp hnone fields hfields
    rw [faulty_of_action haction]
    unfold App.dispatch
    have hverdict := Action.accept_verdict entry
    generalize Action.accept entry = verdict at hverdict ⊢
    cases hverdict with
    | beyond fault h => exact ⟨fun _ => h, fun _ => stops_error _⟩
    | refused notices h => exact ⟨fun hstops => absurd hstops (not_stops_ok _),
        fun hbeyond => absurd hbeyond h.not_containerTag⟩
    | taken a h => exact ⟨fun hstops => absurd hstops (not_stops_ok _),
        fun hbeyond => absurd h (hbeyond.not_read a)⟩

/-- A dispatch of an action from few levels. -/
theorem shallow_dispatch {app after : App} {report : Report} (h : app.context.Shallow n)
    (hn : 1 ≤ n) (room : n + 6 ≤ nestingLimit) (levels : entry.height ≤ n + 1)
    (hafter : app.dispatch (.inline submitter) entry = .ok (after, report)) :
    after.context.Shallow n ∧ ∀ d ∈ report.deliveries, ∀ e ∈ d.batch, e.Dumps := by
  unfold App.dispatch at hafter
  have hverdict := Action.accept_verdict entry
  generalize Action.accept entry = verdict at hverdict hafter
  cases hverdict with
  | beyond fault _ => cases hafter
  | refused notices _ =>
    cases hafter
    exact ⟨h, List.forall_mem_nil _⟩
  | taken a ha =>
    have hresult := App.shallow_perform_inline submitter hn
      (Action.shallow_of_read ha levels room) h
    rw [Except.ok.inj hafter] at hresult
    exact hresult

/-- An entry of few levels leaves a replay shallow. -/
theorem shallow_entry (h : r.Shallow n) (hn : 1 ≤ n) (room : n + 6 ≤ nestingLimit)
    (levels : entry.height ≤ n + 1) (hnext : r.entry submitter entry = .ok next) :
    next.Shallow n := by
  unfold Replay.entry at hnext
  split at hnext
  · rename_i values hvalues
    obtain ⟨fields, rfl, hgiven⟩ := patch_of_bind hvalues
    have hpatch : (if values.truthy then values else Json.obj []).height ≤ n := by
      split
      · exact Nat.le_trans (Json.height_le_of_get? hgiven) (Nat.le_of_succ_le_succ levels)
      · exact hn
    split at hnext <;> cases hnext
    rename_i app hset
    have happ : app = (r.app.setForm _).1 := (congrArg Prod.fst hset).symm
    rw [happ]
    exact ⟨⟨Form.shallow_patch h.context.form hpatch, h.context.store, h.context.session⟩,
      h.effects⟩
  · split at hnext <;> cases hnext
    rename_i app report hdispatch
    obtain ⟨hcontext, hbatches⟩ := shallow_dispatch h.context hn room levels hdispatch
    refine ⟨hcontext, List.forall_mem_append.mpr ⟨h.effects, fun e he => ?_⟩⟩
    obtain ⟨d, hd, hed⟩ := List.mem_flatMap.mp he
    exact hbatches d hd e hed

/-- A replay of entries stops exactly if one of them is faulty. -/
theorem entries_stop_iff (submitter : Submitter) (r : Replay) :
    (∃ s, (r.entries submitter entries).2 = some s) ↔ ∃ entry ∈ entries, Faulty entry := by
  induction entries generalizing r with
  | nil => exact ⟨nofun, nofun⟩
  | cons entry rest ih =>
    rw [List.exists_mem_cons_iff, ← stops_entry submitter r, Replay.entries]
    cases hentry : r.entry submitter entry with
    | error s => exact ⟨fun _ => .inl (stops_error s), fun _ => ⟨s, rfl⟩⟩
    | ok next => exact (ih next).trans ⟨.inr, fun h => h.resolve_left (not_stops_ok next)⟩

/-- Entries of few levels leave a replay shallow, by induction on the entries. -/
theorem shallow_entries (submitter : Submitter) (h : r.Shallow n) (hn : 1 ≤ n)
    (room : n + 6 ≤ nestingLimit) (levels : ∀ entry ∈ entries, entry.height ≤ n + 1) :
    (r.entries submitter entries).1.Shallow n := by
  induction entries generalizing r with
  | nil => exact h
  | cons entry rest ih =>
    obtain ⟨hentry, hrest⟩ := List.forall_mem_cons.mp levels
    rw [Replay.entries]
    cases hnext : r.entry submitter entry with
    | error s => exact h
    | ok next => exact ih (shallow_entry h hn room hentry hnext) hrest

/-- The state that a replay ends in, if all of it can be given out. -/
def outcome (r : Replay) : Except Stop Json :=
  finalState r.app.currentScreen.1 r.app.currentScreen.2.1 r.effects

/-- The state of a replay can be given out: session and effects can be dumped, form and records
can be copied. -/
structure Presentable (r : Replay) : Prop where
  session : ∀ s ∈ r.app.context.session, s.fits = true
  form : (Json.obj r.app.context.form.toFields).copies = true
  records : (Json.obj r.app.context.store.contents).copies = true
  effects : ∀ e ∈ r.effects, e.fits = true

theorem stops_sessionState {session : Option Session} :
    Stops (sessionState session) ↔ ¬ ∀ s ∈ session, s.fits = true := by
  cases session with
  | none => simp [sessionState]
  | some s => cases hfits : s.fits <;> simp [sessionState, hfits]

/-- A table is given out if it can be copied. -/
theorem stops_copyState {fields : Assoc Json} :
    Stops (copyState (if (Json.obj fields).copies then some fields else none)) ↔
      ¬ (Json.obj fields).copies = true := by
  cases hcopies : (Json.obj fields).copies <;> simp [copyState]

theorem stops_effectState {effects : List Effect} :
    Stops (effectState effects) ↔ ¬ ∀ e ∈ effects, e.fits = true := by
  rw [← List.all_eq_true]
  cases hfits : effects.all (·.fits) <;> simp [effectState, hfits]

theorem presentable_iff (r : Replay) :
    r.Presentable ↔ ¬ (Stops (sessionState r.app.context.session) ∨
      Stops (copyState r.app.context.form.snapshot) ∨
      Stops (copyState r.app.context.store.snapshot) ∨ Stops (effectState r.effects)) := by
  rw [Form.snapshot, Store.snapshot, stops_sessionState, stops_copyState, stops_copyState,
    stops_effectState]
  simp only [not_or, not_not]
  constructor
  · exact fun h => ⟨h.session, h.form, h.records, h.effects⟩
  · rintro ⟨session, form, records, effects⟩
    exact ⟨session, form, records, effects⟩

/-- The state is given out exactly if none of its parts stands in the way. -/
theorem stops_outcome (r : Replay) : Stops r.outcome ↔ ¬ r.Presentable := by
  -- Looking at the screen changes none of the parts.
  have hsession : r.app.currentScreen.2.1.context.session = r.app.context.session := rfl
  have hform : r.app.currentScreen.2.1.context.form = r.app.context.form := rfl
  have hstore : r.app.currentScreen.2.1.context.store = r.app.context.store := rfl
  rw [presentable_iff, not_not, outcome, finalState, hsession, hform, hstore]
  cases sessionState r.app.context.session with
  | error s => exact ⟨fun _ => .inl (stops_error s), fun _ => stops_error s⟩
  | ok session =>
    cases copyState r.app.context.form.snapshot with
    | error s => exact ⟨fun _ => .inr (.inl (stops_error s)), fun _ => stops_error s⟩
    | ok form =>
      cases copyState r.app.context.store.snapshot with
      | error s => exact ⟨fun _ => .inr (.inr (.inl (stops_error s))), fun _ => stops_error s⟩
      | ok records =>
        cases effectState r.effects with
        | error s => exact ⟨fun _ => .inr (.inr (.inr (stops_error s))), fun _ => stops_error s⟩
        | ok effects =>
          refine ⟨fun h => absurd h (not_stops_ok _), fun h => ?_⟩
          simp at h

/-- The state is printed if it can be given out, and otherwise nothing is. -/
theorem finish_cases (r : Replay) :
    (∃ state, r.outcome = .ok state ∧ r.finish.ending = .ok 0 ∧
        r.finish.out = line (state.write (.indented true (some 2)))) ∨
      ¬ r.Presentable ∧ Stops r.finish.ending ∧ r.finish.out = "" := by
  have hstops := r.stops_outcome
  have hfinish : r.finish =
      (printState r.outcome).after (r.notices ++ r.app.currentScreen.2.2) := rfl
  rw [hfinish]
  cases houtcome : r.outcome with
  | error s =>
    rw [houtcome] at hstops
    exact .inr ⟨hstops.mp (stops_error s), stops_error _, rfl⟩
  | ok state => exact .inl ⟨state, rfl, rfl, lines_singleton _⟩

theorem fits_of_dumps {e : Effect} (h : e.Dumps) : e.fits = true := by
  cases e with
  | openUrl => rfl
  | popup shown =>
    refine List.all_eq_true.mpr fun button hbutton => ?_
    obtain ⟨pressed, hpressed, rfl⟩ := List.mem_map.mp hbutton
    cases haction : pressed.action with
    | none => simp [ShownButton.exchanged, Exchange.Button.fits, haction, Slot.ofOption,
        followUpFits]
    | some a =>
      have hfits := h shown rfl a ⟨pressed, hpressed, haction⟩
      simpa [ShownButton.exchanged, Exchange.Button.fits, haction, Slot.ofOption, followUpFits]
        using hfits

/-- The state of a shallow replay can be given out. -/
theorem Shallow.presentable (h : r.Shallow n) (room : n + 6 ≤ nestingLimit) : r.Presentable := by
  obtain ⟨⟨hform, hstore, hsession⟩, heffects⟩ := h
  have hnesting : nestingLimit = 255 := rfl
  have hcopy : Json.copyLimit = 495 := rfl
  refine ⟨fun s hs => ?_, ?_, ?_, fun e he => fits_of_dumps (heffects e he)⟩
  · have hfields := hsession s hs
    exact decide_eq_true (by omega)
  · have hfields : Json.heightFields r.app.context.form.toFields ≤ n := by
      refine Json.heightFields_le.mpr fun p hp => ?_
      obtain ⟨q, hq, rfl⟩ := List.mem_map.mp hp
      exact hform q hq
    have hheight : (Json.obj r.app.context.form.toFields).height ≤ Json.copyLimit := by
      rw [Json.height]
      omega
    exact decide_eq_true hheight
  · have hrows : ∀ t ∈ r.app.context.store.tables,
        (Json.arr (t.2.map Json.obj)).height ≤ n + 2 := fun t ht =>
      height_list_le fun row hrow => Nat.succ_le_succ (hstore t ht row hrow)
    have hheight : (Json.obj r.app.context.store.contents).height ≤ n + 3 :=
      height_dumpTable_le hrows
    exact decide_eq_true (by omega)

end Replay

end CommandLine

end Storyboard
