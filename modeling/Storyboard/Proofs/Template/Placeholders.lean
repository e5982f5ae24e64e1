import Mathlib.Data.List.Infix
import Storyboard.Template.Resolve

/-!
# Texts that are one placeholder

A text that is one placeholder becomes the value at its path, with its type, and any other text
has its placeholders replaced by what their values are shown as. Shown to a user, the two ways
ought not to differ. They do where a text is taken for one placeholder and is more than that:
the nearest closing braces end a placeholder, and what stands behind them, further closing
braces or a line break, still goes with the value. `caption_resolve_iff` says that these texts
are all: every other text is shown alike both ways, whatever it is resolved against.
-/
namespace Storyboard.Template

def openingBraces : List Char := ['\x7b', '\x7b']

def closingBraces : List Char := ['\x7d', '\x7d']

/-- A text in one line that opens with two braces and closes with two, a final line break aside,
and has no other two opening braces. -/
structure Enclosed (s inner tail : List Char) : Prop where
  text : s = openingBraces ++ (inner ++ closingBraces) ++ tail
  tail : tail = [] ∨ tail = ['\n']
  line : '\n' ∉ inner
  unopened : ¬ openingBraces <:+: inner

/-- Such a text has more to it than its first placeholder: a line break behind it, or two closing
braces in front of the last ones. -/
def Frayed (s : List Char) : Prop :=
  ∃ inner tail, Enclosed s inner tail ∧
    (tail = ['\n'] ∨ closingBraces <:+: inner ++ ['\x7d'])

theorem hasOpening_iff {s : List Char} : hasOpening s = true ↔ openingBraces <:+: s := by
  induction s with
  | nil => simp [hasOpening, openingBraces]
  | cons c rest ih =>
    rw [List.infix_cons_iff]
    by_cases hopens : openingBraces <+: c :: rest
    · obtain ⟨tail, htail⟩ := hopens
      rw [← htail]
      simp [hasOpening, openingBraces]
    · have hno : ∀ tail, c = '\x7b' → rest = '\x7b' :: tail → False := by
        rintro tail rfl rfl
        exact hopens ⟨tail, rfl⟩
      rw [hasOpening.eq_2 c rest hno, ih, or_iff_right hopens]

/-- Text without an opening brace behind a text opens nothing. -/
theorem unopened_append {s tail : List Char} (h : ¬ openingBraces <:+: s)
    (behind : '\x7b' ∉ tail) : ¬ openingBraces <:+: s ++ tail := by
  induction s with
  | nil => exact fun hin => behind (hin.subset List.mem_cons_self)
  | cons c rest ih =>
    rw [List.infix_cons_iff, not_or] at h
    rw [List.cons_append, List.infix_cons_iff, not_or]
    refine ⟨fun hopens => ?_, ih h.2⟩
    obtain ⟨hc, hrest⟩ := List.cons_prefix_cons.mp hopens
    cases rest with
    | nil => exact behind (hrest.subset List.mem_cons_self)
    | cons d more =>
      obtain ⟨hd, -⟩ := List.cons_prefix_cons.mp hrest
      exact h.1 ⟨more, by rw [← hc, ← hd]; rfl⟩

theorem opening_eq_none {s : List Char} (h : ¬ openingBraces <+: s) : opening s = none := by
  unfold opening
  split
  · rename_i rest
    exact absurd ⟨rest, rfl⟩ h
  · rfl

theorem closing_cons {c : Char} {rest : List Char} (h : ¬ closingBraces <+: c :: rest)
    (line : c ≠ '\n') :
    closing (c :: rest) = (closing rest).map fun (inner, after) => (c :: inner, after) := by
  have hno : ∀ tail, c = '\x7d' → rest = '\x7d' :: tail → False := by
    rintro tail rfl rfl
    exact h ⟨tail, rfl⟩
  rw [closing]
  · exact hno
  · exact line

theorem closing_closed (after : List Char) : closing (closingBraces ++ after) = some ([], after) :=
  rfl

/-- A placeholder reaches to the nearest closing braces. -/
theorem closing_append {inner : List Char} (line : '\n' ∉ inner)
    (nearest : ¬ closingBraces <:+: inner ++ ['\x7d']) (after : List Char) :
    closing (inner ++ (closingBraces ++ after)) = some (inner, after) := by
  induction inner with
  | nil => exact closing_closed after
  | cons c rest ih =>
    obtain ⟨hc, hrest⟩ := List.ne_and_not_mem_of_not_mem_cons line
    rw [List.cons_append, List.infix_cons_iff, not_or] at nearest
    have hopen : ¬ closingBraces <+: c :: (rest ++ (closingBraces ++ after)) := by
      intro hcloses
      obtain ⟨rfl, hnext⟩ := List.cons_prefix_cons.mp hcloses
      refine nearest.1 (List.cons_prefix_cons.mpr ⟨rfl, ?_⟩)
      cases rest with
      | nil => exact List.prefix_rfl
      | cons d more =>
        obtain ⟨rfl, -⟩ := List.cons_prefix_cons.mp hnext
        exact List.prefix_append ['\x7d'] _
    rw [List.cons_append, closing_cons hopen (Ne.symm hc), ih hrest nearest.2]
    rfl

/-- Where a line closes at all, it closes at a first place. -/
theorem closing_isSome {inner : List Char} (line : '\n' ∉ inner) (after : List Char) :
    ∃ first behind, closing (inner ++ (closingBraces ++ after)) = some (first, behind) := by
  induction inner with
  | nil => exact ⟨[], after, closing_closed after⟩
  | cons c rest ih =>
    obtain ⟨hc, hrest⟩ := List.ne_and_not_mem_of_not_mem_cons line
    by_cases hcloses : closingBraces <+: c :: (rest ++ (closingBraces ++ after))
    · obtain ⟨behind, hbehind⟩ := hcloses
      rw [List.cons_append, ← hbehind]
      exact ⟨[], behind, closing_closed behind⟩
    · obtain ⟨first, behind, hfirst⟩ := ih hrest
      rw [List.cons_append, closing_cons hcloses (Ne.symm hc), hfirst]
      exact ⟨c :: first, behind, rfl⟩

/-- What `closing` takes apart is what was there, cut at the nearest closing braces. -/
theorem closing_eq_some {s inner after : List Char} (h : closing s = some (inner, after)) :
    s = inner ++ (closingBraces ++ after) ∧ ¬ closingBraces <:+: inner ++ ['\x7d'] := by
  induction s generalizing inner with
  | nil => cases h
  | cons c rest ih =>
    by_cases hcloses : closingBraces <+: c :: rest
    · obtain ⟨behind, hbehind⟩ := hcloses
      rw [← hbehind, closing_closed] at h
      cases h
      exact ⟨hbehind.symm, by decide⟩
    · by_cases hline : c = '\n'
      · subst hline
        cases h
      · rw [closing_cons hcloses hline] at h
        obtain ⟨⟨first, behind⟩, hfirst, heq⟩ := Option.map_eq_some_iff.mp h
        cases heq
        obtain ⟨htext, hnearest⟩ := ih hfirst
        refine ⟨congrArg (c :: ·) htext, ?_⟩
        rw [List.cons_append, List.infix_cons_iff, not_or]
        refine ⟨fun hin => hcloses ?_, hnearest⟩
        obtain ⟨rfl, hnext⟩ := List.cons_prefix_cons.mp hin
        refine List.cons_prefix_cons.mpr ⟨rfl, ?_⟩
        rw [htext]
        cases first with
        | nil => exact List.prefix_append ['\x7d'] _
        | cons d more =>
          obtain ⟨rfl, -⟩ := List.cons_prefix_cons.mp hnext
          exact List.prefix_append ['\x7d'] _

theorem opening_eq_some {s inner after : List Char} (h : opening s = some (inner, after)) :
    s = openingBraces ++ (inner ++ (closingBraces ++ after)) := by
  unfold opening at h
  split at h
  · exact congrArg (openingBraces ++ ·) (closing_eq_some h).1
  · cases h

theorem length_lt_of_opening {s inner after : List Char} (h : opening s = some (inner, after)) :
    after.length < s.length := by
  rw [opening_eq_some h]
  simp only [openingBraces, closingBraces, List.length_append, List.length_cons]
  omega

/-- As much fuel as there is text is enough. -/
theorem scanFrom_fuel {m n : Nat} {s : List Char} (hm : s.length ≤ m) (hn : s.length ≤ n) :
    scanFrom m s = scanFrom n s := by
  induction m generalizing n s with
  | zero =>
    rw [List.eq_nil_of_length_eq_zero (Nat.le_zero.mp hm)]
    cases n <;> rfl
  | succ m ih =>
    cases s with
    | nil => cases n <;> rfl
    | cons c rest =>
      obtain ⟨n, rfl⟩ := Nat.exists_eq_add_of_le' (Nat.lt_of_lt_of_le (Nat.succ_pos _) hn)
      rw [List.length_cons] at hm hn
      rw [scanFrom, scanFrom]
      cases hopening : opening (c :: rest) with
      | none =>
        dsimp only
        rw [ih (n := n) (by omega) (by omega)]
      | some cut =>
        obtain ⟨inner, after⟩ := cut
        have hshorter := length_lt_of_opening hopening
        rw [List.length_cons] at hshorter
        dsimp only
        rw [ih (n := n) (by omega) (by omega)]

theorem scanFrom_eq_scan {fuel : Nat} {s : List Char} (h : s.length ≤ fuel) :
    scanFrom fuel s = scan s :=
  scanFrom_fuel h (Nat.le_refl _)

/-- A text with a placeholder in front. -/
theorem scan_placeholder {s inner after : List Char} (h : opening s = some (inner, after)) :
    scan s = ⟨[], (inner, (scan after).lead) :: (scan after).slots⟩ := by
  cases s with
  | nil => cases h
  | cons c rest =>
    have hshorter := length_lt_of_opening h
    rw [List.length_cons] at hshorter
    rw [scan, List.length_cons, scanFrom, h]
    dsimp only
    rw [scanFrom_eq_scan (by omega)]

/-- A text with another character in front. -/
theorem scan_cons {c : Char} {rest : List Char} (h : opening (c :: rest) = none) :
    scan (c :: rest) = ⟨c :: (scan rest).lead, (scan rest).slots⟩ := by
  rw [scan, List.length_cons, scanFrom, h]
  rfl

theorem source_placeholder (inner : List Char) (t : Template) :
    source ⟨[], (inner, t.lead) :: t.slots⟩ =
      openingBraces ++ (inner ++ (closingBraces ++ t.source)) := by
  rw [source, source, List.flatMap_cons]
  simp only [openingBraces, closingBraces, List.cons_append, List.nil_append, List.append_assoc]

/-- A text is scanned from placeholder to placeholder, and character by character where none
starts. -/
@[elab_as_elim]
theorem scan_induction {P : List Char → Prop} (nil : P [])
    (placeholder : ∀ s inner after, opening s = some (inner, after) → P after → P s)
    (literal : ∀ c rest, opening (c :: rest) = none → P rest → P (c :: rest)) (s : List Char) :
    P s := by
  induction hlength : s.length using Nat.strong_induction_on generalizing s with
  | _ n ih =>
    cases s with
    | nil => exact nil
    | cons c rest =>
      cases hopening : opening (c :: rest) with
      | none => exact literal c rest hopening (ih _ (hlength ▸ Nat.lt_succ_self _) rest rfl)
      | some cut =>
        obtain ⟨inner, after⟩ := cut
        exact placeholder _ inner after hopening
          (ih _ (hlength ▸ length_lt_of_opening hopening) after rfl)

/-- A text is cut without loss. -/
theorem source_scan (s : List Char) : (scan s).source = s := by
  induction s using scan_induction with
  | nil => rfl
  | placeholder s inner after h ih =>
    rw [scan_placeholder h, source_placeholder, ih]
    exact (opening_eq_some h).symm
  | literal c rest h ih =>
    rw [scan_cons h]
    exact congrArg (c :: ·) ih

/-- Without opening braces there is nothing to cut. -/
theorem scan_of_unopened {s : List Char} (h : ¬ openingBraces <:+: s) : scan s = ⟨s, []⟩ := by
  induction s with
  | nil => rfl
  | cons c rest ih =>
    rw [List.infix_cons_iff, not_or] at h
    rw [scan_cons (opening_eq_none h.1), ih h.2]

/-- What is left of a text when its placeholders become nothing. -/
theorem fill_of_no_slots {s : List Char} (h : (scan s).slots = [])
    (value : List Char → List Char) : (scan s).fill value = s := by
  have hsource := source_scan s
  rw [source, h, List.flatMap_nil] at hsource
  rw [fill, h, List.flatMap_nil]
  exact hsource

theorem fill_placeholder {s inner after : List Char} (h : opening s = some (inner, after))
    (value : List Char → List Char) :
    (scan s).fill value = value (Text.strip inner) ++ (scan after).fill value := by
  rw [scan_placeholder h, fill, fill, List.flatMap_cons, List.nil_append, List.append_assoc]

theorem dropFinalBreak_of_not_mem {s : List Char} (h : '\n' ∉ s) : Text.dropFinalBreak s = s := by
  unfold Text.dropFinalBreak
  split
  · rename_i heq
    have hmem : '\n' ∈ s.reverse := heq ▸ List.mem_cons_self
    exact absurd (List.mem_reverse.mp hmem) h
  · rfl

theorem dropFinalBreak_concat (s : List Char) : Text.dropFinalBreak (s ++ ['\n']) = s := by
  rw [Text.dropFinalBreak, List.reverse_append]
  exact List.reverse_reverse s

theorem dropFinalBreak_cases (s : List Char) :
    s = Text.dropFinalBreak s ++ [] ∨ s = Text.dropFinalBreak s ++ ['\n'] := by
  unfold Text.dropFinalBreak
  split
  · rename_i rest heq
    right
    rw [← List.reverse_reverse s, heq, List.reverse_cons]
  · exact .inl (List.append_nil s).symm

theorem Enclosed.dropFinalBreak {s inner tail : List Char} (h : Enclosed s inner tail) :
    Text.dropFinalBreak s = openingBraces ++ (inner ++ closingBraces) := by
  rw [h.text]
  rcases h.tail with rfl | rfl
  · rw [List.append_nil]
    refine dropFinalBreak_of_not_mem ?_
    simp only [openingBraces, closingBraces, List.mem_append, not_or]
    exact ⟨by decide, h.line, by decide⟩
  · exact dropFinalBreak_concat _

theorem whole?_eq_some_iff {s inner : List Char} :
    whole? s = some inner ↔ ∃ tail, Enclosed s inner tail := by
  constructor
  · intro h
    unfold whole? at h
    split at h
    · rename_i rest hbody
      split at h
      · rename_i reversed hrest
        dsimp only at h
        split at h
        · cases h
        · rename_i hplain
          cases h
          rw [Bool.or_eq_true, not_or, List.contains_iff_mem, hasOpening_iff] at hplain
          have hclosed : rest = reversed.reverse ++ closingBraces := by
            rw [← List.reverse_reverse rest, hrest]
            simp [closingBraces]
          have hopened : Text.dropFinalBreak s =
              openingBraces ++ (reversed.reverse ++ closingBraces) := by
            rw [hbody, hclosed]
            rfl
          rcases dropFinalBreak_cases s with hs | hs
          · exact ⟨[], hopened ▸ hs, .inl rfl, hplain.1, hplain.2⟩
          · exact ⟨['\n'], hopened ▸ hs, .inr rfl, hplain.1, hplain.2⟩
      · cases h
    · cases h
  · rintro ⟨tail, h⟩
    have hunopened : hasOpening inner = false :=
      Bool.eq_false_iff.mpr fun hopens => h.unopened (hasOpening_iff.mp hopens)
    rw [whole?, h.dropFinalBreak]
    simp [openingBraces, closingBraces, hunopened, h.line]

/-- A text that is one placeholder and not frayed opens with it and ends with it. -/
theorem Enclosed.opening_of_not_frayed {s inner tail : List Char} (h : Enclosed s inner tail)
    (whole : ¬ Frayed s) : opening s = some (inner, []) := by
  have hends : ¬ (tail = ['\n'] ∨ closingBraces <:+: inner ++ ['\x7d']) :=
    fun hmore => whole ⟨inner, tail, h, hmore⟩
  rw [not_or] at hends
  have htail : tail = [] := h.tail.resolve_right hends.1
  rw [h.text, htail, List.append_nil]
  have hclosing := closing_append h.line hends.2 []
  rw [List.append_nil] at hclosing
  exact hclosing

/-- Behind the first placeholder of a frayed text there is more, and no other placeholder. -/
theorem Frayed.opening_eq {s : List Char} (h : Frayed s) :
    ∃ first after, opening s = some (first, after) ∧ after ≠ [] ∧ ¬ openingBraces <:+: after := by
  obtain ⟨inner, tail, henclosed, hmore⟩ := h
  have htext : s = openingBraces ++ (inner ++ (closingBraces ++ tail)) := by
    rw [henclosed.text, List.append_assoc, List.append_assoc]
  obtain ⟨first, after, hclosing⟩ := closing_isSome henclosed.line tail
  obtain ⟨hcut, hnearest⟩ := closing_eq_some hclosing
  refine ⟨first, after, ?_, ?_, ?_⟩
  · rw [htext]
    exact hclosing
  · rintro rfl
    rw [List.append_nil] at hcut
    rcases henclosed.tail with rfl | rfl
    · rw [List.append_nil] at hcut
      have hfirst : inner = first := List.append_cancel_right hcut
      subst hfirst
      exact hmore.elim (fun hbreak => by cases hbreak) hnearest
    · have hlast := congrArg List.getLast? hcut
      simp [closingBraces] at hlast
  · have hbehind : '\x7b' ∉ closingBraces ++ tail := by
      rcases henclosed.tail with rfl | rfl <;> decide
    have hnone := unopened_append henclosed.unopened hbehind
    rw [hcut] at hnone
    intro hin
    exact hnone (hin.trans ⟨first ++ closingBraces, [], by simp⟩)

theorem fill_of_not_frayed {s inner tail : List Char} (h : Enclosed s inner tail)
    (whole : ¬ Frayed s) (value : List Char → List Char) :
    (scan s).fill value = value (Text.strip inner) := by
  have hrest : (scan []).fill value = [] := rfl
  rw [fill_placeholder (h.opening_of_not_frayed whole), hrest, List.append_nil]

theorem Frayed.fill_ne_nil {s : List Char} (h : Frayed s) (value : List Char → List Char) :
    (scan s).fill value ≠ [] := by
  obtain ⟨first, after, hopening, hmore, hunopened⟩ := h.opening_eq
  have hafter : (scan after).fill value = after :=
    fill_of_no_slots (by rw [scan_of_unopened hunopened]) value
  rw [fill_placeholder hopening, hafter]
  exact fun hnil => hmore (List.append_eq_nil_iff.mp hnil).2

theorem Frayed.whole {s : List Char} (h : Frayed s) : ∃ inner, whole? s = some inner := by
  obtain ⟨inner, tail, henclosed, -⟩ := h
  exact ⟨inner, whole?_eq_some_iff.mpr ⟨tail, henclosed⟩⟩

/-- No path leads anywhere from an empty table. -/
theorem get?_empty (path : List Char) : Path.get? (.obj []) path = none := by
  have hsteps : Path.steps path ≠ [] := by
    unfold Path.steps
    split
    · exact List.cons_ne_nil _ _
    · exact List.cons_ne_nil _ _
    · split <;> exact List.cons_ne_nil _ _
  obtain ⟨piece, rest, hpath⟩ := List.exists_cons_of_ne_nil hsteps
  rw [Path.get?, hpath]
  rfl

theorem caption_getD_empty (found : Option Json) :
    (found.getD (.str "")).caption = (found.getD .null).caption := by
  cases found <;> rfl

theorem caption_resolve_of_not_frayed (context : Json) {s : String} (h : ¬ Frayed s.toList) :
    (resolve context (.str s)).caption = interpolate context s := by
  rw [resolve, resolveString]
  split
  · rename_i inner hwhole
    obtain ⟨tail, henclosed⟩ := whole?_eq_some_iff.mp hwhole
    rw [interpolate, fill_of_not_frayed henclosed h, String.ofList_toList, caption_getD_empty]
    rfl
  · split
    · rfl
    · rename_i hnone
      have hslots : (scan s.toList).slots = [] := by simpa [hasPlaceholder] using hnone
      rw [interpolate, fill_of_no_slots hslots, String.ofList_toList]
      rfl

theorem Frayed.hasPlaceholder {s : String} (h : Frayed s.toList) : hasPlaceholder s = true := by
  obtain ⟨first, after, hopening, -⟩ := h.opening_eq
  rw [Template.hasPlaceholder, scan_placeholder hopening]
  rfl

theorem Frayed.resolve_empty {s : String} (h : Frayed s.toList) :
    resolve (.obj []) (.str s) = .str "" := by
  obtain ⟨inner, hwhole⟩ := h.whole
  rw [resolve, resolveString, hwhole]
  dsimp only
  rw [get?_empty]
  rfl

theorem Frayed.interpolate_ne {s : String} (h : Frayed s.toList) (context : Json) :
    interpolate context s ≠ "" := by
  intro heq
  have hnil := congrArg String.toList heq
  rw [interpolate, String.toList_ofList] at hnil
  exact h.fill_ne_nil _ hnil

/-- A text is shown alike whether it is resolved or interpolated, against all bindings, exactly
if it is not frayed. A frayed text has a placeholder, and what stands behind it is lost already
where nothing is bound. -/
theorem caption_resolve_iff (s : String) :
    ((∀ fields : Assoc Json,
        (resolve (.obj fields) (.str s)).caption = interpolate (.obj fields) s) ↔
      ¬ Frayed s.toList) ∧
    (Frayed s.toList → hasPlaceholder s = true ∧
      resolve (.obj []) (.str s) = .str "" ∧ interpolate (.obj []) s ≠ "") := by
  refine ⟨⟨fun alike hfrayed => ?_, fun hwhole fields => ?_⟩, fun hfrayed => ?_⟩
  · have hempty := alike []
    rw [hfrayed.resolve_empty] at hempty
    exact hfrayed.interpolate_ne _ hempty.symm
  · exact caption_resolve_of_not_frayed _ hwhole
  · exact ⟨hfrayed.hasPlaceholder, hfrayed.resolve_empty, hfrayed.interpolate_ne _⟩

/-- A line break behind a placeholder is dropped, and so is text that ends in braces, together
with the value. -/
theorem frayed_ends_dropped :
    (hasPlaceholder "\x7b\x7ba\x7d\x7d\n" = true ∧
      resolve (.obj [("a", .str "x")]) (.str "\x7b\x7ba\x7d\x7d\n") = .str "x" ∧
      interpolate (.obj [("a", .str "x")]) "\x7b\x7ba\x7d\x7d\n" = "x\n") ∧
    (hasPlaceholder "\x7b\x7ba\x7d\x7d and \x7d\x7d" = true ∧
      resolve (.obj [("a", .str "x")]) (.str "\x7b\x7ba\x7d\x7d and \x7d\x7d") = .str "" ∧
      interpolate (.obj [("a", .str "x")]) "\x7b\x7ba\x7d\x7d and \x7d\x7d" =
        "x and \x7d\x7d") ∧
    ¬ ∀ (s : String) (fields : Assoc Json), hasPlaceholder s = true →
      (resolve (.obj fields) (.str s)).caption = interpolate (.obj fields) s := by
  refine ⟨⟨by decide +kernel, rfl, by decide +kernel⟩,
    ⟨by decide +kernel, rfl, by decide +kernel⟩, fun always => ?_⟩
  have hshown := always "\x7b\x7ba\x7d\x7d\n" [("a", .str "x")] (by decide +kernel)
  exact absurd hshown (by decide +kernel)

end Storyboard.Template
