import Storyboard.Proofs.Template.Placeholders

/-!
# Interpolated text

A text is cut at its placeholders once, and each value is put where its placeholder stood. What a
value says is not cut again, and what stands between the placeholders stays as it is.
`interpolation_substitutes_once` says so of every text, and that exactly the texts without a
placeholder stay the same in all contexts.
-/
namespace Storyboard.Template

/-- A text has no complete placeholder: two closing braces never follow two opening ones in the
same line. -/
def Bare (s : List Char) : Prop :=
  ∀ inner, '\n' ∉ inner → ¬ openingBraces ++ (inner ++ closingBraces) <:+: s

/-- A text is put together from literals without a placeholder and the inner texts of placeholders,
each in one line and without two closing braces. -/
structure Cuts (cut : Template) (s : List Char) : Prop where
  text : s = cut.lead ++ cut.slots.flatMap fun (inner, after) =>
    openingBraces ++ inner ++ closingBraces ++ after
  lead : Bare cut.lead
  literals : ∀ slot ∈ cut.slots, Bare slot.2
  line : ∀ slot ∈ cut.slots, '\n' ∉ slot.1
  nearest : ∀ slot ∈ cut.slots, ¬ closingBraces <:+: slot.1

theorem bare_nil : Bare [] := by
  intro inner _ hin
  have hnil := List.infix_nil.mp hin
  simp [openingBraces] at hnil

/-- Where a complete placeholder starts, one is found. -/
theorem opening_of_prefix {inner s : List Char} (line : '\n' ∉ inner)
    (h : openingBraces ++ (inner ++ closingBraces) <+: s) : opening s ≠ none := by
  obtain ⟨after, rfl⟩ := h
  obtain ⟨first, behind, hclosing⟩ := closing_isSome line after
  have hopening : opening (openingBraces ++ (inner ++ closingBraces) ++ after) =
      closing (inner ++ (closingBraces ++ after)) := by
    rw [List.append_assoc, List.append_assoc]
    rfl
  rw [hopening, hclosing]
  exact Option.some_ne_none _

theorem lead_prefix_scan (s : List Char) : (scan s).lead <+: s := ⟨_, source_scan s⟩

theorem bare_lead (s : List Char) : Bare (scan s).lead := by
  induction s using scan_induction with
  | nil => exact bare_nil
  | placeholder s inner after h _ =>
    rw [scan_placeholder h]
    exact bare_nil
  | literal c rest h ih =>
    rw [scan_cons h]
    intro inner line hin
    rcases List.infix_cons_iff.mp hin with hstarts | hlater
    · have hwhole := hstarts.trans (List.cons_prefix_cons.mpr ⟨rfl, lead_prefix_scan rest⟩)
      exact opening_of_prefix line hwhole h
    · exact ih inner line hlater

theorem closing_line {s inner after : List Char} (h : closing s = some (inner, after)) :
    '\n' ∉ inner := by
  induction s generalizing inner with
  | nil => cases h
  | cons c rest ih =>
    by_cases hcloses : closingBraces <+: c :: rest
    · obtain ⟨behind, hbehind⟩ := hcloses
      rw [← hbehind, closing_closed] at h
      cases h
      exact List.not_mem_nil
    · by_cases hline : c = '\n'
      · subst hline
        cases h
      · rw [closing_cons hcloses hline] at h
        obtain ⟨⟨first, behind⟩, hfirst, heq⟩ := Option.map_eq_some_iff.mp h
        cases heq
        exact List.not_mem_cons_of_ne_of_not_mem (Ne.symm hline) (ih hfirst)

/-- An inner text stays in its line and ends at the nearest closing braces. -/
theorem inner_of_opening {s inner after : List Char} (h : opening s = some (inner, after)) :
    '\n' ∉ inner ∧ ¬ closingBraces <:+: inner := by
  unfold opening at h
  split at h
  · have hnearest := (closing_eq_some h).2
    exact ⟨closing_line h, fun hin => hnearest (hin.trans (List.prefix_append _ _).isInfix)⟩
  · cases h

theorem slots_scan (s : List Char) : ∀ slot ∈ (scan s).slots,
    Bare slot.2 ∧ '\n' ∉ slot.1 ∧ ¬ closingBraces <:+: slot.1 := by
  induction s using scan_induction with
  | nil => exact List.forall_mem_nil _
  | placeholder s inner after h ih =>
    rw [scan_placeholder h]
    exact List.forall_mem_cons.mpr ⟨⟨bare_lead after, inner_of_opening h⟩, ih⟩
  | literal c rest h ih =>
    rw [scan_cons h]
    exact ih

theorem cuts_scan (s : List Char) : (scan s).Cuts s where
  text := by
    conv => lhs; rw [← source_scan s]
    simp only [source, openingBraces, closingBraces, List.cons_append, List.nil_append,
      List.append_assoc]
  lead := bare_lead s
  literals slot h := (slots_scan s slot h).1
  line slot h := (slots_scan s slot h).2.1
  nearest slot h := (slots_scan s slot h).2.2

/-- Only what the values say for the paths of a text counts. -/
theorem fill_congr {t : Template} {value value' : List Char → List Char}
    (h : ∀ path ∈ t.paths, value path = value' path) : t.fill value = t.fill value' := by
  rw [fill, fill]
  refine congrArg (t.lead ++ ·) (List.flatMap_congr fun slot hslot => ?_)
  exact congrArg (· ++ slot.2) (h (Text.strip slot.1) (List.mem_map_of_mem hslot))

/-- A placeholder that becomes nothing takes its four braces with it. -/
theorem length_fill_le (lead : List Char) (slots : List (List Char × List Char)) :
    (fill ⟨lead, slots⟩ fun _ => []).length + 4 * slots.length ≤ (source ⟨lead, slots⟩).length := by
  induction slots with
  | nil => simp [fill, source]
  | cons slot rest ih =>
    simp only [fill, source, List.flatMap_cons, List.length_append, List.length_cons,
      List.length_nil] at ih ⊢
    omega

theorem length_fill_lt {t : Template} (h : t.slots ≠ []) :
    (t.fill fun _ => []).length < t.source.length := by
  obtain ⟨lead, slots⟩ := t
  have hle := length_fill_le lead slots
  have hpos : 0 < slots.length := List.length_pos_iff.mpr h
  omega

theorem interpolate_empty (s : String) :
    interpolate (.obj []) s = String.ofList ((scan s.toList).fill fun _ => []) := by
  have hnone : (fun path => (valueAt (.obj []) path).caption.toList) = fun _ => [] := by
    funext path
    rw [valueAt, get?_empty]
    rfl
  rw [interpolate, hnone]

theorem extractPaths_eq_nil {s : String} : extractPaths s = [] ↔ (scan s.toList).slots = [] := by
  rw [extractPaths, paths, List.map_eq_nil_iff, List.map_eq_nil_iff]

theorem hasPlaceholder_eq_false {s : String} :
    hasPlaceholder s = false ↔ (scan s.toList).slots = [] := by
  rw [hasPlaceholder, Bool.not_eq_false', List.isEmpty_iff]

theorem interpolate_eq_self {s : String} (h : (scan s.toList).slots = []) (context : Json) :
    interpolate context s = s := by
  rw [interpolate, fill_of_no_slots h, String.ofList_toList]

/-- Where nothing is bound, a text with a placeholder does not stay the same. -/
theorem interpolate_empty_ne {s : String} (h : (scan s.toList).slots ≠ []) :
    interpolate (.obj []) s ≠ s := by
  intro heq
  have hshorter := length_fill_lt h
  rw [interpolate_empty] at heq
  have hlist : (scan s.toList).fill (fun _ => []) = s.toList := by
    rw [← String.toList_ofList (l := (scan s.toList).fill fun _ => []), heq]
  rw [hlist, source_scan] at hshorter
  exact Nat.lt_irrefl _ hshorter

/-- A text is cut in one way for all contexts, and interpolation puts the text of the value at each
extracted path, as it is, where the placeholder stood. So contexts that agree on the extracted
paths give the same text, and a text stays the same in all contexts exactly if it has no
placeholder, which is if no path is extracted. -/
theorem interpolation_substitutes_once (t : String) :
    (∃ cut : Template, cut.Cuts t.toList ∧
      extractPaths t = cut.slots.map (fun slot => String.ofList (Text.strip slot.1)) ∧
      ∀ context, interpolate context t = String.ofList (cut.lead ++ cut.slots.flatMap fun slot =>
        (valueAt context (Text.strip slot.1)).caption.toList ++ slot.2)) ∧
    (∀ context context', (∀ path ∈ extractPaths t,
        valueAt context path.toList = valueAt context' path.toList) →
      interpolate context t = interpolate context' t) ∧
    (hasPlaceholder t = false ↔ extractPaths t = []) ∧
    (extractPaths t = [] ↔ ∀ fields : Assoc Json, interpolate (.obj fields) t = t) := by
  refine ⟨⟨scan t.toList, cuts_scan t.toList, ?_, fun context => rfl⟩,
    fun context context' agree => ?_, ?_, fun hnone fields => ?_, fun unchanged => ?_⟩
  · rw [extractPaths, paths, List.map_map]
    rfl
  · rw [interpolate, interpolate]
    refine congrArg String.ofList (fill_congr fun path hpath => ?_)
    have hvalue := agree (String.ofList path) (List.mem_map_of_mem hpath)
    rw [String.toList_ofList] at hvalue
    rw [hvalue]
  · rw [hasPlaceholder_eq_false, extractPaths_eq_nil]
  · exact interpolate_eq_self (extractPaths_eq_nil.mp hnone) _
  · refine extractPaths_eq_nil.mpr (by_contra fun hslots => ?_)
    exact interpolate_empty_ne hslots (unchanged [])

/-- The first two of three opening braces open, and the first two of four closing ones close. -/
example : extractPaths "\x7b\x7b\x7ba\x7d\x7d\x7d\x7d" = ["\x7ba"] := by decide +kernel

end Storyboard.Template
