import Storyboard.Proofs.Template.MissingTokens
import Storyboard.Proofs.Template.Substitution

/-!
# Supplying missing tokens

A token table can be extended without giving its tokens other values. What this changes in a value
is decided by the names that were missing: as long as none of them is given a value, the value
resolves as before, and one that is given a value shows wherever the value refers to it.
`missing_tokens_exact` says so, and in which order the missing names are listed.
-/
namespace Storyboard.Token

/-- The table `more` has all tokens of another one, with their values. -/
def Extends (more tokens : Assoc Json) : Prop :=
  ∀ name w, Assoc.get? tokens name = some w → Assoc.get? more name = some w

/-- The names that a value refers to, one place after the other, each place before those in it. -/
def namesInOrder (v : Json) : List String := (v.places []).filterMap referenceAt?

theorem name?_eq_some_iff {s name : String} :
    name? s = some name ↔ s = "$" ++ name ∧ name ≠ "" := by
  constructor
  · intro h
    unfold name? at h
    split at h
    · rename_i c rest htext
      cases h
      refine ⟨String.toList_injective ?_, fun hempty => ?_⟩
      · simp [htext]
      · rw [← String.toList_eq_nil_iff, String.toList_ofList] at hempty
        exact List.cons_ne_nil c rest hempty
    · cases h
  · rintro ⟨rfl, hname⟩
    obtain ⟨c, rest, hlist⟩ := List.exists_cons_of_ne_nil fun hnil =>
      hname (String.toList_eq_nil_iff.mp hnil)
    have htext : ("$" ++ name).toList = '$' :: c :: rest := by
      rw [String.toList_append, hlist]
      rfl
    simp only [name?, htext]
    rw [← hlist, String.ofList_toList]

theorem lookup_eq_get? {tokens : Assoc Json} (valued : ∀ p ∈ tokens, p.2 ≠ .null) (name : String) :
    lookup tokens name = Assoc.get? tokens name := by
  unfold lookup
  split
  · rename_i hnull
    exact absurd rfl (valued _ (Assoc.mem_of_get? hnull))
  · rfl

theorem mem_missing {tokens : Assoc Json} {v : Json} {name : String} :
    name ∈ missing tokens v ↔ name ∈ references v ∧ Assoc.get? tokens name = none := by
  rw [missing, (firstOccurrences_distinct _).same, List.mem_filter, Assoc.has]
  simp

/-- What a filter keeps comes in the order in which it came. -/
theorem idxOf_lt_of_filter {names : List String} {keep : String → Bool} {a b : String}
    (ha : keep a = true) (hb : keep b = true)
    (h : (names.filter keep).idxOf a < (names.filter keep).idxOf b) :
    names.idxOf a < names.idxOf b := by
  induction names with
  | nil => exact absurd h (Nat.lt_irrefl _)
  | cons name rest ih =>
    by_cases hname : keep name = true
    · rw [List.filter_cons_of_pos hname] at h
      by_cases hna : name = a
      · subst hna
        have hne : name ≠ b := by
          rintro rfl
          exact Nat.lt_irrefl _ h
        rw [List.idxOf_cons_self, List.idxOf_cons_ne _ hne]
        exact Nat.succ_pos _
      · have hne : name ≠ b := by
          rintro rfl
          rw [List.idxOf_cons_self] at h
          exact Nat.not_lt_zero _ h
        rw [List.idxOf_cons_ne _ hna, List.idxOf_cons_ne _ hne] at h ⊢
        exact Nat.succ_lt_succ (ih (Nat.lt_of_succ_lt_succ h))
    · have hother : ∀ kept, keep kept = true → name ≠ kept := by
        rintro kept hkept rfl
        exact hname hkept
      rw [List.filter_cons_of_neg hname] at h
      rw [List.idxOf_cons_ne _ (hother a ha), List.idxOf_cons_ne _ (hother b hb)]
      exact Nat.succ_lt_succ (ih h)

theorem missing_inOrder (tokens : Assoc Json) (v : Json) :
    (missing tokens v).Pairwise fun a b =>
      (namesInOrder v).idxOf a < (namesInOrder v).idxOf b := by
  have hlisted := firstOccurrences_distinct ((references v).filter fun n => !Assoc.has tokens n)
  refine hlisted.order.imp_of_mem fun ha hb hlt => ?_
  have ha := List.mem_filter.mp ((hlisted.same _).mp ha)
  have hb := List.mem_filter.mp ((hlisted.same _).mp hb)
  rw [namesInOrder, ← references_eq]
  exact idxOf_lt_of_filter ha.2 hb.2 hlt

/-- A text with the name of a token becomes the value of the token, if there is one. -/
theorem resolveString_reference {tokens : Assoc Json} (valued : ∀ p ∈ tokens, p.2 ≠ .null)
    {s name : String} (h : name? s = some name) :
    resolveString tokens s = (Assoc.get? tokens name).getD (.str s) := by
  rw [resolveString, h, Option.bind_some, lookup_eq_get? valued]

section Supplied

variable {tokens more : Assoc Json} (valued : ∀ p ∈ tokens, p.2 ≠ .null)
  (valued' : ∀ p ∈ more, p.2 ≠ .null) (extension : Extends more tokens)
include valued valued' extension

/-- More tokens change a text only if it refers to one that was missing, and not if the value of
that one is the text itself. -/
theorem resolveString_supplied {s : String} :
    resolveString more s = resolveString tokens s ↔
      ∀ name, name? s = some name → Assoc.get? tokens name = none →
        ∀ w, Assoc.get? more name = some w → w = .str s := by
  cases hname : name? s with
  | none => simp [resolveString, hname]
  | some name =>
    rw [resolveString_reference valued hname, resolveString_reference valued' hname]
    cases hfound : Assoc.get? tokens name with
    | some u => simp [extension name u hfound, hfound]
    | none => cases hmore : Assoc.get? more name <;> simp [hfound, hmore]

/-- More tokens change a value exactly if one of the missing names gets a value that is not the
text with this name, and such a value shows wherever that text stood. Each missing name is listed
once, in the order in which the value first refers to it. -/
theorem missing_tokens_exact (v : Json) :
    (resolveAll more v = resolveAll tokens v ↔
      ∀ name ∈ missing tokens v, ∀ w, Assoc.get? more name = some w → w = .str ("$" ++ name)) ∧
    (∀ name ∈ missing tokens v, ∃ path, v.Leads path (.str ("$" ++ name)) ∧
      (resolveAll tokens v).Leads path (.str ("$" ++ name)) ∧
      ∀ w, Assoc.get? more name = some w → (resolveAll more v).Leads path w) ∧
    (missing tokens v).Nodup ∧
    (missing tokens v).Pairwise fun a b =>
      (namesInOrder v).idxOf a < (namesInOrder v).idxOf b := by
  refine ⟨?_, fun name hmissing => ?_, (firstOccurrences_distinct _).nodup,
    missing_inOrder tokens v⟩
  · rw [resolveAll_eq, resolveAll_eq, Json.substitute_eq_iff]
    simp only [resolveString_supplied valued valued' extension, mem_missing, mem_references]
    constructor
    · rintro h name ⟨⟨path, s, hs, hname⟩, hnone⟩ w hw
      rw [h path s hs name hname hnone w hw, (name?_eq_some_iff.mp hname).1]
    · intro h path s hs name hname hnone w hw
      rw [h name ⟨⟨path, s, hs, hname⟩, hnone⟩ w hw, (name?_eq_some_iff.mp hname).1]
  · obtain ⟨hmem, hnone⟩ := mem_missing.mp hmissing
    obtain ⟨path, s, hs, hname⟩ := mem_references.mp hmem
    rw [← (name?_eq_some_iff.mp hname).1, resolveAll_eq, resolveAll_eq]
    have hold := hs.substitute (resolveString tokens)
    rw [resolveString_reference valued hname, hnone] at hold
    refine ⟨path, hs, hold, fun w hw => ?_⟩
    have hnew := hs.substitute (resolveString more)
    rwa [resolveString_reference valued' hname, hw] at hnew

end Supplied

/-- A box that refers to two missing tokens, to one of them twice, and to one that is there. -/
def paintedBox : Json :=
  .obj [("border", .str "$line"), ("fill", .arr [.str "$shade", .str "$ink", .str "$line"]),
    ("$shade", .str "$")]

theorem paintedBox_supplied :
    let tokens : Assoc Json := [("ink", .int 7)]
    let more : Assoc Json := [("shade", .str "$shade"), ("ink", .int 7), ("line", .str "$ink")]
    (∀ p ∈ tokens, p.2 ≠ .null) ∧ (∀ p ∈ more, p.2 ≠ .null) ∧ Extends more tokens ∧
      missing tokens paintedBox = ["line", "shade"] ∧
      resolveAll more paintedBox ≠ resolveAll tokens paintedBox ∧
      ∃ path, (resolveAll more paintedBox).Leads path (.str "$ink") := by
  intro tokens more
  have valued : ∀ p ∈ tokens, p.2 ≠ .null := by simp [tokens]
  have valued' : ∀ p ∈ more, p.2 ≠ .null := by simp [more]
  have extension : Extends more tokens := by
    intro name w h
    rw [Assoc.get?] at h
    split at h
    · rename_i hname
      cases eq_of_beq hname
      exact h
    · cases h
  have hmissing : missing tokens paintedBox = ["line", "shade"] := by decide
  obtain ⟨hchanged, hshown, -⟩ := missing_tokens_exact valued valued' extension paintedBox
  have hline : "line" ∈ missing tokens paintedBox := hmissing ▸ List.mem_cons_self
  obtain ⟨path, -, -, hpath⟩ := hshown "line" hline
  refine ⟨valued, valued', extension, hmissing, fun hsame => ?_, path, hpath _ rfl⟩
  have hvalue := hchanged.mp hsame "line" hline (.str "$ink") rfl
  simp at hvalue

end Storyboard.Token
