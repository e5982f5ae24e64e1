import Storyboard.Proofs.Json.Scalars

/-!
# Numbers of too many digits

A reader takes what it reads from the front of a text and leaves the rest. If it stops at a
number with too many digits, those digits stand side by side in the text.
-/
namespace Storyboard.Json

/-- A text has a run of digits that is longer than a number may be. -/
def DigitRun (bounds : Bounds) (s : List Char) (n : Nat) : Prop :=
  bounds.digits < n ∧
    ∃ ds : List Char, ds.length = n ∧ (∀ c ∈ ds, isAsciiDigit c = true) ∧ ds <:+: s

/-- What a reader leaves is the end of its text, and digits it stops at are in the text. -/
def Takes {α : Type} (bounds : Bounds) (s : List Char) : Except ReadError (α × List Char) → Prop
  | .ok (_, rest) => rest <:+ s
  | .error (.tooManyDigits n) => DigitRun bounds s n
  | .error _ => True

theorem skipGap_suffix (s : List Char) : skipGap s <:+ s := List.dropWhile_suffix isGap

theorem skipGap_eq_suffix {c : Char} {s rest : List Char} (h : skipGap s = c :: rest) :
    rest <:+ s :=
  (List.suffix_cons c rest).trans (h ▸ skipGap_suffix s)

namespace Takes

variable {α β : Type} {bounds : Bounds}

theorem mono {s t : List Char} {x : Except ReadError (α × List Char)} (h : Takes bounds s x)
    (suffix : s <:+ t) : Takes bounds t x := by
  match x, h with
  | .ok (_, rest), h => exact h.trans suffix
  | .error (.tooManyDigits n), ⟨hn, ds, hlength, hdigits, hinfix⟩ =>
    exact ⟨hn, ds, hlength, hdigits, hinfix.trans suffix.isInfix⟩
  | .error (.malformed _ _), _ => trivial
  | .error .tooDeep, _ => trivial
  | .error .unpaired, _ => trivial

/-- A word was read. -/
theorem word (n : Nat) {s : List Char} (a : α) :
    Takes bounds s (.ok (a, s.drop n) : Except ReadError (α × List Char)) := List.drop_suffix n s

/-- Reading from a later place on. -/
theorem dropped (n : Nat) {s : List Char} {x : Except ReadError (α × List Char)}
    (h : Takes bounds (s.drop n) x) : Takes bounds s x := h.mono (List.drop_suffix n s)

theorem malformed {s : List Char} (fault : Fault) (rest : List Char) :
    Takes bounds s (Json.malformed fault rest : Except ReadError (α × List Char)) := trivial

theorem bind {s : List Char} {x : Except ReadError (α × List Char)}
    {f : α × List Char → Except ReadError (β × List Char)} (h : Takes bounds s x)
    (next : ∀ a rest, rest <:+ s → Takes bounds s (f (a, rest))) : Takes bounds s (x >>= f) := by
  match x, h with
  | .ok (a, rest), h => exact next a rest h
  | .error (.tooManyDigits n), h => exact h
  | .error (.malformed _ _), _ => trivial
  | .error .tooDeep, _ => trivial
  | .error .unpaired, _ => trivial

end Takes

section Scalars

variable {bounds : Bounds}

theorem takes_stringBody (opening done s : List Char) :
    Takes bounds s (stringBody opening done s) := by
  fun_induction stringBody opening done s
  case case2 => exact List.suffix_cons _ _
  case case6 ih => exact .dropped 12 ih
  case case9 ih => exact .dropped 6 ih
  case case12 ih => exact .dropped 6 ih
  case case14 ih => exact .dropped 2 ih
  case case17 ih => exact .dropped 1 ih
  all_goals trivial

theorem wholeDigits_spec (s : List Char) :
    (wholeDigits s).1 ++ (wholeDigits s).2 = s ∧
      ∀ c ∈ (wholeDigits s).1, isAsciiDigit c = true := by
  unfold wholeDigits
  split
  · exact ⟨rfl, List.forall_mem_singleton.mpr rfl⟩
  · exact ⟨List.takeWhile_append_dropWhile, fun c hc => List.mem_takeWhile_imp hc⟩

theorem fraction_suffix (s : List Char) : (fraction s).2 <:+ s := by
  unfold fraction
  split
  · dsimp only
    split
    · exact List.suffix_rfl
    · exact (List.dropWhile_suffix _).trans (List.suffix_cons _ _)
  · exact List.suffix_rfl

theorem exponentSign_suffix (s : List Char) : (exponentSign s).2 <:+ s := by
  unfold exponentSign
  split
  · exact List.suffix_cons _ _
  · exact List.suffix_cons _ _
  · exact List.suffix_rfl

theorem exponent_suffix (s : List Char) : (exponent s).2 <:+ s := by
  cases s with
  | nil => exact List.suffix_rfl
  | cons mark s =>
    rw [exponent_cons]
    split
    · dsimp only
      split
      · exact List.suffix_rfl
      · exact ((List.dropWhile_suffix _).trans (exponentSign_suffix s)).trans (List.suffix_cons _ _)
    · exact List.suffix_rfl

theorem numberSign_suffix (s : List Char) : (numberSign s).2 <:+ s := by
  unfold numberSign
  split
  · exact List.suffix_cons _ _
  · exact List.suffix_rfl

theorem takes_number (s : List Char) : Takes bounds s (number bounds s) := by
  rw [number_eq]
  obtain ⟨hsplit, hdigits⟩ := wholeDigits_spec (numberSign s).2
  have hsign := numberSign_suffix s
  have hwhole : (wholeDigits (numberSign s).2).1 <:+: s :=
    List.IsInfix.trans ⟨[], _, hsplit⟩ hsign.isInfix
  have hrest : (exponent (fraction (wholeDigits (numberSign s).2).2).2).2 <:+ s :=
    ((exponent_suffix _).trans (fraction_suffix _)).trans (List.IsSuffix.trans ⟨_, hsplit⟩ hsign)
  dsimp only
  split
  · trivial
  · split
    · split
      · rename_i hlong
        exact ⟨hlong, _, rfl, hdigits, hwhole⟩
      · exact hrest
    · exact hrest

theorem takes_scalar (s : List Char) : Takes bounds s (scalar bounds s) := by
  rcases @scalar_cases bounds s with ⟨body, rfl⟩ | ⟨word, v, rest, hword, rfl⟩ | h
  · exact .dropped 1 ((takes_stringBody _ [] body).bind fun t rest hrest => hrest)
  · rw [scalar_word hword]
    exact List.suffix_append _ _
  · rw [h]
    exact takes_number s

end Scalars

section Values

variable {bounds : Bounds} {item : Parse Json}

theorem takes_elements (hitem : ∀ s, Takes bounds s (item s)) (fuel : Nat) (s : List Char) :
    Takes bounds s (elements item fuel s) := by
  induction fuel generalizing s with
  | zero => exact .malformed _ _
  | succ fuel ih =>
    rw [elements]
    refine (hitem s).bind fun v rest hrest => ?_
    dsimp only
    split
    · rename_i later hlater
      exact (skipGap_eq_suffix hlater).trans hrest
    · rename_i later hlater
      refine .bind ((ih (skipGap later)).mono ?_) fun vs rest hrest => hrest
      exact ((skipGap_suffix later).trans (skipGap_eq_suffix hlater)).trans hrest
    · exact .malformed _ _

theorem takes_members (hitem : ∀ s, Takes bounds s (item s)) (fuel : Nat) (s : List Char) :
    Takes bounds s (members item fuel s) := by
  induction fuel generalizing s with
  | zero => exact .malformed _ _
  | succ fuel ih =>
    unfold members
    split
    · rename_i body
      refine .bind ((takes_stringBody _ [] body).mono (List.suffix_cons _ _)) fun k rest hk => ?_
      dsimp only
      split
      · rename_i named hnamed
        have hnamed := (skipGap_suffix named).trans ((skipGap_eq_suffix hnamed).trans hk)
        refine ((hitem (skipGap named)).mono hnamed).bind fun v rest hrest => ?_
        dsimp only
        split
        · rename_i later hlater
          exact (skipGap_eq_suffix hlater).trans hrest
        · rename_i later hlater
          refine .bind ((ih (skipGap later)).mono ?_) fun vs rest hrest => hrest
          exact ((skipGap_suffix later).trans (skipGap_eq_suffix hlater)).trans hrest
        · exact .malformed _ _
      · exact .malformed _ _
    · exact .malformed _ _

/-- By induction on the containers that may still be opened. -/
theorem takes_value (fuel depth : Nat) (s : List Char) :
    Takes bounds s (value bounds fuel depth s) := by
  induction depth generalizing s with
  | zero =>
    unfold value
    split
    · trivial
    · trivial
    · exact takes_scalar s
  | succ depth ih =>
    unfold value
    split
    · rename_i body
      split
      · rename_i later hlater
        exact (skipGap_eq_suffix hlater).trans (List.suffix_cons _ _)
      · refine .bind ((takes_elements ih fuel _).mono ?_) fun vs rest hrest => hrest
        exact (skipGap_suffix body).trans (List.suffix_cons _ _)
    · rename_i body
      split
      · rename_i later hlater
        exact (skipGap_eq_suffix hlater).trans (List.suffix_cons _ _)
      · refine .bind ((takes_members ih fuel _).mono ?_) fun ms rest hrest => hrest
        exact (skipGap_suffix body).trans (List.suffix_cons _ _)
    · exact takes_scalar s

/-- A text whose reading stops at a number with too many digits has those digits in it. -/
theorem digitRun_of_read {text : String} {n : Nat}
    (h : read bounds text = .error (.tooManyDigits n)) : DigitRun bounds text.toList n := by
  unfold read at h
  generalize text.toList = s at h ⊢
  have htakes : Takes bounds s (value bounds (s.length + 1) bounds.depth (skipGap s)) :=
    (takes_value _ _ _).mono (skipGap_suffix s)
  have hvalue : value bounds (s.length + 1) bounds.depth (skipGap s) =
      .error (.tooManyDigits n) := by
    simp only [bind, Except.bind] at h
    cases hv : value bounds (s.length + 1) bounds.depth (skipGap s) with
    | error e =>
      rw [hv] at h
      split at h
      · split at h <;> cases h
        rfl
      · cases h
        rfl
    | ok p =>
      simp only [hv] at h
      -- after a value only what follows it can be wrong
      unfold malformed at h
      split at h
      · split at h
        · cases h
        · split at h <;> cases h
      · split at h <;> cases h
  rw [hvalue] at htakes
  exact htakes

end Values

end Storyboard.Json
