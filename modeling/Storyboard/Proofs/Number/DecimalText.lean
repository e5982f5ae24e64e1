import Storyboard.Json.Display
import Storyboard.Proofs.Json.Scalars
import Storyboard.Proofs.Number.Rounding

/-!
# The texts of numbers

A decimal is written with a point, with zeros filled in, or with an exponent; in each layout the
reader finds the decimal again, as the same rational number. So the text of a double determines
the double, and it is never the text of a whole number. Of the numbers only those that are not
numbers share a text.
-/
namespace Storyboard

namespace Json

theorem digitsValue_append (s t : List Char) :
    digitsValue (s ++ t) = digitsValue s * 10 ^ t.length + digitsValue t := by
  have hfold : ∀ (t : List Char) (n : Nat),
      t.foldl (fun n c => n * 10 + (c.toNat - 48)) n = n * 10 ^ t.length + digitsValue t := by
    intro t
    induction t with
    | nil => intro n; simp [digitsValue]
    | cons c t ih =>
      intro n
      have hc := ih (0 * 10 + (c.toNat - 48))
      rw [digitsValue, List.foldl_cons, List.foldl_cons, ih, hc, List.length_cons, pow_succ]
      ring
  rw [digitsValue, List.foldl_append]
  exact hfold t _

theorem digitsValue_zeros (n : Nat) : digitsValue (List.replicate n '0') = 0 := by
  induction n with
  | zero => rfl
  | succ n ih =>
    rw [List.replicate_succ, ← List.singleton_append, digitsValue_append, ih]
    simp [digitsValue]

/-- Nothing of a run of digits follows. -/
def NoDigit (rest : List Char) : Prop := ∀ c ∈ rest.head?, isAsciiDigit c = false

/-- Digits that can stand in front of a point: not none, and no zero in front of others. -/
structure Leading (s : List Char) : Prop where
  given : s ≠ []
  digits : ∀ c ∈ s, isAsciiDigit c = true
  zero : s = ['0'] ∨ ∀ t, s ≠ '0' :: t

section Digits

variable {s rest : List Char}

theorem takeWhile_digits (hs : ∀ c ∈ s, isAsciiDigit c = true) (hrest : NoDigit rest) :
    (s ++ rest).takeWhile isAsciiDigit = s := by
  rw [List.takeWhile_append_of_pos hs]
  cases rest with
  | nil => simp
  | cons c rest => simp [hrest c rfl]

theorem dropWhile_digits (hs : ∀ c ∈ s, isAsciiDigit c = true) (hrest : NoDigit rest) :
    (s ++ rest).dropWhile isAsciiDigit = rest := by
  rw [List.dropWhile_append_of_pos hs]
  cases rest with
  | nil => rfl
  | cons c rest => simp [hrest c rfl]

theorem wholeDigits_leading (hs : Leading s) (hrest : NoDigit rest) :
    wholeDigits (s ++ rest) = (s, rest) := by
  rcases hs.zero with rfl | hzero
  · rfl
  · rw [wholeDigits, takeWhile_digits hs.digits hrest, dropWhile_digits hs.digits hrest]
    intro t ht
    obtain ⟨c, u, rfl⟩ := List.exists_cons_of_ne_nil hs.given
    cases ht
    exact hzero u rfl

theorem fraction_point (given : s ≠ []) (hs : ∀ c ∈ s, isAsciiDigit c = true)
    (hrest : NoDigit rest) : fraction ('.' :: (s ++ rest)) = (s, rest) := by
  rw [fraction, takeWhile_digits hs hrest, dropWhile_digits hs hrest, if_neg (by simpa using given)]

end Digits

/-- The decimal that the reader takes a text without a sign for, unless it is a whole number. -/
def decimalOf? (s : List Char) : Option Decimal :=
  let whole := wholeDigits s
  let decimals := fraction whole.2
  let power := exponent decimals.2
  if whole.1.isEmpty || decimals.1.isEmpty && power.1.isNone then none
  else some ⟨digitsValue (whole.1 ++ decimals.1), power.1.getD 0 - decimals.1.length⟩

/-- Digits, a point and digits, with or without an exponent behind them. -/
theorem decimalOf?_point {whole decimals rest : List Char} (hwhole : Leading whole)
    (given : decimals ≠ []) (hdecimals : ∀ c ∈ decimals, isAsciiDigit c = true)
    (hrest : NoDigit rest) :
    decimalOf? (whole ++ '.' :: (decimals ++ rest)) =
      some ⟨digitsValue (whole ++ decimals), (exponent rest).1.getD 0 - decimals.length⟩ := by
  have hpoint : NoDigit ('.' :: (decimals ++ rest)) := by
    intro c hc
    cases hc
    rfl
  have hsome : ¬ (whole.isEmpty || decimals.isEmpty && (exponent rest).1.isNone) = true := by
    simp [hwhole.given, given]
  unfold decimalOf?
  rw [wholeDigits_leading hwhole hpoint]
  dsimp only
  rw [fraction_point given hdecimals hrest]
  exact if_neg hsome

theorem toList_toString_nat (n : Nat) : (toString n).toList = Nat.toDigits 10 n := by
  rw [Nat.toString_eq_repr, Nat.toList_repr]

/-- An exponent is written as a mark, a sign and digits. -/
theorem toList_exponentText (x : Int) : ∃ ds, ds ≠ [] ∧ (∀ c ∈ ds, isAsciiDigit c = true) ∧
    digitsValue ds = x.natAbs ∧
      (Decimal.exponentText x).toList = 'e' :: (if x < 0 then '-' else '+') :: ds := by
  have hmark : (if x < 0 then "e-" else "e+").toList = ['e', if x < 0 then '-' else '+'] := by
    split <;> rfl
  have hdigits : ∀ c ∈ Nat.toDigits 10 x.natAbs, isAsciiDigit c = true := fun c hc =>
    isAsciiDigit_of_mem_toDigits hc
  have hvalue : digitsValue (Nat.toDigits 10 x.natAbs) = x.natAbs := digitsValue_toDigits _
  unfold Decimal.exponentText
  dsimp only
  rw [String.toList_append, hmark]
  by_cases hshort : (toString x.natAbs).length < 2
  · rw [if_pos hshort]
    refine ⟨'0' :: Nat.toDigits 10 x.natAbs, List.cons_ne_nil _ _,
      List.forall_mem_cons.mpr ⟨rfl, hdigits⟩, hvalue, ?_⟩
    rw [String.toList_append, toList_toString_nat]
    rfl
  · rw [if_neg hshort, toList_toString_nat]
    exact ⟨Nat.toDigits 10 x.natAbs, Nat.toDigits_ne_nil, hdigits, hvalue, rfl⟩

theorem exponent_exponentText (x : Int) :
    exponent (Decimal.exponentText x).toList = (some x, []) := by
  obtain ⟨ds, hgiven, hdigits, hvalue, htext⟩ := toList_exponentText x
  have hsign : exponentSign ((if x < 0 then '-' else '+') :: ds) = (decide (x < 0), ds) := by
    split
    · rename_i hneg
      rw [decide_eq_true hneg]
      rfl
    · rename_i hpos
      rw [decide_eq_false hpos]
      rfl
  have htake : ds.takeWhile isAsciiDigit = ds := List.takeWhile_eq_self_iff.mpr hdigits
  have hdrop : ds.dropWhile isAsciiDigit = [] := List.dropWhile_eq_nil_iff.mpr hdigits
  rw [htext, exponent_cons, hsign]
  simp only [htake, hdrop, hvalue, List.isEmpty_iff, hgiven, beq_self_eq_true, Bool.true_or,
    if_true, if_false, decide_eq_true_eq]
  congr 2
  split <;> omega

theorem noDigit_exponentText (x : Int) : NoDigit (Decimal.exponentText x).toList := by
  obtain ⟨ds, -, -, -, htext⟩ := toList_exponentText x
  rw [htext]
  intro c hc
  cases hc
  rfl

/-- Digits and an exponent. -/
theorem decimalOf?_power {whole : List Char} (hwhole : Leading whole) (x : Int) :
    decimalOf? (whole ++ (Decimal.exponentText x).toList) = some ⟨digitsValue whole, x⟩ := by
  have hfraction : fraction (Decimal.exponentText x).toList =
      ([], (Decimal.exponentText x).toList) := by
    obtain ⟨ds, -, -, -, htext⟩ := toList_exponentText x
    rw [htext]
    rfl
  unfold decimalOf?
  rw [wholeDigits_leading hwhole (noDigit_exponentText x)]
  dsimp only
  rw [hfraction, exponent_exponentText]
  simp [hwhole.given]

/-- A text without a sign is read as a decimal of a value. -/
def ReadsAs (s : List Char) (q : ℚ) : Prop := ∃ d, decimalOf? s = some d ∧ d.value = q

theorem ReadsAs.congr {s : List Char} {p q : ℚ} (h : ReadsAs s p) (value : p = q) : ReadsAs s q :=
  value ▸ h

theorem readsAs_point {whole decimals : List Char} (hwhole : Leading whole) (given : decimals ≠ [])
    (hdecimals : ∀ c ∈ decimals, isAsciiDigit c = true) :
    ReadsAs (whole ++ '.' :: decimals)
      (digitsValue (whole ++ decimals) * 10 ^ (-decimals.length : Int)) := by
  have hread := decimalOf?_point hwhole given hdecimals (@nofun : NoDigit [])
  rw [List.append_nil] at hread
  exact ⟨_, hread, by rw [Decimal.value]; simp [exponent]⟩

theorem readsAs_pointPower {whole decimals : List Char} (hwhole : Leading whole)
    (given : decimals ≠ []) (hdecimals : ∀ c ∈ decimals, isAsciiDigit c = true) (x : Int) :
    ReadsAs (whole ++ '.' :: (decimals ++ (Decimal.exponentText x).toList))
      (digitsValue (whole ++ decimals) * 10 ^ (x - decimals.length)) :=
  ⟨_, decimalOf?_point hwhole given hdecimals (noDigit_exponentText x),
    by rw [Decimal.value, exponent_exponentText]; rfl⟩

theorem readsAs_power {whole : List Char} (hwhole : Leading whole) (x : Int) :
    ReadsAs (whole ++ (Decimal.exponentText x).toList) (digitsValue whole * 10 ^ x) :=
  ⟨_, decimalOf?_power hwhole x, rfl⟩

/-- The digits of a positive number. -/
structure Significant (ds : List Char) : Prop where
  given : ds ≠ []
  digits : ∀ c ∈ ds, isAsciiDigit c = true
  zero : ∀ t, ds ≠ '0' :: t

theorem significant_toDigits {n : Nat} (hn : 0 < n) : Significant (Nat.toDigits 10 n) :=
  ⟨Nat.toDigits_ne_nil, fun _ hc => isAsciiDigit_of_mem_toDigits hc, fun _ => toDigits_head hn⟩

theorem digit_of_mem_zeros {n : Nat} : ∀ c ∈ List.replicate n '0', isAsciiDigit c = true := by
  intro c hc
  rw [(List.mem_replicate.mp hc).2]
  rfl

namespace Significant

variable {ds : List Char} {scale : Int}

theorem leading (h : Significant ds) : Leading ds := ⟨h.given, h.digits, .inr h.zero⟩

/-- The first digits, and what follows them. -/
theorem leading_of_append {first more : List Char} (h : Significant ds) (given : first ≠ [])
    (heq : ds = first ++ more) : Leading first := by
  refine ⟨given, fun c hc => h.digits c (heq ▸ List.mem_append_left _ hc), .inr fun t ht => ?_⟩
  exact h.zero (t ++ more) (by rw [heq, ht]; rfl)

/-- Zeros up to the point, and one behind it. -/
theorem readsAs_filled (h : Significant ds) (hscale : 0 ≤ scale) :
    ReadsAs (ds ++ List.replicate scale.toNat '0' ++ ['.', '0'])
      (digitsValue ds * 10 ^ scale) := by
  have hwhole : Leading (ds ++ List.replicate scale.toNat '0') := by
    refine ⟨by simp [h.given], List.forall_mem_append.mpr ⟨h.digits, digit_of_mem_zeros⟩,
      .inr fun t ht => ?_⟩
    obtain ⟨c, u, rfl⟩ := List.exists_cons_of_ne_nil h.given
    cases ht
    exact h.zero u rfl
  have hpower : (10 : ℚ) ^ scale = 10 ^ scale.toNat := by
    rw [← zpow_natCast, Int.toNat_of_nonneg hscale]
  have hread := readsAs_point hwhole (List.cons_ne_nil '0' []) (List.forall_mem_singleton.mpr rfl)
  refine hread.congr ?_
  rw [digitsValue_append, digitsValue_append, digitsValue_zeros, hpower]
  simp [digitsValue]

/-- The point among the digits. -/
theorem readsAs_split (h : Significant ds) (hscale : scale < 0) (hpoint : 0 < scale + ds.length) :
    ReadsAs (ds.take (scale + ds.length).toNat ++ '.' :: ds.drop (scale + ds.length).toNat)
      (digitsValue ds * 10 ^ scale) := by
  have hsplit := List.take_append_drop (scale + ds.length).toNat ds
  have hlength : (ds.drop (scale + ds.length).toNat).length = (-scale).toNat := by
    rw [List.length_drop]
    omega
  have hfirst : ds.take (scale + ds.length).toNat ≠ [] := by
    rw [ne_eq, List.take_eq_nil_iff]
    simp only [h.given, or_false]
    omega
  have hrest : ds.drop (scale + ds.length).toNat ≠ [] := by
    refine List.ne_nil_of_length_pos ?_
    omega
  have hread := readsAs_point (h.leading_of_append hfirst hsplit.symm) hrest
    fun c hc => h.digits c (List.mem_of_mem_drop hc)
  refine hread.congr ?_
  rw [hsplit, hlength, Int.toNat_of_nonneg (by omega), Int.neg_neg]

/-- Zeros between the point and the digits. -/
theorem readsAs_small (h : Significant ds) (hpoint : scale + ds.length ≤ 0) :
    ReadsAs (['0', '.'] ++ List.replicate (-(scale + ds.length)).toNat '0' ++ ds)
      (digitsValue ds * 10 ^ scale) := by
  have hread := readsAs_point ⟨List.cons_ne_nil '0' [], List.forall_mem_singleton.mpr rfl, .inl rfl⟩
    (List.append_ne_nil_of_right_ne_nil (List.replicate (-(scale + ds.length)).toNat '0') h.given)
    (List.forall_mem_append.mpr ⟨digit_of_mem_zeros, h.digits⟩)
  refine hread.congr ?_
  have hzero : digitsValue ['0'] = 0 := rfl
  have hlength : ((-(scale + ds.length)).toNat + ds.length : Nat) = -scale := by omega
  rw [digitsValue_append, digitsValue_append, digitsValue_zeros, hzero, List.length_append,
    List.length_replicate, hlength, Int.neg_neg]
  simp

end Significant

/-- One digit, the point and the others, and an exponent. -/
theorem readsAs_scientific (ds : List Char) (scale : Int) :
    Significant ds → ReadsAs ((match ds with
      | [] => []
      | [d] => [d]
      | d :: rest => d :: '.' :: rest) ++
        (Decimal.exponentText (scale + ds.length - 1)).toList) (digitsValue ds * 10 ^ scale) := by
  intro h
  match ds, h with
  | [], h => exact absurd rfl h.given
  | [d], h =>
    have hread := readsAs_power h.leading (scale + 1 - 1)
    exact hread.congr (by rw [Int.add_sub_cancel])
  | d :: c :: rest, h =>
    have hread := readsAs_pointPower
      (h.leading_of_append (List.cons_ne_nil d []) List.singleton_append.symm)
      (List.cons_ne_nil c rest) (fun a ha => h.digits a (List.mem_cons_of_mem d ha))
      (scale + (d :: c :: rest).length - 1)
    refine hread.congr ?_
    have hscale : scale + ((d :: c :: rest).length : Int) - 1 - (c :: rest).length = scale := by
      rw [List.length_cons]
      omega
    rw [hscale]
    rfl

end Json

namespace Decimal

open Json

/-- A positive decimal is read back from its text as the same number. -/
theorem readsAs_render {d : Decimal} (hd : 0 < d.digits) : ReadsAs d.render.toList d.value := by
  have hsignificant := significant_toDigits hd
  have hvalue : digitsValue (Nat.toDigits 10 d.digits) = d.digits := digitsValue_toDigits _
  rw [value, ← hvalue]
  unfold render
  simp only [toList_toString_nat]
  generalize Nat.toDigits 10 d.digits = ds at hsignificant
  split
  · split
    · rename_i hscale
      rw [String.toList_ofList]
      exact hsignificant.readsAs_filled hscale
    · split
      · rename_i hscale hpoint
        rw [String.toList_ofList]
        exact hsignificant.readsAs_split (by omega) hpoint
      · rename_i hpoint
        rw [String.toList_ofList]
        exact hsignificant.readsAs_small (by omega)
  · rw [String.toList_append, String.toList_ofList]
    exact readsAs_scientific ds d.scale hsignificant

end Decimal

namespace Json

/-- The sign and the decimal that the reader finds in a text, unless it is a whole number. -/
def signedDecimal? (s : List Char) : Option (Bool × Decimal) :=
  (decimalOf? (numberSign s).2).map ((numberSign s).1, ·)

theorem signedDecimal?_of_decimal {s : List Char} {d : Decimal} (h : decimalOf? s = some d)
    (negative : Bool) :
    signedDecimal? ((Binary64.signText negative).toList ++ s) = some (negative, d) := by
  cases negative with
  | true =>
    have hsign : numberSign ((Binary64.signText true).toList ++ s) = (true, s) := rfl
    rw [signedDecimal?, hsign, h]
    rfl
  | false =>
    have hsign : numberSign s = (false, s) := by
      rw [numberSign]
      rintro t rfl
      cases h
    rw [show (Binary64.signText false).toList ++ s = s from rfl, signedDecimal?, hsign, h]
    rfl

/-- A whole number is not written as a decimal. -/
theorem signedDecimal?_int (n : Int) : signedDecimal? (toString n).toList = none := by
  have hdigits : decimalOf? (Nat.toDigits 10 n.natAbs) = none := by
    unfold decimalOf?
    rw [wholeDigits_toDigits]
    simp [fraction, exponent]
  rw [toList_toString_int]
  split
  · rw [signedDecimal?, numberSign_toDigits, hdigits]
    rfl
  · rw [signedDecimal?, numberSign, hdigits]
    rfl

end Json

namespace Binary64

theorem Rounds.pos {m : Nat} {e : Int} {q : ℚ} (h : Rounds m e q) (hm : 0 < m) : 0 < q := by
  have hend : 0 < lowEnd m e := by
    unfold lowEnd
    split <;> omega
  have hlow : (0 : ℚ) < lowEnd m e * 2 ^ (e - 2) :=
    mul_pos (Nat.cast_pos.mpr hend) (zpow_pos two_pos _)
  exact h.low.elim hlow.trans fun h => h.2 ▸ hlow

/-- What is read from the text of a finite double is its sign and a decimal that rounds to it. -/
theorem signedDecimal?_render (layout : Layout) (negative : Bool) (m : Nat) (e : Int) :
    ∃ d, Json.signedDecimal? ((finite negative m e).render layout).toList = some (negative, d) ∧
      Rounds m e d.value := by
  cases m with
  | zero =>
    refine ⟨⟨0, -1⟩, ?_, ?_⟩
    · rw [render, String.toList_append]
      exact Json.signedDecimal?_of_decimal rfl negative
    · simpa [Decimal.value] using rounds_self 0 e
  | succ n =>
    have hrounds := Decimal.shortest_rounds (n + 1) e
    have hdigits : 0 < (Decimal.shortest (n + 1) e).digits := by
      refine Nat.pos_of_ne_zero fun hzero => ?_
      have hpos := hrounds.pos (Nat.succ_pos n)
      rw [Decimal.value, hzero] at hpos
      simp at hpos
    obtain ⟨d, hd, hvalue⟩ := Decimal.readsAs_render hdigits
    refine ⟨d, ?_, hvalue ▸ hrounds⟩
    rw [render, String.toList_append]
    · exact Json.signedDecimal?_of_decimal hd negative
    · exact Nat.succ_ne_zero n

/-- A decimal is read exactly from the texts of the finite doubles. -/
theorem isSome_signedDecimal?_render (x : Binary64) :
    (Json.signedDecimal? (x.render Json.messageLayout).toList).isSome = x.isFinite := by
  cases x with
  | finite negative m e =>
    obtain ⟨d, hd, -⟩ := signedDecimal?_render Json.messageLayout negative m e
    rw [hd]
    rfl
  | nan payload =>
    show (Json.signedDecimal? "nan".toList).isSome = false
    decide
  | infinity negative => cases negative <;> decide

theorem render_nan_ne_infinity (payload : Nat) (negative : Bool) :
    (nan payload).render Json.messageLayout ≠ (infinity negative).render Json.messageLayout := by
  show "nan" ≠ signText negative ++ "inf"
  cases negative <;> decide

/-- Two doubles of one text are one double, or no numbers both. -/
theorem eq_of_render {x y : Binary64} (hx : x.Proper) (hy : y.Proper)
    (h : x.render Json.messageLayout = y.render Json.messageLayout) :
    x = y ∨ (∃ p, x = .nan p) ∧ ∃ p, y = .nan p := by
  have hfinite : x.isFinite = y.isFinite := by
    rw [← isSome_signedDecimal?_render, ← isSome_signedDecimal?_render, h]
  cases x with
  | finite negative m e =>
    obtain ⟨d, hd, hrounds⟩ := signedDecimal?_render Json.messageLayout negative m e
    cases y with
    | finite negative' n f =>
      obtain ⟨d', hd', hrounds'⟩ := signedDecimal?_render Json.messageLayout negative' n f
      rw [h, hd', Option.some.injEq, Prod.mk.injEq] at hd
      obtain ⟨rfl, rfl⟩ := hd
      obtain ⟨rfl, rfl⟩ := hrounds.unique hrounds' hx hy
      exact .inl rfl
    | _ => cases hfinite
  | nan p =>
    cases y with
    | finite => cases hfinite
    | nan q => exact .inr ⟨⟨p, rfl⟩, ⟨q, rfl⟩⟩
    | infinity negative => exact absurd h (render_nan_ne_infinity p negative)
  | infinity negative =>
    cases y with
    | finite => cases hfinite
    | nan q => exact absurd h.symm (render_nan_ne_infinity q negative)
    | infinity negative' =>
      refine .inl ?_
      cases negative <;> cases negative' <;> first | rfl | exact absurd h (by decide)

end Binary64

namespace Json

/-- A value that is no double, or one that a double can have. -/
def Proper : Json → Prop
  | .float x => x.Proper
  | _ => True

theorem mem_toString_int {n : Int} {c : Char} (h : c ∈ (toString n).toList) :
    isAsciiDigit c = true ∨ c = '-' := by
  rw [toList_toString_int] at h
  split at h
  · exact .inl (isAsciiDigit_of_mem_toDigits h)
  · rcases List.mem_cons.mp h with hc | hc
    · exact .inr hc
    · exact .inl (isAsciiDigit_of_mem_toDigits hc)

theorem eq_of_toString_int {n k : Int} (h : toString n = toString k) : n = k := by
  -- The reader finds each of them in its text, if its bound allows for the digits of both.
  let bounds : Bounds := ⟨0, (toString n.natAbs).length + (toString k.natAbs).length⟩
  have hn := @number_toString bounds n (Nat.le_add_right _ _)
  have hk := @number_toString bounds k (Nat.le_add_left _ _)
  rw [h, hk] at hn
  cases hn
  rfl

/-- No double is written like a whole number. -/
theorem toString_int_ne_render (n : Int) (x : Binary64) : toString n ≠ x.render messageLayout := by
  intro h
  have hspecial : x.isFinite = false := by
    rw [← Binary64.isSome_signedDecimal?_render, ← h, signedDecimal?_int]
    rfl
  -- The texts of the other doubles are words.
  have hletter : 'n' ∈ (x.render messageLayout).toList := by
    cases x with
    | finite => cases hspecial
    | nan payload =>
      show 'n' ∈ "nan".toList
      decide
    | infinity negative => cases negative <;> decide
  rw [← h] at hletter
  rcases mem_toString_int hletter with hdigit | hsign
  · exact absurd hdigit (by decide)
  · exact absurd hsign (by decide)

/-- Two numbers of one text are one number, or two values that are no numbers. -/
theorem eq_of_display {a b : Json} (ha : a.Proper) (hb : b.Proper)
    (hasNumber : a.number?.isSome = true) (hasNumber' : b.number?.isSome = true)
    (h : a.display = b.display) :
    a = b ∨ a.number? = some .undefined ∧ b.number? = some .undefined := by
  cases a with
  | int n =>
    cases b with
    | int k => exact .inl (congrArg Json.int (eq_of_toString_int h))
    | float y => exact absurd h (toString_int_ne_render n y)
    | _ => cases hasNumber'
  | float x =>
    cases b with
    | int k => exact absurd h.symm (toString_int_ne_render k x)
    | float y =>
      rcases Binary64.eq_of_render ha hb h with rfl | ⟨⟨p, rfl⟩, ⟨q, rfl⟩⟩
      · exact .inl rfl
      · exact .inr ⟨rfl, rfl⟩
    | _ => cases hasNumber'
  | _ => cases hasNumber

end Json

end Storyboard
