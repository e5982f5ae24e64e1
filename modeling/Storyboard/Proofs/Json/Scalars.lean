import Mathlib.Data.List.TakeWhile
import Storyboard.Proofs.Json.Legible

/-!
# Texts of scalars

The reader undoes the writer on numbers and strings. A number ends where its text does
or where a character follows that no number goes on with; whole numbers are followed
through their decimal digits, strings through the escape of each character.
-/
namespace Storyboard.Json

/-- No number goes on with this text. -/
def Delimited (rest : List Char) : Prop :=
  ∀ c ∈ rest.head?, isAsciiDigit c = false ∧ c ≠ '.' ∧ c ≠ 'e' ∧ c ≠ 'E'

theorem delimited_nil : Delimited [] := by
  intro c hc
  cases hc

theorem delimited_cons {c : Char} {rest : List Char} :
    Delimited (c :: rest) ↔ isAsciiDigit c = false ∧ c ≠ '.' ∧ c ≠ 'e' ∧ c ≠ 'E' := by
  simp [Delimited]

section Number

variable {bounds : Bounds} {rest : List Char}

theorem takeWhile_digits_append (hrest : Delimited rest) (s : List Char) :
    (s ++ rest).takeWhile isAsciiDigit = s.takeWhile isAsciiDigit := by
  induction s with
  | nil =>
    cases rest with
    | nil => rfl
    | cons c rest => simp [(delimited_cons.mp hrest).1]
  | cons c s ih =>
    rw [List.cons_append, List.takeWhile_cons, List.takeWhile_cons, ih]

theorem dropWhile_digits_append (hrest : Delimited rest) (s : List Char) :
    (s ++ rest).dropWhile isAsciiDigit = s.dropWhile isAsciiDigit ++ rest := by
  induction s with
  | nil =>
    cases rest with
    | nil => rfl
    | cons c rest => simp [(delimited_cons.mp hrest).1]
  | cons c s ih =>
    rw [List.cons_append, List.dropWhile_cons, List.dropWhile_cons, ih]
    split <;> rfl

theorem wholeDigits_append (hrest : Delimited rest) (s : List Char) :
    wholeDigits (s ++ rest) = ((wholeDigits s).1, (wholeDigits s).2 ++ rest) := by
  have hplain : ∀ {t : List Char}, (∀ u, t ≠ '0' :: u) →
      wholeDigits t = (t.takeWhile isAsciiDigit, t.dropWhile isAsciiDigit) := by
    intro t ht
    rw [wholeDigits]
    exact fun u hu => ht u hu
  by_cases hs : ∃ t, s = '0' :: t
  · obtain ⟨t, rfl⟩ := hs
    rfl
  · have hs' : ∀ u, s ≠ '0' :: u := fun u hu => hs ⟨u, hu⟩
    have happ : ∀ u, s ++ rest ≠ '0' :: u := by
      intro u hu
      cases s with
      | nil =>
        rw [List.nil_append] at hu
        rw [hu, delimited_cons] at hrest
        exact absurd hrest.1 (by decide)
      | cons c s =>
        cases hu
        exact hs' s rfl
    rw [hplain hs', hplain happ, takeWhile_digits_append hrest, dropWhile_digits_append hrest]

theorem fraction_append (hrest : Delimited rest) (s : List Char) :
    fraction (s ++ rest) = ((fraction s).1, (fraction s).2 ++ rest) := by
  have hplain : ∀ {t : List Char}, (∀ u, t ≠ '.' :: u) → fraction t = ([], t) := by
    intro t ht
    rw [fraction]
    exact fun u hu => ht u hu
  by_cases hs : ∃ t, s = '.' :: t
  · obtain ⟨t, rfl⟩ := hs
    simp only [List.cons_append, fraction, takeWhile_digits_append hrest,
      dropWhile_digits_append hrest]
    split <;> rfl
  · have hs' : ∀ u, s ≠ '.' :: u := fun u hu => hs ⟨u, hu⟩
    have happ : ∀ u, s ++ rest ≠ '.' :: u := by
      intro u hu
      cases s with
      | nil =>
        rw [List.nil_append] at hu
        rw [hu, delimited_cons] at hrest
        exact hrest.2.1 rfl
      | cons c s =>
        cases hu
        exact hs' s rfl
    rw [hplain hs', hplain happ]

/-- What follows the mark of an exponent: its sign and its body. -/
def exponentSign : List Char → Bool × List Char
  | '-' :: body => (true, body)
  | '+' :: body => (false, body)
  | body => (false, body)

theorem exponentSign_append {c : Char} {s : List Char} :
    exponentSign (c :: s ++ rest) =
      ((exponentSign (c :: s)).1, (exponentSign (c :: s)).2 ++ rest) := by
  by_cases hm : c = '-'
  · subst hm; rfl
  · by_cases hp : c = '+'
    · subst hp; rfl
    · have hplain : ∀ t : List Char, exponentSign (c :: t) = (false, c :: t) := by
        intro t
        rw [exponentSign]
        · rintro body h; cases h; exact hm rfl
        · rintro body h; cases h; exact hp rfl
      rw [List.cons_append, hplain, hplain]
      rfl

theorem exponent_cons (mark : Char) (s : List Char) :
    exponent (mark :: s) =
      if mark == 'e' || mark == 'E' then
        let ds := (exponentSign s).2.takeWhile isAsciiDigit
        if ds.isEmpty then (none, mark :: s)
        else
          (some (if (exponentSign s).1 then -(digitsValue ds : Int) else digitsValue ds),
            (exponentSign s).2.dropWhile isAsciiDigit)
      else (none, mark :: s) := by
  rfl

/-- An exponent that was the end of a text is read in front of other texts as well. -/
theorem exponent_append (hrest : Delimited rest) {s : List Char} (hs : (exponent s).2 = []) :
    exponent (s ++ rest) = ((exponent s).1, rest) := by
  cases s with
  | nil =>
    cases rest with
    | nil => rfl
    | cons c rest =>
      obtain ⟨-, -, he, hE⟩ := delimited_cons.mp hrest
      simp [exponent, he, hE]
  | cons mark s =>
    rw [exponent_cons] at hs
    rw [List.cons_append, exponent_cons, exponent_cons]
    by_cases hmark : (mark == 'e' || mark == 'E') = true
    · cases s with
      | nil =>
        rw [if_pos hmark] at hs
        cases hs
      | cons c s =>
        rw [if_pos hmark] at hs ⊢
        rw [if_pos hmark, exponentSign_append]
        dsimp only at hs ⊢
        rw [takeWhile_digits_append hrest, dropWhile_digits_append hrest]
        by_cases hd : (List.takeWhile isAsciiDigit (exponentSign (c :: s)).2).isEmpty = true
        · rw [if_pos hd] at hs
          cases hs
        · rw [if_neg hd] at hs ⊢
          dsimp only at hs
          rw [if_neg hd, hs]
          rfl
    · rw [if_neg hmark] at hs
      cases hs

/-- A number without its sign. -/
def numberSign : List Char → Bool × List Char
  | '-' :: rest => (true, rest)
  | s => (false, s)

theorem numberSign_append {c : Char} {s : List Char} :
    numberSign (c :: s ++ rest) = ((numberSign (c :: s)).1, (numberSign (c :: s)).2 ++ rest) := by
  by_cases hm : c = '-'
  · subst hm; rfl
  · have hplain : ∀ t : List Char, numberSign (c :: t) = (false, c :: t) := by
      intro t
      rw [numberSign]
      rintro body h
      cases h
      exact hm rfl
    rw [List.cons_append, hplain, hplain]
    rfl

theorem number_eq (s : List Char) :
    number bounds s =
      let whole := wholeDigits (numberSign s).2
      let decimals := fraction whole.2
      let power := exponent decimals.2
      if whole.1.isEmpty then malformed .expectedValue s
      else if decimals.1.isEmpty && power.1.isNone then
        if bounds.digits < whole.1.length then .error (.tooManyDigits whole.1.length)
        else
          .ok (.int (if (numberSign s).1 then -(digitsValue whole.1 : Int) else digitsValue whole.1),
            power.2)
      else
        .ok (.float (.ofDecimal (numberSign s).1 (digitsValue (whole.1 ++ decimals.1))
          (power.1.getD 0 - decimals.1.length)), power.2) := by
  rfl

/-- A number that was a whole text is read in front of other texts as well. -/
theorem number_append (hrest : Delimited rest) {s : List Char} {v : Json}
    (hs : number bounds s = .ok (v, [])) : number bounds (s ++ rest) = .ok (v, rest) := by
  cases s with
  | nil => cases hs
  | cons c s =>
    rw [number_eq] at hs ⊢
    dsimp only at hs ⊢
    rw [numberSign_append]
    dsimp only
    rw [wholeDigits_append hrest]
    dsimp only
    rw [fraction_append hrest]
    dsimp only
    generalize numberSign (c :: s) = sign at hs ⊢
    generalize wholeDigits sign.2 = whole at hs ⊢
    generalize fraction whole.2 = decimals at hs ⊢
    by_cases hw : whole.1.isEmpty = true
    · rw [if_pos hw] at hs
      cases hs
    · rw [if_neg hw] at hs ⊢
      have hend : (exponent decimals.2).2 = [] := by
        split at hs
        · split at hs
          · cases hs
          · exact congrArg Prod.snd (Except.ok.inj hs)
        · exact congrArg Prod.snd (Except.ok.inj hs)
      rw [exponent_append hrest hend]
      dsimp only
      split at hs
      · split at hs
        · cases hs
        · rename_i h1 h2
          rw [if_pos h1, if_neg h2, (Prod.mk.inj (Except.ok.inj hs)).1]
      · rename_i h1
        rw [if_neg h1, (Prod.mk.inj (Except.ok.inj hs)).1]

end Number

/-- A value may begin with the character. -/
def Begins (c : Char) : Prop := isGap c = false ∧ c ≠ ']' ∧ c.toNat ≠ 0xFEFF

/-- A value that is no container may begin with the character. -/
def BeginsScalar (c : Char) : Prop := Begins c ∧ c ≠ '[' ∧ c ≠ '\x7b'

instance (c : Char) : Decidable (Begins c) := inferInstanceAs (Decidable (_ ∧ _))

instance (c : Char) : Decidable (BeginsScalar c) := inferInstanceAs (Decidable (_ ∧ _))

theorem beginsScalar_of_digit {c : Char} (h : isAsciiDigit c = true) : BeginsScalar c := by
  have hc : 48 ≤ c.toNat ∧ c.toNat ≤ 57 := by simpa [isAsciiDigit] using h
  refine ⟨⟨?_, ?_, by omega⟩, ?_, ?_⟩
  · simp only [isGap, Bool.or_eq_false_iff, beq_eq_false_iff_ne]
    refine ⟨⟨⟨?_, ?_⟩, ?_⟩, ?_⟩ <;> (rintro rfl; simp at hc)
  all_goals rintro rfl; simp at hc

variable {bounds : Bounds}

theorem wholeDigits_head {s : List Char} (h : (wholeDigits s).1.isEmpty = false) :
    ∃ c t, s = c :: t ∧ isAsciiDigit c = true := by
  cases s with
  | nil => cases h
  | cons c t =>
    refine ⟨c, t, rfl, ?_⟩
    by_cases hz : c = '0'
    · rw [hz]; rfl
    · rw [wholeDigits] at h
      · by_contra hc
        simp [hc] at h
      · rintro u hu
        cases hu
        exact hz rfl

/-- A number begins with a digit, or with a sign and a digit. -/
theorem number_head {s : List Char} {r : Json × List Char} (h : number bounds s = .ok r) :
    ∃ c t, isAsciiDigit c = true ∧ (s = c :: t ∨ s = '-' :: c :: t) := by
  have hw : (wholeDigits (numberSign s).2).1.isEmpty = false := by
    rw [number_eq] at h
    dsimp only at h
    by_contra hw
    rw [if_pos (by simpa using hw)] at h
    cases h
  obtain ⟨c, t, hs, hc⟩ := wholeDigits_head hw
  refine ⟨c, t, hc, ?_⟩
  unfold numberSign at hs
  split at hs
  · exact .inr (congrArg _ hs)
  · exact .inl hs

theorem scalar_quote (body : List Char) : scalar bounds ('"' :: body) =
    (stringBody ('"' :: body) [] body).map fun p => (.str p.1, p.2) := rfl

/-- The words that are values. -/
inductive IsWord : List Char → Json → Prop
  | null : IsWord ['n', 'u', 'l', 'l'] .null
  | true : IsWord ['t', 'r', 'u', 'e'] (.bool Bool.true)
  | false : IsWord ['f', 'a', 'l', 's', 'e'] (.bool Bool.false)
  | nan : IsWord ['N', 'a', 'N'] (.float (.nan 0))
  | infinity : IsWord ['I', 'n', 'f', 'i', 'n', 'i', 't', 'y'] (.float (.infinity Bool.false))
  | negative : IsWord ['-', 'I', 'n', 'f', 'i', 'n', 'i', 't', 'y'] (.float (.infinity Bool.true))

theorem scalar_word {word : List Char} {v : Json} (h : IsWord word v) (rest : List Char) :
    scalar bounds (word ++ rest) = .ok (v, rest) := by
  cases h <;> rfl

/-- A scalar is a string, a word, or read as a number. -/
theorem scalar_cases (s : List Char) :
    (∃ body, s = '"' :: body) ∨ (∃ word v rest, IsWord word v ∧ s = word ++ rest) ∨
      scalar bounds s = number bounds s := by
  unfold scalar
  split
  · exact .inl ⟨_, rfl⟩
  · exact .inr (.inl ⟨_, _, _, .null, rfl⟩)
  · exact .inr (.inl ⟨_, _, _, .true, rfl⟩)
  · exact .inr (.inl ⟨_, _, _, .false, rfl⟩)
  · exact .inr (.inl ⟨_, _, _, .nan, rfl⟩)
  · exact .inr (.inl ⟨_, _, _, .infinity, rfl⟩)
  · exact .inr (.inl ⟨_, _, _, .negative, rfl⟩)
  · exact .inr (.inr rfl)

/-- What begins as a number does is read as one. -/
theorem scalar_eq_number {c : Char} {s t : List Char} (hc : isAsciiDigit c = true)
    (hs : s = c :: t ∨ s = '-' :: c :: t) : scalar bounds s = number bounds s := by
  rcases @scalar_cases bounds s with ⟨body, rfl⟩ | ⟨word, v, rest, hword, rfl⟩ | h
  · rcases hs with hs | hs <;> cases hs
    exact absurd hc (by decide)
  · cases hword <;> rcases hs with hs | hs <;> cases hs <;> exact absurd hc (by decide)
  · exact h

/-- What is read as a number is read as a value that is no container. -/
theorem scalar_of_number {s : List Char} {r : Json × List Char} (h : number bounds s = .ok r) :
    scalar bounds s = .ok r := by
  obtain ⟨c, t, hc, hs⟩ := number_head h
  rw [scalar_eq_number hc hs, h]

theorem beginsScalar_of_scalar {s : List Char} {r : Json × List Char}
    (h : scalar bounds s = .ok r) : ∃ c t, s = c :: t ∧ BeginsScalar c := by
  rcases @scalar_cases bounds s with ⟨body, rfl⟩ | ⟨word, v, rest, hword, rfl⟩ | hnumber
  · exact ⟨_, _, rfl, by decide⟩
  · cases hword <;> exact ⟨_, _, rfl, by decide⟩
  · rw [hnumber] at h
    obtain ⟨c, t, hc, hs | hs⟩ := number_head h
    · exact ⟨c, t, hs, beginsScalar_of_digit hc⟩
    · exact ⟨'-', c :: t, hs, by decide⟩

/-- A double whose text reads back is read in front of other texts as well. -/
theorem scalar_float_append {rest : List Char} (hrest : Delimited rest) {s : List Char}
    {x : Binary64} (h : scalar bounds s = .ok (.float x, [])) :
    scalar bounds (s ++ rest) = .ok (.float x, rest) := by
  rcases @scalar_cases bounds s with ⟨body, rfl⟩ | ⟨word, v, more, hword, rfl⟩ | hnumber
  · rw [scalar_quote] at h
    cases hb : stringBody ('"' :: body) [] body with
    | error e => rw [hb] at h; cases h
    | ok r => rw [hb] at h; cases h
  · rw [scalar_word hword] at h
    obtain ⟨rfl, rfl⟩ := Prod.mk.inj (Except.ok.inj h)
    rw [List.append_nil, scalar_word hword]
  · exact scalar_of_number (number_append hrest (hnumber.symm.trans h))

section Values

variable {fuel levels : Nat}

theorem value_bracket (s : List Char) :
    value bounds fuel (levels + 1) ('[' :: s) =
      match skipGap s with
      | ']' :: rest => .ok (.arr [], rest)
      | rest => elements (value bounds fuel levels) fuel rest >>= fun r => .ok (.arr r.1, r.2) :=
  rfl

theorem value_brace (s : List Char) :
    value bounds fuel (levels + 1) ('\x7b' :: s) =
      match skipGap s with
      | '\x7d' :: rest => .ok (.obj [], rest)
      | rest => members (value bounds fuel levels) fuel rest >>= fun r =>
        .ok (.obj (Assoc.ofPairs r.1), r.2) := rfl

/-- Whatever the levels that are left, what opens no container is read as a scalar. -/
theorem value_plain {c : Char} (s : List Char) (hlist : c ≠ '[') (hobject : c ≠ '\x7b') :
    value bounds fuel levels (c :: s) = scalar bounds (c :: s) := by
  unfold value
  split <;> split
  all_goals first
    | rfl
    | rename_i heq; cases heq; contradiction

end Values

theorem isAsciiDigit_of_mem_toDigits {n : Nat} {c : Char} (h : c ∈ Nat.toDigits 10 n) :
    isAsciiDigit c = true := by
  have hd := Nat.isDigit_of_mem_toDigits (by decide) (by decide) h
  simpa [Char.isDigit, isAsciiDigit, UInt32.le_iff_toNat_le] using hd

theorem digitsValue_toDigits (n : Nat) : digitsValue (Nat.toDigits 10 n) = n := by
  have hstep : (fun (n : Nat) (c : Char) => n * 10 + (c.toNat - 48)) =
      fun n c => 10 * n + (c.toNat - '0'.toNat) := by
    funext n c
    rw [Nat.mul_comm]
    rfl
  rw [digitsValue, hstep]
  exact @Nat.ofDigitChars_ten_toDigits n

/-- Only zero is written with a zero in front. -/
theorem toDigits_head {n : Nat} (hn : 0 < n) {t : List Char} : Nat.toDigits 10 n ≠ '0' :: t := by
  induction n using Nat.strongRecOn generalizing t with
  | ind n ih =>
    rw [Nat.toDigits_eq_if (by decide)]
    split
    · rename_i hlt
      intro h
      have hd := congrArg (fun s : List Char => s.headD 'x') h
      simp only [List.headD_cons] at hd
      have := Nat.toNat_digitChar_sub_48_of_lt_ten hlt
      rw [hd] at this
      exact absurd this (by simp; omega)
    · intro h
      cases hq : Nat.toDigits 10 (n / 10) with
      | nil => exact Nat.toDigits_ne_nil hq
      | cons c u =>
        rw [hq] at h
        cases h
        exact ih (n / 10) (by omega) (by omega) hq

theorem wholeDigits_toDigits (n : Nat) :
    wholeDigits (Nat.toDigits 10 n) = (Nat.toDigits 10 n, []) := by
  rcases Nat.eq_zero_or_pos n with rfl | hn
  · rw [Nat.toDigits_zero]
    rfl
  · have hall : ∀ c ∈ Nat.toDigits 10 n, isAsciiDigit c = true := fun c hc =>
      isAsciiDigit_of_mem_toDigits hc
    rw [wholeDigits]
    · rw [List.takeWhile_eq_self_iff.mpr hall, List.dropWhile_eq_nil_iff.mpr hall]
    · exact fun t ht => toDigits_head hn ht

theorem numberSign_toDigits (n : Nat) :
    numberSign (Nat.toDigits 10 n) = (false, Nat.toDigits 10 n) := by
  rw [numberSign]
  intro t ht
  have hm : '-' ∈ Nat.toDigits 10 n := by
    rw [ht]
    exact List.mem_cons_self
  exact absurd (isAsciiDigit_of_mem_toDigits hm) (by decide)

theorem toList_toString_int (n : Int) :
    (toString n).toList =
      if 0 ≤ n then Nat.toDigits 10 n.natAbs else '-' :: Nat.toDigits 10 n.natAbs := by
  rw [Int.toString_eq_repr, Int.repr_eq_if]
  split
  · rename_i hn
    rw [Nat.toList_repr, ← Int.natAbs_of_nonneg hn]
    rfl
  · rename_i hn
    have habs : (-n).toNat = n.natAbs := by omega
    rw [String.toList_append, Nat.toList_repr, habs]
    rfl

theorem number_toString {n : Int} (hn : (toString n.natAbs).length ≤ bounds.digits) :
    number bounds (toString n).toList = .ok (.int n, []) := by
  have hlen : ¬ bounds.digits < (Nat.toDigits 10 n.natAbs).length := by
    rw [Nat.toString_eq_repr, ← String.length_toList, Nat.toList_repr] at hn
    omega
  have hsign : numberSign (toString n).toList = (decide (n < 0), Nat.toDigits 10 n.natAbs) := by
    rw [toList_toString_int]
    split
    · rw [numberSign_toDigits, decide_eq_false (by omega)]
    · rw [numberSign, decide_eq_true (by omega)]
  have hne : ¬ (Nat.toDigits 10 n.natAbs).isEmpty = true := by simp
  have hfraction : fraction [] = ([], []) := rfl
  have hexponent : exponent [] = (none, []) := rfl
  rw [number_eq, hsign]
  simp only [wholeDigits_toDigits, hfraction, hexponent]
  rw [if_neg hne, if_pos (by rfl), if_neg hlen, digitsValue_toDigits]
  congr 3
  by_cases h : n < 0
  · rw [if_pos (decide_eq_true h)]
    omega
  · rw [if_neg (by simpa using h)]
    omega

section Strings

variable {opening done rest : List Char}

theorem stringBody_plain {c : Char} (hq : c ≠ '"') (hb : c ≠ '\\') (hn : ¬ c.toNat < 0x20) :
    stringBody opening done (c :: rest) = stringBody opening (c :: done) rest := by
  rw [stringBody] <;> simp [hq, hb, hn]

theorem stringBody_escaped {e c : Char} (he : escape? e = some c) :
    stringBody opening done ('\\' :: e :: rest) = stringBody opening (c :: done) rest := by
  have hu : e ≠ 'u' := by
    rintro rfl
    cases he
  rw [stringBody] <;> simp [hu, he]

/-- A unit that is no half of a pair stands for its character, whatever follows. -/
theorem stringBody_unit {a b c d next : Char} {n : Nat} (hunit : unit? a b c d = some n)
    (hwhole : isHalf n = false) :
    stringBody opening done ('\\' :: 'u' :: a :: b :: c :: d :: next :: rest) =
      stringBody opening (Char.ofNat n :: done) (next :: rest) := by
  have hhigh : isHighUnit n = false := (Bool.or_eq_false_iff.mp hwhole).1
  rw [stringBody.eq_def]
  split
  case h_4 heq =>
    cases heq
    simp only [hunit, hhigh, hwhole]
    rfl
  case h_5 heq =>
    cases heq
    simp only [hunit, hwhole]
    rfl
  case h_6 hlong heq =>
    cases heq
    exact absurd rfl (hlong _ _ _ _ _ _)
  case h_7 hu heq =>
    cases heq
    exact absurd rfl hu
  case h_8 hesc heq =>
    cases heq
    exact absurd rfl (hesc _ _ rfl)
  all_goals rename_i heq; cases heq

theorem unit?_hexDigits : ∀ n < 0x20,
    unit? (hexDigit (n / 16 / 16 / 16 % 16)) (hexDigit (n / 16 / 16 % 16)) (hexDigit (n / 16 % 16))
      (hexDigit (n % 16)) = some n := by
  decide

theorem isHalf_of_lt {n : Nat} (h : n < 0x20) : isHalf n = false := by
  simp only [isHalf, isHighUnit, isLowUnit, Bool.or_eq_false_iff, Bool.and_eq_false_iff,
    decide_eq_false_iff_not]
  omega

/-- A character is escaped by a letter, by its number, or not at all. -/
theorem escapeChar_cases (c : Char) :
    (∃ e, escape? e = some c ∧ escapeChar false c = ['\\', e]) ∨
      (c.toNat < 0x20 ∧ escapeChar false c = unitEscape c.toNat) ∨
      (c ≠ '"' ∧ c ≠ '\\' ∧ ¬ c.toNat < 0x20 ∧ escapeChar false c = [c]) := by
  by_cases hq : c = '"'
  · exact .inl ⟨'"', by rw [hq]; rfl, by rw [hq]; rfl⟩
  by_cases hb : c = '\\'
  · exact .inl ⟨'\\', by rw [hb]; rfl, by rw [hb]; rfl⟩
  by_cases hn : c = '\n'
  · exact .inl ⟨'n', by rw [hn]; rfl, by rw [hn]; rfl⟩
  by_cases hr : c = '\r'
  · exact .inl ⟨'r', by rw [hr]; rfl, by rw [hr]; rfl⟩
  by_cases ht : c = '\t'
  · exact .inl ⟨'t', by rw [ht]; rfl, by rw [ht]; rfl⟩
  by_cases h8 : c.toNat = 8
  · rw [← Char.ofNat_toNat c, h8]
    exact .inl ⟨'b', rfl, rfl⟩
  by_cases h12 : c.toNat = 12
  · rw [← Char.ofNat_toNat c, h12]
    exact .inl ⟨'f', rfl, rfl⟩
  by_cases hctl : c.toNat < 0x20
  · exact .inr (.inl ⟨hctl, by simp [escapeChar, hq, hb, hn, hr, ht, h8, h12, hctl]⟩)
  · exact .inr (.inr ⟨hq, hb, hctl, by simp [escapeChar, hq, hb, hn, hr, ht, h8, h12, hctl]⟩)

/-- The reader undoes the escape of a character, as long as the string goes on. -/
theorem stringBody_escapeChar (c next : Char) :
    stringBody opening done (escapeChar false c ++ next :: rest) =
      stringBody opening (c :: done) (next :: rest) := by
  rcases escapeChar_cases c with ⟨e, he, hc⟩ | ⟨hctl, hc⟩ | ⟨hq, hb, hn, hc⟩
  · rw [hc]
    exact stringBody_escaped he
  · rw [hc]
    exact (stringBody_unit (unit?_hexDigits _ hctl) (isHalf_of_lt hctl)).trans
      (by rw [Char.ofNat_toNat])
  · rw [hc]
    exact stringBody_plain hq hb hn

theorem stringBody_flatMap (s : List Char) :
    stringBody opening done (s.flatMap (escapeChar false) ++ '"' :: rest) =
      .ok (String.ofList (done.reverse ++ s), rest) := by
  induction s generalizing done with
  | nil =>
    rw [List.append_nil]
    exact stringBody.eq_2 ..
  | cons c s ih =>
    obtain ⟨next, more, hmore⟩ :
        ∃ next more, s.flatMap (escapeChar false) ++ '"' :: rest = next :: more := by
      cases hs : s.flatMap (escapeChar false) with
      | nil => exact ⟨_, _, rfl⟩
      | cons next more => exact ⟨_, _, rfl⟩
    rw [List.flatMap_cons, List.append_assoc, hmore, stringBody_escapeChar, ← hmore, ih,
      List.reverse_cons, List.append_assoc]
    rfl

/-- The text of a string after its opening quote. -/
theorem toList_quote (s : String) :
    (quote false s).toList = '"' :: (s.toList.flatMap (escapeChar false) ++ ['"']) := by
  rw [quote, String.toList_ofList, List.cons_append]

theorem stringBody_quote (s : String) :
    stringBody opening [] (s.toList.flatMap (escapeChar false) ++ '"' :: rest) = .ok (s, rest) := by
  rw [stringBody_flatMap, List.reverse_nil, List.nil_append, String.ofList_toList]

end Strings

end Storyboard.Json
