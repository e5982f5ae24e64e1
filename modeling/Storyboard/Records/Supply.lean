import Storyboard.Json.Writer

/-!
# The supply of ids

Ids are drawn from an endless stream. The stream may repeat itself, but past any
point it leaves every finite list of texts within a known number of draws, so
the search for an id that is not taken ends: `next_not_mem` says that what is
handed out is not taken. `counter` is the stream of draw numbers, written in 32
lower-case hexadecimal digits.
-/
namespace Storyboard

/-- A stream of ids that leaves every finite list. -/
structure IdSource where
  draw : Nat → String
  reach : List String → Nat → Nat
  leaves : ∀ taken start, ∃ i, i < reach taken start ∧ draw (start + i) ∉ taken

namespace IdSource

/-- The first draw from `start` on that is not taken, among `fuel` draws. -/
def search (source : IdSource) (taken : List String) : Nat → Nat → Nat
  | 0, start => start
  | fuel + 1, start =>
    if taken.contains (source.draw start) then search source taken fuel (start + 1) else start

theorem search_not_mem (source : IdSource) (taken : List String) (fuel start : Nat)
    (h : ∃ i, i < fuel ∧ source.draw (start + i) ∉ taken) :
    source.draw (search source taken fuel start) ∉ taken := by
  induction fuel generalizing start with
  | zero => obtain ⟨i, hi, _⟩ := h; omega
  | succ fuel ih =>
    unfold search
    split
    · rename_i hc
      apply ih
      obtain ⟨i, hi, hn⟩ := h
      cases i with
      | zero => simp only [Nat.add_zero] at hn; simp_all
      | succ i => exact ⟨i, by omega, by rwa [Nat.add_right_comm, Nat.add_assoc]⟩
    · rename_i hc
      simpa using hc

/-- Among one draw more than there are texts, an injective stream has a text of its own. -/
theorem exists_not_mem {draw : Nat → String} (inj : ∀ i j, draw i = draw j → i = j)
    (taken : List String) (start : Nat) :
    ∃ i, i < taken.length + 1 ∧ draw (start + i) ∉ taken := by
  suffices h : ∀ (taken : List String) (f : Nat → String), (∀ i j, f i = f j → i = j) →
      ∃ i, i < taken.length + 1 ∧ f i ∉ taken from
    h taken (fun i => draw (start + i)) fun i j e => by have := inj _ _ e; omega
  intro taken
  induction taken with
  | nil => intro f _; exact ⟨0, by simp⟩
  | cons x rest ih =>
    intro f hf
    by_cases hx : ∃ j, f j = x
    · obtain ⟨j, hj⟩ := hx
      let g := fun i => if i < j then f i else f (i + 1)
      have hg : ∀ a b, g a = g b → a = b := by
        intro a b h
        simp only [g] at h
        split at h <;> split at h <;> have := hf _ _ h <;> omega
      obtain ⟨i, hi, hn⟩ := ih g hg
      by_cases hij : i < j
      · refine ⟨i, by simp only [List.length_cons]; omega, ?_⟩
        simp only [g, hij, if_true] at hn
        intro hm
        rcases List.mem_cons.1 hm with h | h
        · have := hf _ _ (h.trans hj.symm); omega
        · exact hn h
      · refine ⟨i + 1, by simp only [List.length_cons]; omega, ?_⟩
        simp only [g, hij, if_false] at hn
        intro hm
        rcases List.mem_cons.1 hm with h | h
        · have := hf _ _ (h.trans hj.symm); omega
        · exact hn h
    · obtain ⟨i, hi, hn⟩ := ih f hf
      refine ⟨i, by simp only [List.length_cons]; omega, ?_⟩
      intro hm
      rcases List.mem_cons.1 hm with h | h
      · exact hx ⟨i, h⟩
      · exact hn h

/-- The number that hexadecimal digits stand for. -/
def hexValue (digits : List Char) : Nat :=
  digits.foldl (fun n c => n * 16 + (if c.toNat < 58 then c.toNat - 48 else c.toNat - 87)) 0

theorem hexValue_hexDigits (width n : Nat) :
    hexValue (Json.hexDigits width n) = n % Nat.pow 16 width := by
  induction width generalizing n with
  | zero => simp [Json.hexDigits, hexValue, Nat.mod_one]
  | succ width ih =>
    have digit : ∀ d, d < 16 → (if (Json.hexDigit d).toNat < 58 then (Json.hexDigit d).toNat - 48
        else (Json.hexDigit d).toNat - 87) = d := by decide
    have hd := digit (n % 16) (Nat.mod_lt _ (by decide))
    have ih' := ih (n / 16)
    simp only [hexValue] at ih'
    simp only [Json.hexDigits, hexValue, List.foldl_append, List.foldl_cons, List.foldl_nil, ih',
      hd]
    rw [show Nat.pow 16 (width + 1) = Nat.pow 16 width * 16 from rfl,
      Nat.mul_comm (Nat.pow 16 width) 16, Nat.mod_mul]
    omega

/-- A number in lower-case hexadecimal, at least 32 digits wide. -/
def hexText (n : Nat) : String := String.ofList (Json.hexDigits (max 32 (n.log2 / 4 + 1)) n)

theorem hexText_injective (m n : Nat) (h : hexText m = hexText n) : m = n := by
  have value : ∀ n, hexValue (hexText n).toList = n := by
    intro n
    simp only [hexText, String.toList_ofList, hexValue_hexDigits]
    apply Nat.mod_eq_of_lt
    have h1 : n < Nat.pow 2 (n.log2 + 1) := Nat.lt_log2_self
    have h2 : Nat.pow 16 (max 32 (n.log2 / 4 + 1)) =
        Nat.pow 2 (4 * max 32 (n.log2 / 4 + 1)) :=
      (Nat.pow_mul 2 4 _).symm
    rw [h2]
    exact Nat.lt_of_lt_of_le h1 (Nat.pow_le_pow_right (by decide) (by omega))
  rw [← value m, ← value n, h]

/-- The draw numbers themselves, from one on. -/
def counter : IdSource where
  draw n := hexText (n + 1)
  reach taken _ := taken.length + 1
  leaves taken start := @exists_not_mem (fun n => hexText (n + 1))
    (fun _ _ h => Nat.succ.inj (hexText_injective _ _ h)) taken start

end IdSource

/-- A stream of ids and how many were drawn from it. -/
structure Supply where
  source : IdSource
  drawn : Nat

namespace Supply

/-- Draws until an id is not taken. -/
def next (supply : Supply) (taken : List String) : String × Supply :=
  let n := supply.source.search taken (supply.source.reach taken supply.drawn) supply.drawn
  (supply.source.draw n, { supply with drawn := n + 1 })

theorem next_not_mem (supply : Supply) (taken : List String) :
    (supply.next taken).1 ∉ taken :=
  IdSource.search_not_mem _ _ _ _ (supply.source.leaves taken supply.drawn)

end Supply

end Storyboard
