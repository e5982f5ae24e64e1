import Mathlib.Logic.Basic
import Storyboard.Credentials

/-!
# What verifiers are relied on for

Whoever logs in relies on two things: a secret is accepted against what was stored for it, and
what is no text is never accepted. Both verifiers that the settings choose from keep this, the
hashed one with every library that accepts a secret against its own hash. The empty secret is the
exception: its hash is stored and never accepted.
-/
namespace Storyboard

/-- A verifier accepts every secret against what it stored for it, and nothing but texts. -/
structure Verifier.Faithful (v : Verifier) : Prop where
  accepts : ∀ {secret saved : String}, secret ≠ "" → v.store secret = .stored saved →
    ∃ said, v.compare (.str secret) (.str saved) = .done true said
  declines : ∀ {plain : Json}, (∀ text, plain ≠ .str text) → ∀ saved,
    ∃ said, v.compare plain saved = .done false said

/-- A verifier accepts what is submitted against what is stored. -/
def Verifier.Accepts (v : Verifier) (plain saved : Json) : Prop :=
  ∃ said, v.compare plain saved = .done true said

/-- A verifier says yes or no, whatever it is asked. -/
def Verifier.Answers (v : Verifier) : Prop := ∀ plain saved, v.compare plain saved ≠ .crashed

/-- Whom a verifier that answers does not accept it declines. -/
theorem Verifier.Answers.declines {v : Verifier} (h : v.Answers) {plain saved : Json}
    (unaccepted : ¬ v.Accepts plain saved) : ∃ said, v.compare plain saved = .done false said := by
  cases hcompare : v.compare plain saved with
  | crashed => exact absurd hcompare (h plain saved)
  | done accepted said =>
    cases accepted with
    | true => exact absurd ⟨said, hcompare⟩ unaccepted
    | false => exact ⟨said, rfl⟩

/-- Stored as it is, a text is accepted against itself, and nothing else is. -/
theorem Verifier.plaintext_accepts_iff {plain saved : Json} :
    Verifier.plaintext.Accepts plain saved ↔ ∃ text, plain = .str text ∧ saved = .str text := by
  constructor
  · rintro ⟨said, hcompare⟩
    simp only [plaintext] at hcompare
    split at hcompare
    · rename_i text other
      have hsame : (text == other) = true := (Comparing.done.inj hcompare).1
      exact ⟨text, rfl, by rw [eq_of_beq hsame]⟩
    · cases hcompare
  · rintro ⟨text, rfl, rfl⟩
    exact ⟨[], congrArg (Comparing.done · []) (beq_self_eq_true text)⟩

theorem Verifier.plaintext_answers : Verifier.plaintext.Answers := by
  intro plain saved hcrashed
  simp only [plaintext] at hcrashed
  split at hcrashed <;> cases hcrashed

theorem Verifier.plaintext_faithful : Verifier.plaintext.Faithful where
  accepts := by
    rintro secret saved - hstored
    cases hstored
    exact ⟨[], congrArg (Comparing.done · []) (beq_self_eq_true secret)⟩
  declines := by
    intro plain hplain saved
    cases plain with
    | str text => exact absurd rfl (hplain text)
    | _ => exact ⟨[], rfl⟩

/-- A library of hashes accepts a secret against its own hash, which is never the empty text. -/
structure Hasher.Sound (hasher : Hasher) : Prop where
  accepts : ∀ {secret saved : String}, hasher.hash secret = some saved →
    hasher.check secret saved = .answered true
  given : ∀ {secret saved : String}, hasher.hash secret = some saved → saved ≠ ""

namespace Verifier

/-- What is stored is the hash of a secret that is short enough. -/
theorem hashed_store_eq {hasher : Hasher} {secret saved : String}
    (h : (hashed hasher).store secret = .stored saved) : hasher.hash secret = some saved := by
  simp only [hashed] at h
  split at h
  · cases h
  · split at h
    · rename_i hhash
      cases h
      exact hhash
    · cases h

/-- With a library that accepts its own hashes, the hashed verifier is faithful. -/
theorem hashed_faithful {hasher : Hasher} (sound : hasher.Sound) : (hashed hasher).Faithful where
  accepts := by
    intro secret saved hsome hstored
    have hhash := hashed_store_eq hstored
    refine ⟨[], ?_⟩
    simp only [hashed, beq_false_of_ne hsome, beq_false_of_ne (sound.given hhash),
      sound.accepts hhash]
    rfl
  declines := by
    intro plain hplain saved
    cases plain with
    | str text => exact absurd rfl (hplain text)
    | _ => exact ⟨[], rfl⟩

/-- The hashed verifier answers whatever the library answers or does not recognise. -/
theorem hashed_answers {hasher : Hasher} (h : ∀ plain saved, hasher.check plain saved ≠ .crashed) :
    (hashed hasher).Answers := by
  intro plain saved hcrashed
  simp only [hashed] at hcrashed
  split at hcrashed
  · split at hcrashed
    · cases hcrashed
    · split at hcrashed
      · cases hcrashed
      · cases hcrashed
      · rename_i hcheck
        exact h _ _ hcheck
  · cases hcrashed

end Verifier

end Storyboard
