import Storyboard.Json.Basic
import Storyboard.Notice
import Storyboard.Settings

/-!
# Credentials

How secrets of users are stored and compared. A `Verifier` is any pair of the two
operations, failures included. `plaintext` stores the secret itself; `hashed` stores
what a `Hasher` makes of it, for secrets of up to 72 bytes. The hasher is a library of
its own and a parameter here.

Texts hold no half of a surrogate pair, so a secret that is a text always has bytes
that can be compared. `Secret` is for the hosts that have one that does not.
-/
namespace Storyboard

/-- A secret as a host has it. -/
inductive Secret where
  | text (s : String)
  | illFormed

/-- Why a secret cannot be stored. -/
inductive SecretFault where
  | tooLong
  | illFormed
  deriving DecidableEq, Repr

/-- The longest secret that can be hashed, in bytes. -/
def secretLimit : Nat := 72

def SecretFault.reason : SecretFault → String
  | .tooLong => "password is longer than " ++ toString secretLimit ++ " bytes"
  | .illFormed => "password is not valid UTF-8: surrogates not allowed"

/-- What comes of storing a secret. -/
inductive Storing where
  | stored (text : String)
  | rejected (reason : String)
  | crashed

/-- What comes of comparing a secret with what is stored. -/
inductive Comparing where
  | done (accepted : Bool) (notices : List Notice)
  | crashed

/-- A way to store and compare secrets. -/
structure Verifier where
  store : String → Storing
  compare : Json → Json → Comparing

/-- What comes of checking a secret against a hash. -/
inductive Checking where
  | answered (accepted : Bool)
  /-- The stored text is not recognised as a hash. -/
  | unrecognized
  | crashed
  deriving DecidableEq, Repr

/-- A library of password hashes. -/
structure Hasher where
  /-- The hash of a secret; `none` when the library fails. -/
  hash : String → Option String
  check : String → String → Checking

namespace Verifier

/-- Secrets are stored as they are. -/
def plaintext : Verifier where
  store s := .stored s
  compare
    | .str plain, .str stored => .done (plain == stored) []
    | _, _ => .done false []

/-- Secrets are stored as hashes. Nothing that is empty is ever accepted. -/
def hashed (hasher : Hasher) : Verifier where
  store s :=
    if secretLimit < s.utf8ByteSize then .rejected SecretFault.tooLong.reason
    else match hasher.hash s with
      | some saved => .stored saved
      | none => .crashed
  compare
    | .str plain, .str saved =>
      if plain == "" || saved == "" then .done false []
      else match hasher.check plain saved with
        | .answered accepted => .done accepted []
        | .unrecognized => .done false [.unrecognizedHash]
        | .crashed => .crashed
    | _, _ => .done false []

end Verifier

namespace Scheme

def verifier (hasher : Hasher) : Scheme → Verifier
  | .bcrypt => .hashed hasher
  | .plaintext => .plaintext

/-- Stores a secret that may be ill-formed. Kept as it is, such a secret is no text, and there is
nothing here to hold it. -/
def storeSecret (hasher : Hasher) : Scheme → Secret → Option Storing
  | scheme, .text s => some ((scheme.verifier hasher).store s)
  | .bcrypt, .illFormed => some (.rejected SecretFault.illFormed.reason)
  | .plaintext, .illFormed => none

end Scheme

/-- What is to be said about the scheme of some settings. -/
def Settings.credentialNotices (s : Settings) : List Notice :=
  if s.credentialScheme = .plaintext ∧ s.environment = .production then [.plaintextInProduction]
  else []

end Storyboard
