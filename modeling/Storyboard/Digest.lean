import Storyboard.Credentials
import Storyboard.Text.Blank
import Storyboard.Text.Utf8

/-!
# Digests

A hasher to run the program with, in the place of the library that a host brings. What
it makes has the layout of that library: `$2b$04$`, 22 characters of salt, 31 of digest.
The digest is one of its own and protects nothing, and nothing is stated about it.
-/
namespace Storyboard

namespace Digest

/-- The digits of digests. -/
def alphabet : List Char :=
  "./ABCDEFGHIJKLMNOPQRSTUVWXYZabcdefghijklmnopqrstuvwxyz0123456789".toList

/-- A number below `64^width` in digits of the alphabet. -/
def digits : Nat → Nat → List Char
  | 0, _ => []
  | width + 1, n => digits width (n / 64) ++ [(alphabet[n % 64]?).getD '.']

/-- One step of the digest of a sequence of bytes. -/
def mix (state byte : Nat) : Nat :=
  (state * 340282366920938463463374607431768211507 + byte + 1) % Nat.pow 2 186

/-- The digest of a salt and a secret. -/
def compute (salt secret : String) : String :=
  String.ofList (digits 31 ((Text.Utf8.encode (salt ++ secret)).foldl mix 1))

def saltWidth : Nat := 22

/-- The salt of newly stored secrets. -/
def freshSalt : String := String.ofList (List.replicate saltWidth 'u')

/-- The stored form of a secret under a salt. -/
def stored (salt secret : String) : String := "$2b$04$" ++ salt ++ compute salt secret

/-- The parts of a text in the layout of a stored secret. -/
structure Parts where
  revision : Char
  cost : Nat
  salt : List Char
  digest : List Char

def isDigit64 (c : Char) : Bool := c.isAlphanum || c == '.' || c == '/'

/-- Takes a text apart, if it has the layout of a stored secret. -/
def parts? (s : List Char) : Option Parts :=
  match Text.dropFinalBreak s with
  | '$' :: '2' :: revision :: '$' :: tens :: ones :: '$' :: body =>
    let valid := ['a', 'b', 'x', 'y'].contains revision && body.length == 53 &&
      body.all fun c => isDigit64 c || c == '+'
    if valid && tens.isDigit && ones.isDigit then
      some ⟨revision, (tens.toNat - 48) * 10 + (ones.toNat - 48), body.take saltWidth,
        body.drop saltWidth⟩
    else none
  | _ => none

/-- The digits that end a salt. Sixteen bytes fill all but four bits of the last
digit, and these four are zero. -/
def closesSalt (c : Char) : Bool := ['.', 'O', 'e', 'u'].contains c

/-- Whether a secret can be checked against the parts: the cost is within bounds and
the salt has digits only, the last of which leaves nothing over. -/
def Parts.usable (p : Parts) : Bool :=
  4 ≤ p.cost && p.cost ≤ 31 && p.salt.all isDigit64 && (p.salt.getLast?.map closesSalt).getD false

end Digest

/-- Makes and checks digests. -/
def Hasher.digest : Hasher where
  hash s := some (Digest.stored Digest.freshSalt s)
  check plain saved :=
    match Digest.parts? saved.toList with
    | some p =>
      if p.usable && plain.utf8ByteSize ≤ secretLimit then
        .answered (saved == Digest.stored (String.ofList p.salt) plain)
      else .unrecognized
    | none => .unrecognized

end Storyboard
