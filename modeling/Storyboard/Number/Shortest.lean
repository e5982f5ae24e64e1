import Storyboard.Number.Binary64

/-!
# The shortest decimal that reads back

A double is written with the fewest significant digits that round to it again;
of two such decimals the nearer one, on an exact tie the one with an even last
digit. Leading exponents from `-4` to `15` are written positionally, the others
with a signed exponent of at least two digits. How the special values are
spelled is left to a `Layout`.
-/
namespace Storyboard

/-- The decimal `digits · 10^scale`. -/
structure Decimal where
  digits : Nat
  scale : Int
  deriving DecidableEq, Repr

namespace Decimal

/-- The order of `a · 10^i` and `b · 2^j`. -/
def compareBinary (a : Nat) (i : Int) (b : Nat) (j : Int) : Ordering :=
  compare (a * Nat.pow 10 i.toNat * Nat.pow 2 (-j).toNat)
    (b * Nat.pow 2 j.toNat * Nat.pow 10 (-i).toNat)

/-- Whether a decimal lies among the reals that round to `m · 2^e`. The gap below
a power of two is half as wide; the ends belong to even significands. -/
def readsBack (m : Nat) (e : Int) (d : Decimal) : Bool :=
  let narrow := m == Nat.pow 2 52 && decide (Binary64.leastExponent < e)
  let low := if narrow then 4 * m - 1 else 4 * m - 2
  let inclusive := m % 2 == 0
  let fromLow := compareBinary d.digits d.scale low (e - 2)
  let fromHigh := compareBinary d.digits d.scale (4 * m + 2) (e - 2)
  (fromLow == .gt || (inclusive && fromLow == .eq)) &&
    (fromHigh == .lt || (inclusive && fromHigh == .eq))

/-- The least `k` with `m · 2^e < 10^k`, reached upwards from a low estimate. -/
def leadingScale (m : Nat) (e : Int) : Nat → Int → Int
  | 0, k => k
  | steps + 1, k =>
    if compareBinary 1 k m e == .gt then k else leadingScale m e steps (k + 1)

/-- Of the two neighbours of `m · 2^e` on the grid `10^s`, the one that reads back;
of two the nearer. -/
def onGrid (m : Nat) (e s : Int) : Option Decimal :=
  let q := (m * Nat.pow 2 e.toNat * Nat.pow 10 (-s).toNat) /
    (Nat.pow 2 (-e).toNat * Nat.pow 10 s.toNat)
  let down : Decimal := ⟨q, s⟩
  let up : Decimal := ⟨q + 1, s⟩
  match readsBack m e down, readsBack m e up with
  | true, true =>
    match compareBinary (2 * q + 1) s (2 * m) e with
    | .gt => some down
    | .lt => some up
    | .eq => if q % 2 == 0 then some down else some up
  | true, false => some down
  | false, true => some up
  | false, false => none

/-- Moves trailing zeros of the digits into the scale. -/
def strip : Nat → Decimal → Decimal
  | 0, d => d
  | fuel + 1, d =>
    if d.digits % 10 == 0 then strip fuel ⟨d.digits / 10, d.scale + 1⟩ else d

/-- The value `m · 2^e` itself. -/
def exactly (m : Nat) (e : Int) : Decimal :=
  if 0 ≤ e then ⟨m * Nat.pow 2 e.toNat, 0⟩ else ⟨m * Nat.pow 5 (-e).toNat, e⟩

/-- The shortest decimal that reads back as `m · 2^e`, for a positive significand. -/
def shortest (m : Nat) (e : Int) : Decimal :=
  let low := ((m.log2 : Int) + e) * 30103 / 100000 - 1
  let k := leadingScale m e 6 low
  let found := (List.range 17).findSome? fun (i : Nat) => onGrid m e (k - 1 - (i : Int))
  strip 20 (found.getD (exactly m e))

/-- The exponent part of scientific notation. -/
def exponentText (x : Int) : String :=
  let ds := toString x.natAbs
  (if x < 0 then "e-" else "e+") ++ (if ds.length < 2 then "0" ++ ds else ds)

/-- A positive decimal as text. -/
def render (d : Decimal) : String :=
  let ds := (toString d.digits).toList
  let point : Int := d.scale + ds.length
  let zeros (n : Int) : List Char := List.replicate n.toNat '0'
  if -4 < point && point ≤ 16 then
    if 0 ≤ d.scale then String.ofList (ds ++ zeros d.scale ++ ['.', '0'])
    else if 0 < point then
      String.ofList (ds.take point.toNat ++ '.' :: ds.drop point.toNat)
    else String.ofList (['0', '.'] ++ zeros (-point) ++ ds)
  else
    let mantissa := match ds with
      | [] => []
      | [d] => [d]
      | d :: rest => d :: '.' :: rest
    String.ofList mantissa ++ exponentText (point - 1)

end Decimal

/-- How a format spells the values that have no decimal. -/
structure Layout where
  undefinedText : String
  infinityText : String

namespace Binary64

def signText (negative : Bool) : String := if negative then "-" else ""

def render (layout : Layout) : Binary64 → String
  | .nan _ => layout.undefinedText
  | .infinity negative => signText negative ++ layout.infinityText
  | .finite negative 0 _ => signText negative ++ "0.0"
  | .finite negative m e => signText negative ++ (Decimal.shortest m e).render

end Binary64

end Storyboard
