/-!
# The shortest decimal number that reads back

A double stands for a real number, and so do all the reals that are nearer to it than to any other
double: its interval. Among the decimal numbers in that interval, the one to print has the fewest
digits, and of those it is the nearest to the double itself.

All of it is done in natural numbers. A double is `mantissa * 2 ^ exponent`; the interval ends half
a unit away on either side (a quarter below a power of two), and belongs to the double with its ends
exactly when the mantissa is even. For one digit, two digits, and so on, the two decimal numbers
around the double on the grid of that many digits are tried; if any number of the grid lies in the
interval, one of these does.
-/

namespace KeyRelay

/-- A double by its bits. -/
structure Binary64 where
  bits : UInt64
deriving DecidableEq, Repr

namespace Binary64

def isNegative (x : Binary64) : Bool := x.bits >>> 63 == 1

def exponentField (x : Binary64) : Nat := (x.bits >>> 52).toNat % 2048

def fractionField (x : Binary64) : Nat := x.bits.toNat % Nat.pow 2 52

/-- The integer `m` such that the absolute value is `m * 2 ^ exponent`. -/
def mantissa (x : Binary64) : Nat :=
  if x.exponentField = 0 then x.fractionField else x.fractionField + Nat.pow 2 52

/-- The integer `q` such that the absolute value is `mantissa * 2 ^ q`. -/
def exponent (x : Binary64) : Int := (max x.exponentField 1 : Nat) - 1075

end Binary64

namespace Shortest

/-- A positive real number and the interval around it, in units of `1 / scale`. -/
structure Target where
  value : Nat
  low : Nat
  high : Nat
  /-- Whether the ends belong to the interval. -/
  closed : Bool
  scale : Nat

/-- A positive double and its interval. A quarter of the last place is the unit, so that the ends
are whole numbers. -/
def Target.ofBinary64 (x : Binary64) : Target :=
  let m := x.mantissa
  let below := if x.fractionField = 0 ∧ 1 < x.exponentField then 1 else 2
  let up := Nat.pow 2 (x.exponent - 2).toNat
  let scale := Nat.pow 2 (2 - x.exponent).toNat
  ⟨4 * m * up, (4 * m - below) * up, (4 * m + 2) * up, m % 2 = 0, scale⟩

/-- A decimal number, `digits * 10 ^ exponent`. -/
structure Decimal where
  digits : Nat
  exponent : Int
deriving DecidableEq, Repr

/-- A decimal number of the grid `10 ^ exponent`, and the target, brought to a common unit. -/
def Target.onGrid (t : Target) (exponent : Int) : Target × Nat :=
  let down := Nat.pow 10 (-exponent).toNat
  let up := Nat.pow 10 exponent.toNat
  (⟨t.value * down, t.low * down, t.high * down, t.closed, t.scale⟩, t.scale * up)

/-- Whether a number lies in the interval. -/
def Target.contains (t : Target) (n : Nat) : Bool :=
  if t.closed then t.low ≤ n ∧ n ≤ t.high else t.low < n ∧ n < t.high

/-- The number of the grid `10 ^ exponent` to print, if one lies in the interval: the nearer of the
two around the target, and of two equally near the even one. -/
def Target.onGrid? (t : Target) (exponent : Int) : Option Nat :=
  let (t, step) := t.onGrid exponent
  let below := t.value / step
  let above := below + 1
  match t.contains (below * step), t.contains (above * step) with
  | false, false => none
  | true, false => some below
  | false, true => some above
  | true, true =>
    let toBelow := t.value - below * step
    let toAbove := above * step - t.value
    if toBelow < toAbove ∨ (toBelow = toAbove ∧ below % 2 = 0) then some below else some above

/-- Searches for the power of ten of the first digit, upwards from one that is not too great. -/
def firstPlace (t : Target) : Nat → Int → Int
  | 0, place => place
  | tries + 1, place =>
    let (grid, step) := t.onGrid (place + 1)
    if step ≤ grid.value then firstPlace t tries (place + 1) else place

/-- A power of ten not above the target, and at most two places below it. -/
def guess (t : Target) : Int :=
  ((Nat.log2 t.value : Int) - (Nat.log2 t.scale : Int) - 1) * 30103 / 100000 - 1

/-- Tries grids of one digit more each time. Seventeen digits are always enough. -/
def search (t : Target) (place : Int) : Nat → Nat → Decimal
  | 0, digits => ⟨(t.onGrid? (place - digits)).getD 0, place - digits⟩
  | tries + 1, digits =>
    let exponent := place - digits
    match t.onGrid? exponent with
    | some n => ⟨n, exponent⟩
    | none => search t place tries (digits + 1)

/-- The decimal number to print for a positive double. -/
def ofBinary64 (x : Binary64) : Decimal :=
  let t := Target.ofBinary64 x
  search t (firstPlace t 4 (guess t)) 17 0

end Shortest

end KeyRelay
