import KeyRelay.Json.Shortest
import KeyRelay.Word
/-!
# Numbers in JSON

A number without fraction and exponent that fits a 64-bit word is an integer and exact. Every other
number is a double. To read one, digits fill a 64-bit significand as they come; a digit for which
there is no room is dropped. The significand is then scaled by a power of ten, in the arithmetic of
doubles. Minus zero is a double too, for no integer keeps its sign.

A double is written with the fewest digits that read back: plainly, with at least one digit after
the point, while its first digit stands between the fifth place after the point and the sixteenth
before it, and with a signed exponent otherwise.
-/

namespace KeyRelay.Json

inductive Number where
  /-- A whole number from `-2 ^ 63` to `2 ^ 64 - 1`. -/
  | integer (n : Int)
  | real (x : Binary64)
deriving DecidableEq, Repr

/-! ## Reading -/

/-- A number as it is spelled. -/
structure Numeral where
  /-- Whether a minus sign stands before it. -/
  negative : Bool
  /-- The digits before the point, without needless zeros. -/
  whole : List Nat
  /-- The digits after the point, if there is one. -/
  fraction : Option (List Nat)
  /-- The exponent, if there is one. -/
  exponent : Option Int
deriving DecidableEq, Repr

/-- A significand and how many digits before the point found no room in it. -/
def takeWhole (digits : List Nat) : Nat × Nat :=
  digits.foldl (fun (significand, dropped) d =>
    if dropped = 0 ∧ significand * 10 + d ≤ maxWord then (significand * 10 + d, 0)
    else (significand, dropped + 1)) (0, 0)

/-- A significand with the digits after the point for which there is room, and how many that are. -/
def takeFraction (significand : Nat) : List Nat → Nat × Nat
  | [] => (significand, 0)
  | d :: rest =>
    if significand * 10 + d ≤ maxWord then
      let (filled, count) := takeFraction (significand * 10 + d) rest
      (filled, count + 1)
    else (significand, 0)

/-- A double multiplied by a power of ten, unless the result is out of range. Powers beyond the
greatest that a double can be are taken in several steps; after `steps` of them nothing is left. -/
def scale : Nat → Float → Int → Option Float
  | steps, x, exponent =>
    if exponent.natAbs ≤ 308 then
      let power := Float.ofScientific 1 false exponent.natAbs
      if exponent < 0 then some (x / power)
      else if (x * power).isInf then none else some (x * power)
    else if x == 0 then some x
    else if 0 ≤ exponent then none
    else match steps with
      | 0 => some 0
      | steps + 1 => scale steps (x / 1e308) (exponent + 308)

/-- The value of a numeral, unless it is out of range. -/
def Numeral.value? (n : Numeral) : Option Number :=
  let (significand, dropped) := takeWhole n.whole
  let isReal := n.fraction.isSome || n.exponent.isSome || dropped != 0 ||
    (n.negative && (significand == 0 || Word.half < significand))
  if isReal then
    let (significand, taken) := takeFraction significand (n.fraction.getD [])
    let exponent := (dropped : Int) - taken + n.exponent.getD 0
    (scale 4 (UInt64.ofNat significand).toFloat exponent).map fun x =>
      .real ⟨(if n.negative then -x else x).toBits⟩
  else some (.integer (if n.negative then -significand else significand))

/-! ## Writing -/

/-- The digits of a number, of which the last is not zero, and the exponent that makes up for the
zeros taken away. -/
def Shortest.strip : Nat → Nat → Int → Nat × Int
  | 0, digits, exponent => (digits, exponent)
  | tries + 1, digits, exponent =>
    if digits % 10 = 0 then strip tries (digits / 10) (exponent + 1) else (digits, exponent)

/-- A positive decimal number as a text. -/
def decimalText (d : Shortest.Decimal) : String :=
  let (n, exponent) := Shortest.strip 20 d.digits d.exponent
  let digits := (toString n).toList
  let place : Int := exponent + digits.length - 1
  if -5 ≤ place ∧ place ≤ 15 then
    if 0 ≤ exponent then
      String.ofList (digits ++ List.replicate exponent.toNat '0') ++ ".0"
    else if 0 ≤ place then
      String.ofList (digits.take (place.toNat + 1) ++ '.' :: digits.drop (place.toNat + 1))
    else
      "0." ++ String.ofList (List.replicate (-place - 1).toNat '0' ++ digits)
  else
    let first := String.ofList (digits.take 1)
    let rest := digits.drop 1
    let mantissa := if rest.isEmpty then first else first ++ "." ++ String.ofList rest
    let sign := if place < 0 then "-" else "+"
    mantissa ++ "e" ++ sign ++ toString place.natAbs

def Number.text : Number → String
  | .integer n => toString n
  | .real x =>
    let sign := if x.isNegative then "-" else ""
    if x.mantissa = 0 then sign ++ "0.0" else sign ++ decimalText (Shortest.ofBinary64 x)

end KeyRelay.Json
