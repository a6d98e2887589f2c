import KeyRelay.Word
/-!
# Numbers that are spelled out

A number in decimal digits, with a sign before it if need be, is read only if it fits a word of 64
bits. There has to be a digit, zeros in front do not matter, and nothing else may stand there.
-/

namespace KeyRelay.Spelled

/-- The number with one more digit, if it is no greater than a limit. -/
def appendDigit (limit n : Nat) (c : Char) : Option Nat :=
  let n := n * 10 + (c.toNat - '0'.toNat)
  if n ≤ limit then some n else none

/-- The number that digits alone stand for, if it is no greater than a limit. More digits never make
a number smaller, so what is over the limit once is given up. -/
def digits? (limit : Nat) (text : List Char) : Option Nat :=
  if text ≠ [] ∧ text.all Char.isDigit then text.foldlM (appendDigit limit) 0 else none

/-- A number that is not negative. A plus sign may stand before it. -/
def natural? (text : List Char) : Option Nat :=
  let digits := match text with
    | '+' :: rest => rest
    | _ => text
  digits? maxWord digits

/-- A number with a sign or without. -/
def integer? (text : List Char) : Option Int :=
  match text with
  | '-' :: rest => (digits? Word.half rest).map fun n => -(n : Int)
  | '+' :: rest => (digits? (Word.half - 1) rest).map fun n => (n : Int)
  | _ => (digits? (Word.half - 1) text).map fun n => (n : Int)

end KeyRelay.Spelled
