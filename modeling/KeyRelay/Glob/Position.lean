import KeyRelay.Glob.Match
import KeyRelay.Loop
/-!
# The matcher by its indices

`Glob.Match` keeps a position as what lies ahead of it. Here the same walk is written with indices
into the pattern and into the input, as a matcher keeps them that works on two arrays. An index can
lie past the end of what it points into, so this walk can go wrong where the other has nothing that
could.

Every access may fail. A byte that is fetched (`let b ← bytes[i]?`) and a rest that is cut off
(`rest?`) have to be there, and a round that does not get them comes to nothing. Where a byte is
only looked for (`match bytes[i]? with`), that there is none is an answer like others.

Nothing that runs uses these definitions: they say which places the walk of `Glob.Match` goes
through.
-/

namespace KeyRelay.Glob

/-- What lies from an index on. An index may be the end itself, but not lie past it. -/
def rest? (bytes : Bytes) (i : Nat) : Option Bytes :=
  if i ≤ bytes.length then some (bytes.drop i) else none

/-! ## A class -/

/-- A position in the body of a class. -/
structure ClassPosition where
  index : Nat
  /-- Whether an item before the index holds the byte. -/
  found : Bool
deriving DecidableEq, Repr

/-- The position after the caret, if there is one. -/
def ClassPosition.start (body : Bytes) : ClassPosition :=
  ⟨if body[0]? = some caret then 1 else 0, false⟩

/-- Tests a byte against one item of a class. A round that is done gives the position behind the
class. -/
def ClassPosition.round (body : Bytes) (byte : UInt8) (q : ClassPosition) :
    Option (Loop.Next ClassPosition ClassPosition) :=
  match body[q.index]? with
  | none => some (.done q)
  | some a =>
    if a = closeBracket then some (.done ⟨q.index + 1, q.found⟩)
    else if a = backslash ∧ q.index + 1 < body.length then do
      let b ← body[q.index + 1]?
      some (.again ⟨q.index + 2, q.found || (Item.single b).contains byte⟩)
    else if body[q.index + 1]? = some hyphen ∧ q.index + 2 < body.length then do
      let c ← body[q.index + 2]?
      some (.again ⟨q.index + 3, q.found || (Item.range a c).contains byte⟩)
    else some (.again ⟨q.index + 1, q.found || (Item.single a).contains byte⟩)

/-- Whether the class with this body holds a byte, and how many bytes of the body belong to the
class. There can be no more items than bytes, and one round more to see that they are over. -/
def Class.testAt (body : Bytes) (byte : UInt8) : Option (Bool × Nat) := do
  let q ← Loop.run (ClassPosition.round body byte) (body.length + 1) (ClassPosition.start body)
  some (q.found != (body[0]? == some caret), q.index)

/-! ## A byte at an index of a pattern -/

/-- What a byte finds at an index of a pattern. -/
inductive Spot where
  | star
  /-- A token that takes the byte and ends before this index. -/
  | fits (after : Nat)
  /-- A token that does not take the byte, or the end of the pattern. -/
  | stuck
deriving DecidableEq, Repr

/-- What a byte finds at an index of a pattern. -/
def Spot.of (byte : UInt8) (pattern : Bytes) (i : Nat) : Option Spot :=
  match pattern[i]? with
  | none => some .stuck
  | some b =>
    if b = Glob.star then some .star
    else if b = question then some (.fits (i + 1))
    else if b = openBracket then do
      let body ← rest? pattern (i + 1)
      let (holds, length) ← Class.testAt body byte
      some (if holds then .fits (i + 1 + length) else .stuck)
    else if b = backslash ∧ i + 1 < pattern.length then do
      let escaped ← pattern[i + 1]?
      some (if escaped = byte then .fits (i + 2) else .stuck)
    else some (if b = byte then .fits (i + 1) else .stuck)

/-! ## The matcher -/

/-- The most recent star. -/
structure StarPosition where
  /-- The index of the star in the pattern. -/
  pattern : Nat
  /-- The index in the input from which what follows the star was last tried. -/
  input : Nat
deriving DecidableEq, Repr

/-- An index into the pattern, one into the input, and the most recent star. -/
structure Position where
  pattern : Nat
  input : Nat
  star : Option StarPosition
deriving DecidableEq, Repr

def Position.start : Position := ⟨0, 0, none⟩

/-- One round. Past the last byte of the input it is done. -/
def Position.round (pattern input : Bytes) (p : Position) : Option (Loop.Next Position Bool) :=
  if p.input < input.length then do
    let byte ← input[p.input]?
    match ← Spot.of byte pattern p.pattern with
    | .star => some (.again ⟨p.pattern + 1, p.input, some ⟨p.pattern, p.input⟩⟩)
    | .fits after => some (.again ⟨after, p.input + 1, p.star⟩)
    | .stuck =>
      match p.star with
      | none => some (.done false)
      | some s => some (.again ⟨s.pattern + 1, s.input + 1, some ⟨s.pattern, s.input + 1⟩⟩)
  else do
    let rest ← rest? pattern (Nat.min p.pattern pattern.length)
    some (.done (rest.all (· == Glob.star)))

end KeyRelay.Glob
