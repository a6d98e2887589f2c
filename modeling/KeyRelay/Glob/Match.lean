import KeyRelay.Glob.Token
/-!
# Matching a byte string against a pattern

The matcher walks pattern and input together and keeps a single way back: the most recent star,
with the input that star has not yet been tried on. When a byte does not fit, the star takes one
byte more and everything after it starts again. An earlier star never has to be tried again, for
whatever it could take, the later star can take too.

A position is kept as the part of the pattern, or of the input, that lies ahead. So the matcher
holds no index that could be out of range, and `Cursor.step` says all that one round does.
`Cursor.rounds` bounds their number.
-/

namespace KeyRelay.Glob

/-! ## A byte at the head of a pattern -/

/-- What a byte finds at the head of a pattern. -/
inductive Head where
  | star (rest : Bytes)
  /-- A token that takes the byte, before this pattern. -/
  | fits (rest : Bytes)
  /-- A token that does not take the byte, or no token at all. -/
  | stuck
deriving DecidableEq, Repr

/-- What a byte finds at the head of a pattern. Nothing is kept of the token itself. -/
@[inline] def Head.of (byte : UInt8) (pattern : Bytes) : Head :=
  match pattern with
  | [] => .stuck
  | b :: rest =>
    if b = Glob.star then .star rest
    else if b = question then .fits rest
    else if b = openBracket then
      let (holds, after) := Class.test rest byte
      if holds then .fits after else .stuck
    else if b = backslash then
      match rest with
      | [] => if b = byte then .fits [] else .stuck
      | escaped :: after => if escaped = byte then .fits after else .stuck
    else if b = byte then .fits rest else .stuck

def Token.holds : Token → UInt8 → Bool
  | .star, _ => true
  | .any, _ => true
  | .bracket c, byte => c.contains byte
  | .literal b, byte => b == byte

/-- A byte meets the token that is read first. -/
theorem Head.of_eq (byte : UInt8) (pattern : Bytes) :
    Head.of byte pattern =
      match Token.read? pattern with
      | none => .stuck
      | some (.star, rest) => .star rest
      | some (t, rest) => if t.holds byte then .fits rest else .stuck := by
  cases pattern with
  | nil => rfl
  | cons b rest =>
    rw [Head.of.eq_def, Token.read?.eq_def]
    dsimp only
    split
    · rfl
    · split
      · rfl
      · split
        · rw [Class.test_eq]; rfl
        · split
          · cases rest <;> simp_all [Token.holds]
          · simp [Token.holds]

/-! ## The matcher -/

/-- Where the most recent star stands. -/
structure Retry where
  pattern : Bytes
  /-- The input from which that pattern was last tried. -/
  input : Bytes
deriving DecidableEq, Repr

/-- A position in the pattern and in the input. -/
structure Cursor where
  pattern : Bytes
  input : Bytes
  retry : Option Retry
deriving DecidableEq, Repr

/-- What a round comes to. -/
inductive Round where
  | next (c : Cursor)
  | done (matched : Bool)
deriving DecidableEq, Repr

/-- Gives the most recent star one byte more. -/
@[inline] def Cursor.backtrack (c : Cursor) : Round :=
  match c.retry with
  | some ⟨pattern, _ :: input⟩ => .next ⟨pattern, input, some ⟨pattern, input⟩⟩
  | _ => .done false

/-- One round. At the end of the input only stars may be left; before it, the next token takes a
byte if it can. -/
@[inline] def Cursor.step (c : Cursor) : Round :=
  match c.input with
  | [] => .done (c.pattern.all (· == star))
  | b :: input =>
    match Head.of b c.pattern with
    | .star rest => .next ⟨rest, c.input, some ⟨rest, c.input⟩⟩
    | .fits rest => .next ⟨rest, input, c.retry⟩
    | .stuck => c.backtrack

/-- Rounds until the answer is known, or until there have been `limit` of them. -/
def Cursor.run : Nat → Cursor → Option Bool
  | 0, _ => none
  | limit + 1, c =>
    match c.step with
    | .done matched => some matched
    | .next c => run limit c

/-- Enough rounds for any pattern and input: each way back is tried at most once, and between two of
them the pattern ahead only gets shorter. -/
def Cursor.rounds (pattern input : Bytes) : Nat := (input.length + 1) * (pattern.length + 1) + 1

def Cursor.start (pattern input : Bytes) : Cursor := ⟨pattern, input, none⟩

/-- Whether a pattern matches the whole of an input. -/
def isMatch (pattern input : Bytes) : Bool :=
  ((Cursor.start pattern input).run (Cursor.rounds pattern input)).getD false

end KeyRelay.Glob
