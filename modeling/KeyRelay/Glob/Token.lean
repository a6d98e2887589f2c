import KeyRelay.Text.Utf8
/-!
# How a glob pattern is read

A pattern is a byte string that is read from left to right as tokens: a star, a question mark, a
class in brackets, or a byte that stands for itself. Every byte string is a pattern. What is cut
short (a class without its bracket, a backslash at the very end) has a meaning too, so reading
cannot fail.

`Token.read?` takes one token off the front. Its result is shorter than its argument, which is what
lets `tokens` read a whole pattern.
-/

namespace KeyRelay.Glob

/-! ## Bytes with a meaning -/

def star : UInt8 := 0x2A

def question : UInt8 := 0x3F

def openBracket : UInt8 := 0x5B

def closeBracket : UInt8 := 0x5D

def backslash : UInt8 := 0x5C

def caret : UInt8 := 0x5E

def hyphen : UInt8 := 0x2D

/-! ## Classes -/

/-- One item of a class. -/
inductive Item where
  | single (b : UInt8)
  /-- All bytes between two, whichever of them comes first. -/
  | range (a b : UInt8)
deriving DecidableEq, Repr

@[inline] def Item.contains : Item → UInt8 → Bool
  | .single a, b => a == b
  | .range low high, b => (low ≤ b && b ≤ high) || (high ≤ b && b ≤ low)

/-- A class of bytes. -/
structure Class where
  /-- Whether it holds the bytes that no item holds. -/
  negated : Bool
  /-- Its items, in the order of the pattern. -/
  items : List Item
deriving DecidableEq, Repr

def Class.contains (c : Class) (b : UInt8) : Bool := c.items.any (·.contains b) != c.negated

/-- Reads items up to the bracket that closes the class, or up to the end. An escape and a range
need the bytes they are made of; without them a backslash and a hyphen stand for themselves. -/
def readItems : Bytes → List Item × Bytes
  | [] => ([], [])
  | a :: rest =>
    if a = closeBracket then ([], rest)
    else if a = backslash then
      match rest with
      | [] => ([.single a], [])
      | b :: more =>
        let (items, after) := readItems more
        (.single b :: items, after)
    else
      match rest with
      | b :: c :: more =>
        if b = hyphen then
          let (items, after) := readItems more
          (.range a c :: items, after)
        else
          let (items, after) := readItems (b :: c :: more)
          (.single a :: items, after)
      | rest =>
        let (items, after) := readItems rest
        (.single a :: items, after)
termination_by structural bytes => bytes

/-- Reads a class after its opening bracket. -/
def Class.read (body : Bytes) : Class × Bytes :=
  match body with
  | [] => (⟨false, []⟩, [])
  | b :: rest =>
    if b = caret then
      let (items, after) := readItems rest
      (⟨true, items⟩, after)
    else
      let (items, after) := readItems body
      (⟨false, items⟩, after)

/-- What is left after the items is no longer than what was read. -/
theorem length_readItems_le (bytes : Bytes) : (readItems bytes).2.length ≤ bytes.length := by
  fun_induction readItems bytes <;> simp_all <;> omega

/-- What is left after a class is no longer than its body. -/
theorem Class.length_read_le (body : Bytes) : (Class.read body).2.length ≤ body.length := by
  cases body with
  | nil => exact Nat.le_refl _
  | cons b rest =>
    rw [Class.read]
    split
    · exact Nat.le_succ_of_le (length_readItems_le rest)
    · exact length_readItems_le (b :: rest)

/-! ## Testing a byte against a class

A matcher asks of a class only whether it holds one byte, and asks again for each byte. So the items
are tested as they are read, and none is kept.
-/

/-- Tests a byte against the items that `readItems` reads. `found` tells whether one held it so
far. -/
def testItems (byte : UInt8) (found : Bool) : Bytes → Bool × Bytes
  | [] => (found, [])
  | a :: rest =>
    if a = closeBracket then (found, rest)
    else if a = backslash then
      match rest with
      | [] => (found || (Item.single a).contains byte, [])
      | b :: more => testItems byte (found || (Item.single b).contains byte) more
    else
      match rest with
      | b :: c :: more =>
        if b = hyphen then testItems byte (found || (Item.range a c).contains byte) more
        else testItems byte (found || (Item.single a).contains byte) (b :: c :: more)
      | rest => testItems byte (found || (Item.single a).contains byte) rest
termination_by structural bytes => bytes

/-- Whether the class with this body holds a byte, and what follows the class. -/
def Class.test (body : Bytes) (byte : UInt8) : Bool × Bytes :=
  match body with
  | [] => (false, [])
  | b :: rest =>
    if b = caret then
      let (found, after) := testItems byte false rest
      (!found, after)
    else testItems byte false body

/-- Testing the items while they are read is testing them afterwards. -/
theorem testItems_eq (byte : UInt8) (found : Bool) (bytes : Bytes) :
    testItems byte found bytes =
      (found || (readItems bytes).1.any (·.contains byte), (readItems bytes).2) := by
  fun_induction testItems byte found bytes <;> rw [readItems.eq_def] <;>
    simp_all [Bool.or_assoc]

/-- The test of a class answers what the class holds, and leaves what reading it leaves. -/
theorem Class.test_eq (body : Bytes) (byte : UInt8) :
    Class.test body byte = ((Class.read body).1.contains byte, (Class.read body).2) := by
  cases body with
  | nil => rfl
  | cons b rest =>
    by_cases h : b = caret <;> simp [Class.test, Class.read, Class.contains, h, testItems_eq]

/-! ## Tokens -/

/-- One token of a pattern. -/
inductive Token where
  | star
  | any
  | bracket (c : Class)
  | literal (b : UInt8)
deriving DecidableEq, Repr

/-- Whether a token matches more than one text. -/
def Token.isWildcard : Token → Bool
  | .literal _ => false
  | _ => true

/-- Reads the first token; there is none only at the end. -/
def Token.read? : Bytes → Option (Token × Bytes)
  | [] => none
  | b :: rest =>
    if b = Glob.star then some (.star, rest)
    else if b = question then some (.any, rest)
    else if b = openBracket then
      let (c, after) := Class.read rest
      some (.bracket c, after)
    else if b = backslash then
      match rest with
      | [] => some (.literal b, [])
      | escaped :: after => some (.literal escaped, after)
    else some (.literal b, rest)

/-- Reading a token uses up at least one byte. -/
theorem Token.length_lt_of_read? {pattern rest : Bytes} {t : Token}
    (h : Token.read? pattern = some (t, rest)) : rest.length < pattern.length := by
  cases pattern with
  | nil => cases h
  | cons b bytes =>
    simp only [Token.read?] at h
    split at h
    · cases h; exact Nat.lt_succ_self _
    · split at h
      · cases h; exact Nat.lt_succ_self _
      · split at h
        · cases h; exact Nat.lt_succ_of_le (Class.length_read_le bytes)
        · split at h
          · cases bytes with
            | nil => cases h; exact Nat.lt_succ_self _
            | cons escaped after => cases h; exact Nat.lt_add_of_pos_right Nat.two_pos
          · cases h; exact Nat.lt_succ_self _

def tokens (pattern : Bytes) : List Token :=
  match _h : Token.read? pattern with
  | none => []
  | some (t, rest) => t :: tokens rest
termination_by pattern.length
decreasing_by exact Token.length_lt_of_read? _h

end KeyRelay.Glob
