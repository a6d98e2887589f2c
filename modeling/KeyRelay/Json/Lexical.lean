import KeyRelay.Json.Value
/-!
# The words of JSON

White space, literal names, numbers and strings: the parts of a text that contain no other values.
Every reader here takes its word off the front of a byte string and returns what is left, or fails.

Strings come in two strengths. `readString` wants the text that the string stands for, so its bytes
have to be UTF-8 and its escapes have to be characters. `skipString` only looks for its end.
-/

namespace KeyRelay.Json

def skipSpace (bytes : Bytes) : Bytes :=
  bytes.dropWhile fun b => b == 0x20 || b == 0x0A || b == 0x0D || b == 0x09

/-- Takes a fixed word off the front. -/
def expect : Bytes → Bytes → Option Bytes
  | [], rest => some rest
  | a :: word, b :: rest => if a = b then expect word rest else none
  | _ :: _, [] => none

/-- Takes a mark off the front, after white space. -/
def expectMark (mark : UInt8) (bytes : Bytes) : Option Bytes := expect [mark] (skipSpace bytes)

/-! ## Numbers -/

/-- Whether a byte is a decimal digit. -/
def isDigit (b : UInt8) : Bool := 0x30 ≤ b && b ≤ 0x39

def readDigits (bytes : Bytes) : List Nat × Bytes :=
  ((bytes.takeWhile isDigit).map fun b => b.toNat - 0x30, bytes.dropWhile isDigit)

def ofDigits (digits : List Nat) : Nat := digits.foldl (fun n d => 10 * n + d) 0

/-- Reads the digits before the point: no zero stands before another digit. -/
def readWhole (bytes : Bytes) : Option (List Nat × Bytes) :=
  match readDigits bytes with
  | ([], _) => none
  | (0 :: _ :: _, _) => none
  | found => some found

/-- Reads a point and the digits after it, if there is a point. -/
def readFraction (bytes : Bytes) : Option (Option (List Nat) × Bytes) :=
  match bytes with
  | 0x2E :: rest =>
    match readDigits rest with
    | ([], _) => none
    | (digits, rest) => some (some digits, rest)
  | _ => some (none, bytes)

/-- Reads an exponent, if there is one. -/
def readExponent (bytes : Bytes) : Option (Option Int × Bytes) :=
  match bytes with
  | b :: rest =>
    if b = 0x65 ∨ b = 0x45 then
      let (negative, rest) := match rest with
        | 0x2B :: rest => (false, rest)
        | 0x2D :: rest => (true, rest)
        | _ => (false, rest)
      match readDigits rest with
      | ([], _) => none
      | (digits, rest) =>
        some (some (if negative then -(ofDigits digits : Int) else ofDigits digits), rest)
    else some (none, bytes)
  | [] => some (none, bytes)

/-- Reads a number as it is spelled. -/
def readNumeral (bytes : Bytes) : Option (Numeral × Bytes) := do
  let (negative, bytes) := match bytes with
    | 0x2D :: rest => (true, rest)
    | _ => (false, bytes)
  let (whole, bytes) ← readWhole bytes
  let (fraction, bytes) ← readFraction bytes
  let (exponent, bytes) ← readExponent bytes
  return (⟨negative, whole, fraction, exponent⟩, bytes)

/-! ## Strings -/

def hexDigitValue? (b : UInt8) : Option Nat := Hex.digitValue? (Char.ofNat b.toNat)

/-- The number that four hexadecimal digits stand for. -/
def hexWord? (a b c d : UInt8) : Option Nat := do
  return ((← hexDigitValue? a) * 16 + (← hexDigitValue? b)) * 256 +
    (← hexDigitValue? c) * 16 + (← hexDigitValue? d)

/-- The byte that a letter after a backslash stands for. -/
def shortEscape? (b : UInt8) : Option UInt8 :=
  if b = 0x22 ∨ b = 0x5C ∨ b = 0x2F then some b
  else if b = 0x62 then some 0x08
  else if b = 0x66 then some 0x0C
  else if b = 0x6E then some 0x0A
  else if b = 0x72 then some 0x0D
  else if b = 0x74 then some 0x09
  else none

def codePointBytes (n : Nat) : Bytes := Utf8.encode (String.singleton (Char.ofNat n))

/-- Reads a numbered escape after its `u`. A code point above the sixteen-bit range takes two of
them, a half of a pair alone is no character. -/
def readNumberedEscape (bytes : Bytes) : Option (Bytes × Bytes) :=
  match bytes with
  | a :: b :: c :: d :: rest => do
    let n ← hexWord? a b c d
    if 0xDC00 ≤ n ∧ n ≤ 0xDFFF then none
    else if 0xD800 ≤ n ∧ n ≤ 0xDBFF then
      match rest with
      | 0x5C :: 0x75 :: a :: b :: c :: d :: rest => do
        let low ← hexWord? a b c d
        if 0xDC00 ≤ low ∧ low ≤ 0xDFFF then
          return (codePointBytes (0x10000 + (n - 0xD800) * 0x400 + (low - 0xDC00)), rest)
        else none
      | _ => none
    else return (codePointBytes n, rest)
  | _ => none

/-- Reads a string after its opening quote: its bytes, and what comes after its closing quote. -/
def readStringBytes : Nat → Bytes → Option (Bytes × Bytes)
  | 0, _ => none
  | _ + 1, [] => none
  | limit + 1, b :: rest =>
    if b = 0x22 then some ([], rest)
    else if b = 0x5C then
      match rest with
      | [] => none
      | 0x75 :: rest => do
        let (bytes, rest) ← readNumberedEscape rest
        let (more, rest) ← readStringBytes limit rest
        return (bytes ++ more, rest)
      | letter :: rest => do
        let byte ← shortEscape? letter
        let (more, rest) ← readStringBytes limit rest
        return (byte :: more, rest)
    else if b < 0x20 then none
    else do
      let (more, rest) ← readStringBytes limit rest
      return (b :: more, rest)

/-- Reads a string after its opening quote. -/
def readString (bytes : Bytes) : Option (String × Bytes) := do
  let (content, rest) ← readStringBytes (bytes.length + 1) bytes
  match Utf8.decode content with
  | .ok text => return (text, rest)
  | .error _ => none

/-- Finds the end of a string after its opening quote. -/
def skipString : Bytes → Option Bytes
  | [] => none
  | 0x22 :: rest => some rest
  | 0x5C :: 0x75 :: a :: b :: c :: d :: rest => do
    let _ ← hexWord? a b c d
    skipString rest
  | 0x5C :: letter :: rest => do
    let _ ← shortEscape? letter
    skipString rest
  | b :: rest => if b < 0x20 ∨ b = 0x5C then none else skipString rest

end KeyRelay.Json
