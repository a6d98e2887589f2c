import KeyRelay.Text.Hex
import KeyRelay.Toml.Value
import KeyRelay.Word
/-!
# The words of TOML

Comments, keys, strings, numbers and dates. As everywhere in a document, control characters other
than the tab are not allowed in any of them, and a line ends with a line feed that may have one
carriage return before it.

A reader that does not shorten its text by one character at a time has a `fuel`, of which every
round takes one off. Any fuel above the length of the text is enough, so whoever reads a whole
document sets it once.
-/

namespace KeyRelay.Toml

abbrev Source := List Char

/-- Whether a character is allowed in a comment and in a string. -/
def isPlain (c : Char) : Bool := c == '\t' || (0x20 ≤ c.toNat && c.toNat != 0x7F)

/-- Whether a character is a blank or a tab. -/
def isBlank (c : Char) : Bool := c == ' ' || c == '\t'

/-- Takes blanks and tabs off the front. -/
def skipBlanks (s : Source) : Source := s.dropWhile isBlank

/-- Takes the end of a line off the front. -/
def lineEnd? : Source → Option Source
  | '\n' :: rest => some rest
  | '\r' :: '\n' :: rest => some rest
  | _ => none

/-- Takes a comment off the front, if one is there. -/
def skipComment (s : Source) : Source :=
  match s with
  | '#' :: rest => rest.dropWhile isPlain
  | _ => s

/-- Takes what may follow a statement off the front: blanks, a comment, and the end of the line or
of the document. -/
def finishLine (s : Source) : Option Source :=
  match skipComment (skipBlanks s) with
  | [] => some []
  | rest => lineEnd? rest

/-- Takes blanks, comments and ends of lines off the front, given whether this is within a
comment. -/
def skipLines (inComment : Bool) : Source → Option Source
  | [] => some []
  | '\n' :: rest => skipLines false rest
  | '\r' :: '\n' :: rest => skipLines false rest
  | c :: rest =>
    if inComment then if isPlain c then skipLines true rest else none
    else if c = '#' then skipLines true rest
    else if isBlank c then skipLines false rest
    else some (c :: rest)

/-! ## Strings -/

/-- The number that exactly `count` hexadecimal digits stand for. -/
def hexNumber? : Nat → Nat → Source → Option (Nat × Source)
  | 0, n, s => some (n, s)
  | count + 1, n, c :: rest => do hexNumber? count (n * 16 + (← Hex.digitValue? c)) rest
  | _ + 1, _, [] => none

def readEscape : Source → Option (Char × Source)
  | 'b' :: rest => some ('\x08', rest)
  | 't' :: rest => some ('\t', rest)
  | 'n' :: rest => some ('\n', rest)
  | 'f' :: rest => some ('\x0C', rest)
  | 'r' :: rest => some ('\r', rest)
  | '"' :: rest => some ('"', rest)
  | '\\' :: rest => some ('\\', rest)
  | 'u' :: rest => do
    let (n, rest) ← hexNumber? 4 0 rest
    if n.isValidChar then return (Char.ofNat n, rest) else none
  | 'U' :: rest => do
    let (n, rest) ← hexNumber? 8 0 rest
    if n.isValidChar then return (Char.ofNat n, rest) else none
  | _ => none

/-- Reads a string on one line after its opening quote; with escapes or without. -/
def readLine (quote : Char) (escapes : Bool) : Nat → Source → Option (List Char × Source)
  | 0, _ => none
  | _ + 1, [] => none
  | fuel + 1, c :: rest =>
    if c = quote then some ([], rest)
    else if escapes ∧ c = '\\' then do
      let (c, rest) ← readEscape rest
      let (more, rest) ← readLine quote escapes fuel rest
      return (c :: more, rest)
    else if isPlain c then do
      let (more, rest) ← readLine quote escapes fuel rest
      return (c :: more, rest)
    else none

/-- Takes white space that spreads over lines off the front. -/
def skipWhite : Source → Source
  | [] => []
  | '\n' :: rest => skipWhite rest
  | '\r' :: '\n' :: rest => skipWhite rest
  | c :: rest => if isBlank c then skipWhite rest else c :: rest

/-- Reads a string of several lines after its opening quotes. Three quotes end it, and up to two
more before them still belong to it. A backslash at the end of a line takes all white space after it
away. -/
def readLines (quote : Char) (escapes : Bool) : Nat → Source → Option (List Char × Source)
  | 0, _ => none
  | _ + 1, [] => none
  | fuel + 1, c :: rest =>
    if c = quote then
      match (c :: rest).takeWhile (· = quote) with
      | run =>
        if run.length < 3 then do
          let (more, rest) ← readLines quote escapes fuel rest
          return (c :: more, rest)
        else if run.length ≤ 5 then
          some (List.replicate (run.length - 3) quote, (c :: rest).drop run.length)
        else none
    else if escapes ∧ c = '\\' then
      match lineEnd? (skipBlanks rest) with
      | some after => readLines quote escapes fuel (skipWhite after)
      | none => do
        let (c, rest) ← readEscape rest
        let (more, rest) ← readLines quote escapes fuel rest
        return (c :: more, rest)
    else match lineEnd? (c :: rest) with
      | some rest => do
        let (more, rest) ← readLines quote escapes fuel rest
        return ('\n' :: more, rest)
      | none =>
        if isPlain c then do
          let (more, rest) ← readLines quote escapes fuel rest
          return (c :: more, rest)
        else none

/-- Takes the end of a line off the front, if it is there. -/
def skipLineEnd (s : Source) : Source := (lineEnd? s).getD s

def readString (fuel : Nat) (s : Source) : Option (String × Source) :=
  let found := match s with
    | '"' :: '"' :: '"' :: rest => readLines '"' true fuel (skipLineEnd rest)
    | '"' :: rest => readLine '"' true fuel rest
    | '\'' :: '\'' :: '\'' :: rest => readLines '\'' false fuel (skipLineEnd rest)
    | '\'' :: rest => readLine '\'' false fuel rest
    | _ => none
  found.map fun (cs, rest) => (String.ofList cs, rest)

/-! ## Keys -/

/-- Whether a character may stand in a key without quotes. -/
def isBare (c : Char) : Bool := c.isAlphanum || c == '-' || c == '_'

def readKeyPart (fuel : Nat) (s : Source) : Option (String × Source) :=
  match s with
  | '"' :: rest => (readLine '"' true fuel rest).map fun (cs, rest) => (String.ofList cs, rest)
  | '\'' :: rest => (readLine '\'' false fuel rest).map fun (cs, rest) => (String.ofList cs, rest)
  | _ =>
    match s.takeWhile isBare with
    | [] => none
    | cs => some (String.ofList cs, s.dropWhile isBare)

/-- Reads a key: parts between dots, and no more than a limit of them. -/
def readKey (fuel : Nat) : Nat → Source → Option (List String × Source)
  | 0, _ => none
  | limit + 1, s => do
    let (part, rest) ← readKeyPart fuel (skipBlanks s)
    match skipBlanks rest with
    | '.' :: rest => do
      let (parts, rest) ← readKey fuel limit rest
      return (part :: parts, rest)
    | rest => return ([part], rest)

/-! ## Numbers -/

/-- Whether a character is a decimal digit. -/
def isDigit (c : Char) : Bool := '0' ≤ c && c ≤ '9'

/-- Reads the digits of a base that follow one, with single underscores between them. -/
def moreDigits (isDigit : Char → Bool) : Source → List Char × Source
  | '_' :: c :: rest =>
    if isDigit c then
      let (cs, after) := moreDigits isDigit rest
      (c :: cs, after)
    else ([], '_' :: c :: rest)
  | c :: rest =>
    if isDigit c then
      let (cs, after) := moreDigits isDigit rest
      (c :: cs, after)
    else ([], c :: rest)
  | [] => ([], [])

/-- Reads digits of a base, at least one. -/
def readDigits (isDigit : Char → Bool) : Source → Option (List Char × Source)
  | [] => none
  | c :: rest =>
    if isDigit c then
      let (cs, after) := moreDigits isDigit rest
      some (c :: cs, after)
    else none

/-- The number that digits of a base stand for. -/
def ofDigits (base : Nat) (digits : List Char) : Nat :=
  digits.foldl (fun n c => n * base + (Hex.digitValue? c).getD 0) 0

/-- A whole number, if a 64-bit word with a sign holds it. -/
def integer? (n : Int) : Option Value :=
  if -(Word.half : Int) ≤ n ∧ n < Word.half then some (.integer n) else none

/-- Reads a whole number of another base after its mark. -/
def readBased (base : Nat) (isDigit : Char → Bool) (s : Source) : Option (Value × Source) := do
  let (digits, rest) ← readDigits isDigit s
  return (← integer? (ofDigits base digits), rest)

/-- A sign at the front: whether it is a minus. -/
def readSign : Source → Bool × Source
  | '+' :: rest => (false, rest)
  | '-' :: rest => (true, rest)
  | s => (false, s)

/-- Reads an exponent, if there is one: whether there is, and its value. -/
def readExponent : Source → Option (Option Int × Source)
  | c :: rest =>
    if c = 'e' ∨ c = 'E' then do
      let (negative, rest) := readSign rest
      let (digits, rest) ← readDigits isDigit rest
      let n : Int := ofDigits 10 digits
      return (some (if negative then -n else n), rest)
    else some (none, c :: rest)
  | [] => some (none, [])

/-- Whether a positive number is too great for a double: not below 2 ^ 1024 less half a unit of the
last place. -/
def exceedsDouble (digits : List Char) (exponent : Int) : Bool :=
  let significant := digits.dropWhile (· == '0')
  let magnitude : Int := significant.length + exponent
  if significant.isEmpty ∨ magnitude < 300 then false
  else if 310 < magnitude then true
  else
    let n := ofDigits 10 digits
    let limit := Nat.pow 2 1024 - Nat.pow 2 970
    limit * Nat.pow 10 (-exponent).toNat ≤ n * Nat.pow 10 exponent.toNat

/-- Reads the digits before the point. A zero stands alone. -/
def readWhole : Source → Option (List Char × Source)
  | '0' :: rest => some (['0'], rest)
  | s => readDigits isDigit s

/-- Reads a decimal number: a whole one, or one with a fraction or an exponent. -/
def readDecimal (s : Source) : Option (Value × Source) := do
  let (negative, rest) := readSign s
  match rest with
  | 'i' :: 'n' :: 'f' :: rest => return (.float, rest)
  | 'n' :: 'a' :: 'n' :: rest => return (.float, rest)
  | _ =>
    let (digits, rest) ← readWhole rest
    match rest with
    | '.' :: rest => do
      let (fraction, rest) ← readDigits isDigit rest
      let (exponent, rest) ← readExponent rest
      let exponent := exponent.getD 0 - fraction.length
      if !negative ∧ exceedsDouble (digits ++ fraction) exponent then none
      else return (.float, rest)
    | rest => do
      match ← readExponent rest with
      | (some exponent, rest) =>
        if !negative ∧ exceedsDouble digits exponent then none else return (.float, rest)
      | (none, rest) =>
        let n : Int := ofDigits 10 digits
        return (← integer? (if negative then -n else n), rest)

/-! ## Dates and times -/

def readFixed : Nat → Nat → Source → Option (Nat × Source)
  | 0, n, s => some (n, s)
  | count + 1, n, c :: rest =>
    if isDigit c then readFixed count (n * 10 + (c.toNat - 0x30)) rest else none
  | _ + 1, _, [] => none

def daysIn (year month : Nat) : Nat :=
  if month = 2 then
    if year % 4 = 0 ∧ (year % 100 ≠ 0 ∨ year % 400 = 0) then 29 else 28
  else if month = 4 ∨ month = 6 ∨ month = 9 ∨ month = 11 then 30 else 31

def readDate (s : Source) : Option Source := do
  let (year, rest) ← readFixed 4 0 s
  let ('-' :: rest) := rest | none
  let (month, rest) ← readFixed 2 0 rest
  let ('-' :: rest) := rest | none
  let (day, rest) ← readFixed 2 0 rest
  if 1 ≤ month ∧ month ≤ 12 ∧ 1 ≤ day ∧ day ≤ daysIn year month then return rest else none

def readTime (s : Source) : Option Source := do
  let (hour, rest) ← readFixed 2 0 s
  let (':' :: rest) := rest | none
  let (minute, rest) ← readFixed 2 0 rest
  let (':' :: rest) := rest | none
  let (second, rest) ← readFixed 2 0 rest
  if hour ≤ 23 ∧ minute ≤ 59 ∧ second ≤ 60 then
    match rest with
    | '.' :: c :: rest => if isDigit c then return rest.dropWhile isDigit else none
    | '.' :: [] => none
    | rest => return rest
  else none

/-- Reads an offset from universal time, if there is one. -/
def readOffset (s : Source) : Option Source :=
  match s with
  | 'Z' :: rest => some rest
  | 'z' :: rest => some rest
  | c :: rest =>
    if c = '+' ∨ c = '-' then do
      let (hour, rest) ← readFixed 2 0 rest
      let (':' :: rest) := rest | none
      let (minute, rest) ← readFixed 2 0 rest
      if hour ≤ 23 ∧ minute ≤ 59 then return rest else none
    else some s
  | [] => some []

/-- Whether a date or a time begins here. -/
def looksLikeMoment (s : Source) : Bool :=
  let run := s.takeWhile isDigit
  match s.drop run.length with
  | '-' :: _ => run.length == 4
  | ':' :: _ => run.length == 2
  | _ => false

/-- Reads a date, a time, or a date and a time with an offset or without. -/
def readMoment (s : Source) : Option (Value × Source) :=
  if (s.takeWhile isDigit).length = 2 then (readTime s).map fun rest => (.moment, rest)
  else do
    let rest ← readDate s
    match rest with
    | c :: after =>
      let timed := (c = 'T' ∨ c = 't' ∨ c = ' ') ∧
        (after.takeWhile isDigit).length = 2 ∧ (after.drop 2).head? = some ':'
      if timed then do
        let rest ← readTime after
        return (.moment, ← readOffset rest)
      else return (.moment, rest)
    | [] => return (.moment, [])

/-- Reads a number, a date or a time. -/
def readNumber (s : Source) : Option (Value × Source) :=
  match s with
  | '0' :: 'x' :: rest => readBased 16 (fun c => (Hex.digitValue? c).isSome) rest
  | '0' :: 'o' :: rest => readBased 8 (fun c => '0' ≤ c && c ≤ '7') rest
  | '0' :: 'b' :: rest => readBased 2 (fun c => c == '0' || c == '1') rest
  | _ => if looksLikeMoment s then readMoment s else readDecimal s

end KeyRelay.Toml
