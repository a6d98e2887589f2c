import KeyRelay.Json.Lexical
/-!
# Reading JSON

A text is one value, with white space around it and nothing else. The grammar is the strict one: no
comma before a closing mark, no comment, no byte order mark. Arrays and objects may be nested up to
a depth that the caller sets.

A value that nobody asked for is skipped. Skipping checks the grammar and nothing more: not the
range of a number, not the text of a string, not the depth.
-/

namespace KeyRelay.Json

/-- The depth to which values may be nested in what comes from outside. -/
def nestingLimit : Nat := 127

mutual

/-- Reads a value, with no white space before it. Every call of one of the three readers takes one
off `fuel`. -/
def readValue : Nat → Nat → Bytes → Option (Value × Bytes)
  | 0, _, _ => none
  | fuel + 1, depth, bytes =>
    match bytes with
    | 0x6E :: rest => (expect (Utf8.encode "ull") rest).map fun rest => (.null, rest)
    | 0x74 :: rest => (expect (Utf8.encode "rue") rest).map fun rest => (.bool true, rest)
    | 0x66 :: rest => (expect (Utf8.encode "alse") rest).map fun rest => (.bool false, rest)
    | 0x22 :: rest => (readString rest).map fun (s, rest) => (.string s, rest)
    | 0x5B :: rest =>
      match depth with
      | 0 => none
      | depth + 1 =>
        match skipSpace rest with
        | 0x5D :: rest => some (.array [], rest)
        | rest => (readItems fuel depth rest).map fun (items, rest) => (.array items, rest)
    | 0x7B :: rest =>
      match depth with
      | 0 => none
      | depth + 1 =>
        match skipSpace rest with
        | 0x7D :: rest => some (.object [], rest)
        | rest =>
          (readMembers fuel depth rest).map fun (members, rest) => (Value.ofMembers members, rest)
    | b :: _ =>
      if b = 0x2D ∨ isDigit b then do
        let (numeral, rest) ← readNumeral bytes
        let n ← numeral.value?
        return (.number n, rest)
      else none
    | [] => none

/-- Reads the items of an array, of which there is at least one, and its closing bracket. -/
def readItems : Nat → Nat → Bytes → Option (List Value × Bytes)
  | 0, _, _ => none
  | fuel + 1, depth, bytes => do
    let (v, rest) ← readValue fuel depth bytes
    match skipSpace rest with
    | 0x5D :: rest => return ([v], rest)
    | 0x2C :: rest => do
      let (items, rest) ← readItems fuel depth (skipSpace rest)
      return (v :: items, rest)
    | _ => none

/-- Reads the members of an object, of which there is at least one, and its closing brace. -/
def readMembers : Nat → Nat → Bytes → Option (List (String × Value) × Bytes)
  | 0, _, _ => none
  | fuel + 1, depth, bytes => do
    let rest ← expect [0x22] bytes
    let (key, rest) ← readString rest
    let rest ← expectMark 0x3A rest
    let (v, rest) ← readValue fuel depth (skipSpace rest)
    match skipSpace rest with
    | 0x7D :: rest => return ([(key, v)], rest)
    | 0x2C :: rest => do
      let (members, rest) ← readMembers fuel depth (skipSpace rest)
      return ((key, v) :: members, rest)
    | _ => none

end

def atEnd (bytes : Bytes) : Bool := (skipSpace bytes).isEmpty

/-- More calls than reading these bytes can take: each is followed by a byte of its own. -/
def fuelFor (bytes : Bytes) : Nat := 2 * bytes.length + 2

def Value.parse? (depth : Nat) (bytes : Bytes) : Option Value := do
  let (v, rest) ← readValue (fuelFor bytes) depth (skipSpace bytes)
  if atEnd rest then return v else none

/-! ## Skipping -/

mutual

/-- Finds the end of a value, with no white space before it. -/
def skipValue : Nat → Bytes → Option Bytes
  | 0, _ => none
  | fuel + 1, bytes =>
    match bytes with
    | 0x6E :: rest => expect (Utf8.encode "ull") rest
    | 0x74 :: rest => expect (Utf8.encode "rue") rest
    | 0x66 :: rest => expect (Utf8.encode "alse") rest
    | 0x22 :: rest => skipString rest
    | 0x5B :: rest =>
      match skipSpace rest with
      | 0x5D :: rest => some rest
      | rest => skipItems fuel rest
    | 0x7B :: rest =>
      match skipSpace rest with
      | 0x7D :: rest => some rest
      | rest => skipMembers fuel rest
    | b :: _ => if b = 0x2D ∨ isDigit b then (readNumeral bytes).map Prod.snd else none
    | [] => none

/-- Finds the end of an array after its opening bracket. -/
def skipItems : Nat → Bytes → Option Bytes
  | 0, _ => none
  | fuel + 1, bytes => do
    let rest ← skipValue fuel bytes
    match skipSpace rest with
    | 0x5D :: rest => return rest
    | 0x2C :: rest => skipItems fuel (skipSpace rest)
    | _ => none

/-- Finds the end of an object after its opening brace. -/
def skipMembers : Nat → Bytes → Option Bytes
  | 0, _ => none
  | fuel + 1, bytes => do
    let rest ← expect [0x22] bytes
    let rest ← skipString rest
    let rest ← expectMark 0x3A rest
    let rest ← skipValue fuel (skipSpace rest)
    match skipSpace rest with
    | 0x7D :: rest => return rest
    | 0x2C :: rest => skipMembers fuel (skipSpace rest)
    | _ => none

end

/-! ## Records -/

/-- What a field of a record holds. -/
inductive FieldType where
  | text
  /-- A whole number up to this one. -/
  | natural (max : Nat)
deriving DecidableEq, Repr

/-- The value of a field. -/
inductive FieldValue where
  | text (s : String)
  | natural (n : Nat)
deriving DecidableEq, Repr

/-- The fields of a kind of record, in the order in which they are written. -/
abbrev Schema := List (String × FieldType)

def readField (type : FieldType) (bytes : Bytes) : Option (FieldValue × Bytes) :=
  match type with
  | .text => do
    let rest ← expect [0x22] bytes
    let (s, rest) ← readString rest
    return (.text s, rest)
  | .natural max => do
    let (numeral, rest) ← readNumeral bytes
    match ← numeral.value? with
    | .integer n => if 0 ≤ n ∧ n ≤ max then return (.natural n.toNat, rest) else none
    | .real _ => none

/-- Reads the members of a record after its opening brace. A field must not come twice; a member
that is no field is skipped. -/
def readFields (schema : Schema) :
    Nat → List (String × FieldValue) → Bytes → Option (List (String × FieldValue) × Bytes)
  | 0, _, _ => none
  | fuel + 1, found, bytes => do
    let rest ← expect [0x22] bytes
    let (key, rest) ← readString rest
    let rest ← expectMark 0x3A rest
    let (found, rest) ← match schema.lookup key with
      | some type => do
        if (found.lookup key).isSome then none
        let (v, rest) ← readField type (skipSpace rest)
        pure (found ++ [(key, v)], rest)
      | none => do
        let rest ← skipValue (fuelFor rest) (skipSpace rest)
        pure (found, rest)
    match skipSpace rest with
    | 0x7D :: rest => return (found, rest)
    | 0x2C :: rest => readFields schema fuel found (skipSpace rest)
    | _ => none

/-- Reads the fields of a record as the items of an array, after its opening bracket. -/
def readRow : Schema → Bytes → Option (List FieldValue × Bytes)
  | [], bytes => (expectMark 0x5D bytes).map fun rest => ([], rest)
  | [(_, type)], bytes => do
    let (v, rest) ← readField type (skipSpace bytes)
    let rest ← expectMark 0x5D rest
    return ([v], rest)
  | (_, type) :: schema, bytes => do
    let (v, rest) ← readField type (skipSpace bytes)
    let rest ← expectMark 0x2C rest
    let (values, rest) ← readRow schema rest
    return (v :: values, rest)

/-- Reads a text as a record: an object with all of its fields, or an array of exactly its fields in
order. -/
def readRecord? (schema : Schema) (bytes : Bytes) : Option (List FieldValue) := do
  let (values, rest) ← match skipSpace bytes with
    | 0x7B :: rest => do
      let (found, rest) ← match skipSpace rest with
        | 0x7D :: rest => pure ([], rest)
        | rest => readFields schema (fuelFor rest) [] rest
      let values ← schema.mapM fun field => found.lookup field.1
      pure (values, rest)
    | 0x5B :: rest => readRow schema rest
    | _ => none
  if atEnd rest then return values else none

/-- The value of a field as a JSON value. -/
def FieldValue.json : FieldValue → Value
  | .text s => .string s
  | .natural n => .number (.integer n)

/-- Writes a record as an object with its fields in order. -/
def writeRecord (schema : Schema) (values : List FieldValue) : String :=
  (Value.object ((schema.map Prod.fst).zip (values.map FieldValue.json))).compact

end KeyRelay.Json
