import KeyRelay.Toml.Lexical
/-!
# TOML documents

A document is a sequence of statements, one on a line: a header, which opens a table, or a key with
a value, which goes into the table opened last. The table that is being filled is kept apart from
the rest of the document until the next header comes, so a header is checked against everything
before it.
-/

namespace KeyRelay.Toml

/-- How deep arrays and inline tables may be nested, and how many parts a key may have. -/
def depthLimit : Nat := 79

/-! ## Values -/

/-- Reads a key as the way to a table and the last part. -/
def readKeyPath (fuel : Nat) (s : Source) : Option (List String × String × Source) := do
  let (parts, rest) ← readKey fuel depthLimit s
  return (parts.dropLast, ← parts.getLast?, rest)

mutual

/-- Reads a value that is nested to a depth. Every call of one of these readers takes one off
`fuel`, and there are no more than two calls for a character. -/
def readValue : Nat → Nat → Source → Option (Value × Source)
  | 0, _, _ => none
  | fuel + 1, depth, s =>
    match s with
    | '"' :: _ => (readString fuel s).map fun (text, rest) => (.string text, rest)
    | '\'' :: _ => (readString fuel s).map fun (text, rest) => (.string text, rest)
    | '[' :: rest =>
      if depth < depthLimit then
        (readItems fuel (depth + 1) rest).map fun (items, rest) => (.array items, rest)
      else none
    | '{' :: rest =>
      if depth < depthLimit then
        match skipBlanks rest with
        | '}' :: rest => some (.inline [], rest)
        | rest => do
          let (pairs, rest) ← readPairs fuel (depth + 1) rest
          return (← inlineTable pairs, rest)
      else none
    | 't' :: 'r' :: 'u' :: 'e' :: rest => some (.boolean true, rest)
    | 'f' :: 'a' :: 'l' :: 's' :: 'e' :: rest => some (.boolean false, rest)
    | _ => readNumber s

/-- Reads the items of an array and its closing bracket. Items may be spread over lines, and a comma
may follow the last. -/
def readItems : Nat → Nat → Source → Option (List Value × Source)
  | 0, _, _ => none
  | fuel + 1, depth, s => do
    match ← skipLines false s with
    | ']' :: rest => return ([], rest)
    | s => do
      let (v, rest) ← readValue fuel depth s
      match ← skipLines false rest with
      | ']' :: rest => return ([v], rest)
      | ',' :: rest => do
        let (items, rest) ← readItems fuel depth rest
        return (v :: items, rest)
      | _ => none

/-- Reads the pairs of an inline table, of which there is at least one, and its closing brace. -/
def readPairs : Nat → Nat → Source → Option (List (List String × String × Value) × Source)
  | 0, _, _ => none
  | fuel + 1, depth, s => do
    let (path, key, rest) ← readKeyPath fuel s
    let ('=' :: rest) := rest | none
    let (v, rest) ← readValue fuel depth (skipBlanks rest)
    match skipBlanks rest with
    | '}' :: rest => return ([(path, key, v)], rest)
    | ',' :: rest => do
      let (pairs, rest) ← readPairs fuel depth rest
      return ((path, key, v) :: pairs, rest)
    | _ => none

end

/-! ## Statements -/

/-- A document as far as it was read. -/
structure Progress where
  /-- The document without the table that is being filled. -/
  root : Open
  /-- The table that is being filled. -/
  current : Open
  /-- The way to it; at the beginning it is the document itself. -/
  place : Option (List String × String)
  /-- Whether it is one of several under its name. -/
  repeated : Bool

def Progress.start : Progress := ⟨⟨.header, []⟩, ⟨.header, []⟩, none, false⟩

/-- Puts the table that is being filled into its place. -/
def Progress.finish (p : Progress) : Option Open :=
  match p.place with
  | none => some p.current
  | some (path, key) =>
    p.root.update .passage (fun parent =>
      match parent.entries.lookup key with
      | some (.tables items) =>
        if p.repeated then
          some { parent with
            entries := setEntry key (.tables (p.current.entries :: items)) parent.entries }
        else none
      | some _ => none
      | none =>
        let v := if p.repeated then Value.tables [p.current.entries]
          else .table .header p.current.entries
        some { parent with entries := (key, v) :: parent.entries }) path

def removeEntry (key : String) (entries : Entries) : Entries := entries.filter (·.1 != key)

/-- What a table with a header starts with: nothing, or what it got while it was only on the way. -/
def opening (parent : Open) (key : String) : Option Entries :=
  match parent.entries.lookup key with
  | none => some []
  | some (.table .passage found) => some found
  | some _ => none

def Progress.openTable (p : Progress) (path : List String) (key : String) : Option Progress := do
  let root ← (← p.finish).update .passage some path
  let opened ← opening (← root.find? path) key
  let root ← root.update .passage
    (fun parent => some { parent with entries := removeEntry key parent.entries }) path
  return ⟨root, ⟨.header, opened⟩, some (path, key), false⟩

/-- Opens one more table of a header with double brackets. -/
def Progress.openRepeated (p : Progress) (path : List String) (key : String) : Option Progress := do
  let root ← p.finish
  let root ← root.update .passage (fun parent =>
    match parent.entries.lookup key with
    | some (.tables _) => some parent
    | some _ => none
    | none => some parent) path
  return ⟨root, ⟨.header, []⟩, some (path, key), true⟩

def Progress.statement (fuel : Nat) (p : Progress) (s : Source) : Option (Progress × Source) :=
  match s with
  | '[' :: '[' :: rest => do
    let (path, key, rest) ← readKeyPath fuel rest
    let (']' :: ']' :: rest) := rest | none
    return (← p.openRepeated path key, ← finishLine rest)
  | '[' :: rest => do
    let (path, key, rest) ← readKeyPath fuel rest
    let (']' :: rest) := rest | none
    return (← p.openTable path key, ← finishLine rest)
  | _ => do
    let (path, key, rest) ← readKeyPath fuel s
    let ('=' :: rest) := rest | none
    let rest := skipBlanks rest
    let (v, rest) ← readValue fuel 0 rest
    return ({ p with current := ← p.current.put path key v }, ← finishLine rest)

def Progress.statements : Nat → Progress → Source → Option Progress
  | 0, _, _ => none
  | fuel + 1, p, s =>
    match skipLines false s with
    | none => none
    | some [] => some p
    | some s => do
      let (p, rest) ← p.statement fuel s
      statements fuel p rest

/-- Reads a document: the entries of its topmost table. A byte order mark may stand first. -/
def parse? (text : String) : Option Entries := do
  let s := match text.toList with
    | '\uFEFF' :: rest => rest
    | s => s
  let p ← Progress.start.statements (2 * s.length + 2) s
  return (← p.finish).entries

end KeyRelay.Toml
