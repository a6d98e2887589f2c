/-!
# TOML values and tables

A document is a table whose values may be tables in their turn. How a table came about decides what
may still be added to it: a table with a header of its own is not opened again, a table that dotted
keys made takes further dotted keys but no header, and a table that is merely on the way to another
may still get its header. An inline table is complete where it is written.
-/

namespace KeyRelay.Toml

/-- How a table came about. -/
inductive Origin where
  /-- It has a header, or is the document itself. -/
  | header
  /-- It is on the way to a table with a header. -/
  | passage
  | dotted
deriving DecidableEq, Repr

inductive Value where
  | string (s : String)
  | integer (n : Int)
  /-- A number with a fraction or an exponent, or a special one. -/
  | float
  | boolean (b : Bool)
  /-- A date, a time, or both. -/
  | moment
  | array (items : List Value)
  | inline (entries : List (String × Value))
  | table (origin : Origin) (entries : List (String × Value))
  /-- Tables under one name, each with a header of double brackets; the last one first. -/
  | tables (items : List (List (String × Value)))
deriving Repr

/-- The entries of a table. No two have the same key, so that their order does not matter. -/
abbrev Entries := List (String × Value)

/-- A table that is being filled. -/
structure Open where
  origin : Origin
  entries : Entries
deriving Repr

/-- The entries with the value of a key changed. -/
def setEntry (key : String) (v : Value) : Entries → Entries
  | [] => []
  | (k, w) :: rest => if k = key then (k, v) :: rest else (k, w) :: setEntry key v rest

/-- Changes the table at the end of a path. Tables that the path needs are made, with the given
origin. With dotted keys a table that has a header cannot be entered. -/
def Open.update (making : Origin) (change : Open → Option Open) :
    List String → Open → Option Open
  | [], t => change t
  | key :: path, t =>
    match t.entries.lookup key with
    | none => do
      let child ← update making change path ⟨making, []⟩
      return { t with entries := (key, .table child.origin child.entries) :: t.entries }
    | some (.table origin entries) =>
      if making = .dotted ∧ origin = .header then none
      else do
        let child ← update making change path ⟨origin, entries⟩
        return { t with entries := setEntry key (.table child.origin child.entries) t.entries }
    | some (.tables items) =>
      match items with
      | [] => none
      | last :: before => do
        let child ← update making change path ⟨.header, last⟩
        return { t with entries := setEntry key (.tables (child.entries :: before)) t.entries }
    | some _ => none

/-- The table at the end of a path, if the path is there. -/
def Open.find? : List String → Open → Option Open
  | [], t => some t
  | key :: path, t =>
    match t.entries.lookup key with
    | some (.table origin entries) => find? path ⟨origin, entries⟩
    | some (.tables items) => find? path ⟨.header, items.head?.getD []⟩
    | _ => none

/-- Adds a value at the end of a dotted key. Dotted keys and plain ones do not mix in one table. -/
def Open.put (t : Open) (path : List String) (key : String) (v : Value) : Option Open :=
  t.update .dotted (fun t =>
    if (t.origin == .dotted) == path.isEmpty then none
    else match t.entries.lookup key with
      | some _ => none
      | none => some { t with entries := (key, v) :: t.entries }) path

def inlineTable (pairs : List (List String × String × Value)) : Option Value := do
  let t ← pairs.foldlM (fun t (path, key, v) => Open.put t path key v) ⟨.header, []⟩
  return .inline t.entries

end KeyRelay.Toml
