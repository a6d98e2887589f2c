import KeyRelay.Json.Number
import KeyRelay.Text.Hex
/-!
# JSON values and how they are written

The members of an object are kept in the order of their keys' bytes, each key once. Values are
written without any white space, or, for people, with one member or item on each line. In strings
only what has to be is escaped: the quote, the backslash and the control characters below the space.
-/

namespace KeyRelay.Json

inductive Value where
  | null
  | bool (b : Bool)
  | number (n : Number)
  | string (s : String)
  | array (items : List Value)
  | object (members : List (String × Value))
deriving Repr

def escape (c : Char) : List Char :=
  if c = '"' then ['\\', '"']
  else if c = '\\' then ['\\', '\\']
  else if c = '\x08' then ['\\', 'b']
  else if c = '\x0C' then ['\\', 'f']
  else if c = '\n' then ['\\', 'n']
  else if c = '\r' then ['\\', 'r']
  else if c = '\t' then ['\\', 't']
  else if c.toNat < 0x20 then
    ['\\', 'u', '0', '0', Hex.digit (c.toNat / 16), Hex.digit (c.toNat % 16)]
  else [c]

def quote (s : String) : String := "\"" ++ String.ofList (s.toList.flatMap escape) ++ "\""

/-- Texts between an opening and a closing mark, separated by commas. -/
def enclose (opening closing : String) : List String → String
  | [] => opening ++ closing
  | x :: rest => rest.foldl (fun line y => line ++ "," ++ y) (opening ++ x) ++ closing

mutual

def Value.compact : Value → String
  | .null => "null"
  | .bool b => if b then "true" else "false"
  | .number n => n.text
  | .string s => quote s
  | .array items => enclose "[" "]" (compactItems items)
  | .object members => enclose "\x7b" "\x7d" (compactMembers members)

/-- The items of an array without white space. -/
def compactItems : List Value → List String
  | [] => []
  | v :: rest => v.compact :: compactItems rest

/-- The members of an object without white space. -/
def compactMembers : List (String × Value) → List String
  | [] => []
  | (key, v) :: rest => (quote key ++ ":" ++ v.compact) :: compactMembers rest

end

/-- Texts on lines of their own between an opening and a closing mark, `depth` steps further in. -/
def encloseLines (depth : Nat) (opening closing : String) : List String → String
  | [] => opening ++ closing
  | x :: rest =>
    let indent := "\n" ++ String.ofList (List.replicate (2 * (depth + 1)) ' ')
    rest.foldl (fun text y => text ++ "," ++ indent ++ y) (opening ++ indent ++ x) ++
      "\n" ++ String.ofList (List.replicate (2 * depth) ' ') ++ closing

mutual

/-- A value with each member and each item on a line of its own. -/
def Value.pretty (depth : Nat) : Value → String
  | .null => "null"
  | .bool b => if b then "true" else "false"
  | .number n => n.text
  | .string s => quote s
  | .array items => encloseLines depth "[" "]" (prettyItems (depth + 1) items)
  | .object members => encloseLines depth "\x7b" "\x7d" (prettyMembers (depth + 1) members)

def prettyItems (depth : Nat) : List Value → List String
  | [] => []
  | v :: rest => v.pretty depth :: prettyItems depth rest

def prettyMembers (depth : Nat) : List (String × Value) → List String
  | [] => []
  | (key, v) :: rest => (quote key ++ ": " ++ v.pretty depth) :: prettyMembers depth rest

end

/-- Puts a member into its place among members in order; a member with the same key gives way. -/
def insertMember (key : String) (v : Value) : List (String × Value) → List (String × Value)
  | [] => [(key, v)]
  | (k, w) :: rest =>
    if key = k then (key, v) :: rest
    else if key < k then (key, v) :: (k, w) :: rest
    else (k, w) :: insertMember key v rest

/-- The object with these members; of two with the same key the later counts. -/
def Value.ofMembers (members : List (String × Value)) : Value :=
  .object (members.foldl (fun sorted m => insertMember m.1 m.2 sorted) [])

def Value.get? (v : Value) (key : String) : Option Value :=
  match v with
  | .object members => (members.find? fun m => m.1 == key).map Prod.snd
  | _ => none

end KeyRelay.Json
