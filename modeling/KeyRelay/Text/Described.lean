import KeyRelay.Text.Quoted
/-!
# Descriptions of records

The text by which a component shows itself in a diagnosis: the name of its kind and, in braces, its
fields. Two dots in the last place say that there is more to it.
-/

namespace KeyRelay

namespace Described

/-- The texts, with `separator` between each and the next. -/
def joined (separator : String) : List String → String
  | [] => ""
  | [x] => x
  | x :: rest => x ++ separator ++ joined separator rest

def record (name : String) (fields : List (String × String)) : String :=
  name ++ " \x7b " ++ joined ", " (fields.map fun f => f.1 ++ ": " ++ f.2) ++ " \x7d"

/-- A record of which only some fields are shown. -/
def partialRecord (name : String) (fields : List (String × String)) : String :=
  name ++ " \x7b " ++ joined ", " (fields.map (fun f => f.1 ++ ": " ++ f.2) ++ [".."]) ++ " \x7d"

def list (items : List String) : String := "[" ++ joined ", " items ++ "]"

def option : Option String → String
  | none => "None"
  | some x => "Some(" ++ x ++ ")"

def bool (b : Bool) : String := if b then "true" else "false"

end Described

end KeyRelay
