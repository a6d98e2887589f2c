import KeyRelay.Toml.Document
/-!
# Records in TOML

How the parts of a configuration are read from the values of a document. A record is a table with a
value under the name of each field; what other names it holds does not matter. An array will do as
well, with the fields' values in order.
-/

namespace KeyRelay.Toml

/-- The values of a record with these fields, by name. -/
def Value.record? (fields : List String) : Value → Option (String → Option Value)
  | .table _ entries => some fun name => entries.lookup name
  | .inline entries => some fun name => entries.lookup name
  | .array items => some fun name => (fields.zip items).lookup name
  | .tables items => some fun name =>
    (fields.zip (items.reverse.map (.table .header))).lookup name
  | .moment => some fun _ => none
  | _ => none

/-- The items of an array, of tables or of other values. -/
def Value.items? : Value → Option (List Value)
  | .array items => some items
  | .tables items => some (items.reverse.map (.table .header))
  | _ => none

def Value.text? : Value → Option String
  | .string s => some s
  | _ => none

/-- A whole number that is not negative. -/
def Value.natural? : Value → Option Nat
  | .integer n => if 0 ≤ n then some n.toNat else none
  | _ => none

/-- A field that has to be there. -/
def required {A : Type} (read : Value → Option A) (field : Option Value) : Option A := do
  read (← field)

/-- A field that may be left out, and then has this value. -/
def optional {A : Type} (read : Value → Option A) (missing : A) : Option Value → Option A
  | none => some missing
  | some v => read v

end KeyRelay.Toml
