import KeyRelay.Keys.Error
import KeyRelay.Json.Read
import KeyRelay.Text.Described
/-!
# Serializers

A serializer writes values of a type as bytes and reads them back. Either direction may fail. A
condition compares bytes, so a value is found again only if it is always written in the same way:
every serializer is a function, and each of those below writes a record's fields and an object's
members in one fixed order.
-/

namespace KeyRelay

/-- A way to store values of a type. -/
structure Serializer (V : Type) where
  name : String
  serialize : V → Except CommandError Bytes
  deserialize : Bytes → Except CommandError V

namespace Serializer

/-- Reads a text, with the fault in the bytes as the reason if they are none. -/
def readText (bytes : Bytes) : Except CommandError String :=
  match Utf8.decode bytes with
  | .ok text => .ok text
  | .error e => .error (.serialization e.message)

def text : Serializer String where
  name := "StringSerializer"
  serialize s := .ok (Utf8.encode s)
  deserialize := readText

def bytes : Serializer Bytes where
  name := "BytesSerializer"
  serialize b := .ok b
  deserialize b := .ok b

/-- The name of a serializer that goes through JSON, for values of this type. -/
def jsonName (type : String) : String :=
  Described.record "JsonSerializer" [("type", Quoted.text type)]

def json : Serializer Json.Value where
  name := jsonName "serde_json::value::Value"
  serialize v := .ok (Utf8.encode v.compact)
  deserialize b :=
    match Json.Value.parse? Json.nestingLimit b with
    | some v => .ok v
    | none => .error (.serialization "not a JSON value")

/-- Records of a schema, as JSON objects. -/
def record (type : String) (schema : Json.Schema) : Serializer (List Json.FieldValue) where
  name := jsonName type
  serialize values := .ok (Utf8.encode (Json.writeRecord schema values))
  deserialize b :=
    match Json.readRecord? schema b with
    | some values => .ok values
    | none => .error (.serialization "not a JSON record of this type")

def sessionSchema : Json.Schema := [("user", .text), ("version", .natural (UInt32.size - 1))]

def orderSchema : Json.Schema := [("id", .natural maxWord)]

/-- Texts in angle brackets. It refuses to write a text that begins with `bad` and to read one
without its brackets, so it fails in both directions. -/
def angled : Serializer String where
  name := "Picky"
  serialize s :=
    if "bad".toList.isPrefixOf s.toList then .error (.serialization ("cannot write " ++ s))
    else .ok (Utf8.encode ("<" ++ s ++ ">"))
  deserialize b := do
    let s ← readText b
    let refused := Except.error (CommandError.serialization ("cannot read " ++ s))
    match s.toList with
    | '<' :: rest =>
      match rest.reverse with
      | '>' :: content => .ok (String.ofList content.reverse)
      | _ => refused
    | _ => refused

/-- Texts in capital letters, as far as they are Latin. -/
def capitals : Serializer String where
  name := "Capitals"
  serialize s := .ok ((Utf8.encode s).map fun b => if 0x61 ≤ b ∧ b ≤ 0x7A then b - 32 else b)
  deserialize := readText

def refusing : Serializer String where
  name := "Refusing"
  serialize _ := .error (.serialization "boom")
  deserialize _ := .error (.serialization "boom")

end Serializer

end KeyRelay
