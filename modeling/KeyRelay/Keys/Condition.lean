import KeyRelay.Text.Quoted
import KeyRelay.Text.Described
/-!
# Conditions

A conditional change to a key is carried out only if what is stored there compares as asked. What
is compared is either the stored value itself or its digest, and the comparison asks either for
equality or for difference. A comparand keeps the form in which it was given: a value is bytes, a
digest is text, and neither becomes the other on its way to the server.
-/

namespace KeyRelay

/-- What a comparison asks for. -/
inductive Operator where
  | equals
  | notEquals
deriving DecidableEq, Repr

def Operator.name : Operator → String
  | .equals => "equals"
  | .notEquals => "not-equals"

/-- The outcome of a comparison, given whether the two are equal. -/
def Operator.apply : Operator → Bool → Bool
  | .equals, equal => equal
  | .notEquals, equal => !equal

/-- What the stored value is compared with. -/
inductive Comparand where
  /-- A value, compared with the stored value. -/
  | value (bytes : Bytes)
  /-- A digest in hexadecimal, compared with the digest of the stored value. It is not checked. -/
  | digest (text : String)
deriving DecidableEq, Repr

/-- What is compared: the word for it. -/
def Comparand.subject : Comparand → String
  | .value _ => "value"
  | .digest _ => "digest"

def Comparand.wire : Comparand → Bytes
  | .value bytes => bytes
  | .digest text => Utf8.encode text

def Comparand.text : Comparand → String
  | .value bytes => Utf8.lossy bytes
  | .digest text => text

/-- What must hold of a stored value for a change to be carried out. -/
structure Condition where
  operator : Operator
  /-- What the stored value is compared with. -/
  comparand : Comparand
deriving DecidableEq, Repr

namespace Condition

def ifEquals (value : Bytes) : Condition := ⟨.equals, .value value⟩

/-- The stored value is not this one. -/
def ifNotEquals (value : Bytes) : Condition := ⟨.notEquals, .value value⟩

/-- The digest of the stored value is this one. -/
def ifDigestEquals (digest : String) : Condition := ⟨.equals, .digest digest⟩

/-- The digest of the stored value is not this one. -/
def ifDigestNotEquals (digest : String) : Condition := ⟨.notEquals, .digest digest⟩

/-- The word that announces the condition in a command. -/
def keyword (c : Condition) : String :=
  match c.operator, c.comparand with
  | .equals, .value _ => "IFEQ"
  | .notEquals, .value _ => "IFNE"
  | .equals, .digest _ => "IFDEQ"
  | .notEquals, .digest _ => "IFDNE"

/-- A condition as it is read aloud. -/
def describe (c : Condition) : String := c.keyword ++ " " ++ c.comparand.text

def inspect (c : Condition) : String :=
  let function := match c.comparand with
    | .value _ => "Value"
    | .digest _ => "Digest"
  let operator := match c.operator with
    | .equals => "Equals"
    | .notEquals => "NotEquals"
  let value := match c.comparand with
    | .value bytes => "Bytes(" ++ Quoted.bytes bytes ++ ")"
    | .digest text => "Digest(" ++ Quoted.text text ++ ")"
  Described.record "CompareCondition"
    [("function", function), ("operator", operator), ("value", value)]

end Condition

end KeyRelay
