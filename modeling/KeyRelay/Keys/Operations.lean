import KeyRelay.Keys.Serializer
import KeyRelay.Keys.Spec
/-!
# Operations on values

Typed operations over any backend. One serializer writes the values to be stored and the values to
compare with, so a value compares equal to itself.

Everything that can fail without the backend is done first: the condition, then the value. Only
then is the backend called, once, so an operation that fails early has changed nothing.
-/

namespace KeyRelay

/-- Operations on values of a type. -/
structure ValueOperations (m : Type → Type) (V : Type) where
  commands : KeyCommands m
  serializer : Serializer V

namespace ValueOperations

variable {m : Type → Type} [Monad m] {V : Type} (ops : ValueOperations m V)

def get (key : String) : m (Except CommandError (Option V)) := do
  match ← ops.commands.get key with
  | .error e => return .error e
  | .ok none => return .ok none
  | .ok (some bytes) => return (ops.serializer.deserialize bytes).map some

/-- Writes a value, in any case and for good. -/
def set (key : String) (value : V) : m (Except CommandError Unit) :=
  match ops.serializer.serialize value with
  | .error e => pure (.error e)
  | .ok bytes => do
    match ← ops.commands.set key bytes {} with
    | .error e => return .error e
    | .ok _ => return .ok ()

/-- Writes a value as its spec says. The answer is whether it was written. -/
def setIf (key : String) (value : V) (spec : SetSpec V) : m (Except CommandError Bool) :=
  match (spec.options (m := Id) ops.serializer.serialize) with
  | .error e => pure (.error e)
  | .ok options =>
    match ops.serializer.serialize value with
    | .error e => pure (.error e)
    | .ok bytes => ops.commands.set key bytes options

/-- Deletes a key in any case. The answer is whether it was there. -/
def delete (key : String) : m (Except CommandError Bool) := ops.commands.delete key none

/-- Deletes a key as the spec says. The answer is whether it was deleted. -/
def deleteIf (key : String) (spec : DeleteSpec V) : m (Except CommandError Bool) :=
  match (Spec.condition (m := Id) spec ops.serializer.serialize) with
  | .error e => pure (.error e)
  | .ok condition => ops.commands.delete key condition

def digest (key : String) : m (Except CommandError (Option String)) := ops.commands.digest key

def inspect : String :=
  Described.partialRecord "ValueOperations" [("serializer", ops.serializer.name)]

end ValueOperations

end KeyRelay
