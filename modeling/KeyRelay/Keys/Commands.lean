import KeyRelay.Keys.Condition
import KeyRelay.Keys.Error
/-!
# Key commands

The four things one can ask of a backend. A backend answers each of them in a monad of its own: a
store in memory changes its state, a client exchanges commands with a server, a test double records
what it was asked. What is built on top works with any of them.
-/

namespace KeyRelay

/-- How a value is to be written. -/
structure SetOptions where
  /-- What must hold of the key before; without it the value is written in any case. -/
  condition : Option Condition := none
  /-- How long the value is to live; without it, until it is overwritten or deleted. -/
  expiration : Option Duration := none
deriving DecidableEq, Repr

/-- A backend. The check of a condition and the change it guards are one step. -/
structure KeyCommands (m : Type → Type) where
  get : (key : String) → m (Except CommandError (Option Bytes))
  /-- Writes a value. The answer is whether it was written: on a missing key a condition that asks
  for equality does not hold, and one that asks for difference does. -/
  set : (key : String) → (value : Bytes) → SetOptions → m (Except CommandError Bool)
  /-- Deletes a key. The answer is whether it was deleted: a missing key never is. -/
  delete : (key : String) → Option Condition → m (Except CommandError Bool)
  /-- The digest of a key's value. -/
  digest : (key : String) → m (Except CommandError (Option String))

/-- A backend in another monad, given how effects are carried over. -/
def KeyCommands.lift {m n : Type → Type} (b : KeyCommands m) (carry : {A : Type} → m A → n A) :
    KeyCommands n where
  get key := carry (b.get key)
  set key value options := carry (b.set key value options)
  delete key condition := carry (b.delete key condition)
  digest key := carry (b.digest key)

/-- A request to a backend, as data. -/
inductive Request where
  /-- For the value of a key. -/
  | get (key : String)
  | set (key : String) (value : Bytes) (options : SetOptions)
  | delete (key : String) (condition : Option Condition)
  /-- For the digest of a key's value. -/
  | digest (key : String)
deriving DecidableEq, Repr

end KeyRelay
