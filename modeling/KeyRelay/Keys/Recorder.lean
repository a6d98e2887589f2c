import KeyRelay.Keys.Memory
/-!
# A backend that is watched

A recorder stands before another backend. It writes down every request that reaches it, and it can
be told to go wrong: to be down, so that every call fails; to fail at one call; or to give a wrong
answer to one call, which the backend behind it has nevertheless carried out.
-/

namespace KeyRelay

/-- What a recorder has seen, and how it is to go wrong. -/
structure Recording where
  /-- The requests, in order, those included that failed. -/
  requests : List Request := []
  down : Bool := false
  /-- The number of the call that fails, counted from zero. -/
  failAt : Option Nat := none
  /-- The number of the call that is answered wrongly. -/
  flipAt : Option Nat := none
  /-- What a wrongly answered call for a digest answers, in place of the plain opposite. -/
  flippedDigest : Option String := none

namespace Recording

/-- A call: written down, failed or passed on, and its answer turned around if it is to be. It is
written down first, so that even a call that crashes has been. -/
def call {m : Type → Type} [Monad m] [MonadStateOf Recording m] {A : Type} (request : Request)
    (flip : Recording → A → A) (inner : m (Except CommandError A)) :
    m (Except CommandError A) := do
  let before ← getThe Recording
  let number := before.requests.length
  set ({ before with requests := before.requests ++ [request] } : Recording)
  if before.down ∨ before.failAt = some number then
    return .error (.backend "down")
  else
    match ← inner with
    | .error e => return .error e
    | .ok a => return .ok (if before.flipAt = some number then flip before a else a)

/-- The wrong answer to a call for a value. -/
def flipValue : Option Bytes → Option Bytes
  | some _ => none
  | none => some (Utf8.encode "?")

/-- The wrong answer to a call for a digest. -/
def flipDigest (r : Recording) (found : Option String) : Option String :=
  match r.flippedDigest, found with
  | some d, _ => some d
  | none, some _ => none
  | none, none => some "0000000000000000"

def commands {m : Type → Type} [Monad m] [MonadStateOf Recording m] (inner : KeyCommands m) :
    KeyCommands m where
  get key := call (.get key) (fun _ => flipValue) (inner.get key)
  set key value options :=
    call (.set key value options) (fun _ => not) (inner.set key value options)
  delete key condition := call (.delete key condition) (fun _ => not) (inner.delete key condition)
  digest key := call (.digest key) flipDigest (inner.digest key)

end Recording

/-! ## The store in memory, watched -/

/-- Effects on a store that is watched. The record outlasts a crash, as the store does. -/
abbrev WatchedM := ExceptT ClockOverflow (StateT Recording (StateM Memory))

/-- An effect on the store, past the recorder. -/
def WatchedM.unwatched {A : Type} (effect : MemoryM A) : WatchedM A :=
  ExceptT.mk (StateT.lift effect.run)

/-- The backend in memory with a recorder before it. -/
def Memory.watched : KeyCommands WatchedM :=
  Recording.commands (Memory.commands.lift WatchedM.unwatched)

end KeyRelay
