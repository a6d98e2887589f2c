import KeyRelay.Keys.Store
/-!
# The backend in memory

A store together with a clock answers key commands. A write whose deadline does not fit the clock
crashes, and so does the clock if it is to go on further than it can show. That is why the monad
of this backend has an exception of its own: it is not one of the failures a caller is told of. The
state that was there before the crash is there after it.
-/

namespace KeyRelay

/-- A store and what its clock says. -/
structure Memory where
  store : Store := {}
  now : Instant := 0

/-- A crash: a deadline that the clock cannot show. -/
structure ClockOverflow where
deriving DecidableEq, Repr

/-- Effects on a store, which may crash. -/
abbrev MemoryM := ExceptT ClockOverflow (StateM Memory)

namespace Memory

/-- Lets time pass. A clock that could not show the time then crashes, and stays where it was. -/
def advance (d : Duration) : MemoryM Unit := do
  let m ← get
  match Instant.after? m.now d with
  | some now => set { m with now }
  | none => throw ⟨⟩

/-- Runs an operation of the store at the present time. -/
def atPresent {A : Type} (operation : Store → Instant → A × Store) : MemoryM A := do
  let m ← get
  let (answer, store) := operation m.store m.now
  set { m with store := store }
  return answer

def commands : KeyCommands MemoryM where
  get key := do
    return .ok (← atPresent fun s now => s.get now key)
  set key value options := do
    match ← atPresent fun s now => s.set now key value options with
    | .answer written => return .ok written
    | .overflow => throw ⟨⟩
  delete key condition := do
    return .ok (← atPresent fun s now => s.delete now key condition)
  digest key := do
    return .ok (← atPresent fun s now => s.digest now key)

end Memory

end KeyRelay
