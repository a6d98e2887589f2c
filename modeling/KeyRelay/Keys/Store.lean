import KeyRelay.Keys.Commands
import KeyRelay.Keys.Digest
import KeyRelay.Table
import KeyRelay.Word
/-!
# The store in memory

A store maps keys to values, each with a deadline or without. From its deadline on, a value is not
there any more, for any question one can ask; the entry itself is taken out only when an operation
next comes across it. Time is a parameter: every operation is told what the clock says.

A deadline has to fit the clock. A write whose deadline would not is no answer at all but a crash
(`Written.overflow`), and it happens after the condition was checked and before anything changes.
-/

namespace KeyRelay

abbrev Instant := Nat

/-- The first point in time that a clock of 64-bit signed seconds cannot show. -/
def Instant.limit : Instant := Word.half * Duration.perSecond

/-- The point a duration after another, if the clock can show it. -/
def Instant.after? (now : Instant) (d : Duration) : Option Instant :=
  if now + d.nanoseconds < Instant.limit then some (now + d.nanoseconds) else none

/-- What is stored under a key. -/
structure Entry where
  value : Bytes
  /-- From when on it does not count. -/
  deadline : Option Instant
deriving DecidableEq, Repr

def Entry.isExpired (e : Entry) (now : Instant) : Bool :=
  match e.deadline with
  | some deadline => deadline ≤ now
  | none => false

/-- Whether a condition holds of a stored value. -/
def Condition.holds (c : Condition) (stored : Bytes) : Bool :=
  c.operator.apply <| match c.comparand with
    | .value expected => expected == stored
    | .digest expected => equalUpToCase expected (valueDigest stored)

/-- Whether a condition lets a key be written that is not there: if it asks for difference. -/
def Condition.holdsForMissing (c : Condition) : Bool := c.operator == .notEquals

structure Store where
  /-- The entries, those included whose deadline has come. -/
  entries : Table String Entry := .empty

/-- The outcome of a write. -/
inductive Written where
  /-- The value was written, or its condition did not hold. -/
  | answer (written : Bool)
  /-- The deadline does not fit the clock. -/
  | overflow
deriving DecidableEq, Repr

namespace Store

def empty : Store := {}

/-- The value of a key, unless its deadline has come. -/
def live? (s : Store) (now : Instant) (key : String) : Option Bytes :=
  match s.entries.get? key with
  | some e => if e.isExpired now then none else some e.value
  | none => none

def size (s : Store) (now : Instant) : Nat :=
  (s.entries.entries.filter fun e => !e.2.isExpired now).length

def isEmpty (s : Store) (now : Instant) : Bool := s.size now == 0

/-- Takes the entry of a key out if its deadline has come. -/
def evict (s : Store) (now : Instant) (key : String) : Store :=
  match s.entries.get? key with
  | some e => if e.isExpired now then ⟨s.entries.erase key⟩ else s
  | none => s

def get (s : Store) (now : Instant) (key : String) : Option Bytes × Store :=
  (s.live? now key, s.evict now key)

def digest (s : Store) (now : Instant) (key : String) : Option String × Store :=
  let (value, s) := s.get now key
  (value.map valueDigest, s)

/-- Whether a condition allows a key to be written. -/
def allows (s : Store) (now : Instant) (key : String) (condition : Option Condition) : Bool :=
  match condition with
  | none => true
  | some c =>
    match s.live? now key with
    | some value => c.holds value
    | none => c.holdsForMissing

def set (s : Store) (now : Instant) (key : String) (value : Bytes) (options : SetOptions) :
    Written × Store :=
  if s.allows now key options.condition then
    match options.expiration with
    | none => (.answer true, ⟨s.entries.insert key ⟨value, none⟩⟩)
    | some after =>
      match Instant.after? now after with
      | some deadline => (.answer true, ⟨s.entries.insert key ⟨value, some deadline⟩⟩)
      | none => (.overflow, s)
  else (.answer false, s)

def delete (s : Store) (now : Instant) (key : String) (condition : Option Condition) :
    Bool × Store :=
  match s.live? now key with
  | none => (false, s.evict now key)
  | some value =>
    if condition.all (·.holds value) then (true, ⟨s.entries.erase key⟩) else (false, s)

end Store

end KeyRelay
