import KeyRelay.Keys.Store
import KeyRelay.Keys.WireRequest
import KeyRelay.Remote.Client
/-!
# A server, as far as commands on keys go

This is what the other end of an exchange does. It is written as what the commands mean and not as
a store would carry them out: the keyspace is a function from keys to entries, and a key whose
deadline has come is missing, whether or not anything has removed it.

A missing key differs from every comparand. So a write that asks for difference goes through on a
missing key and one that asks for equality does not, while a delete needs a key to delete.
-/

namespace KeyRelay.Remote

structure Server where
  /-- What is kept under each key. -/
  keyspace : Bytes → Option Entry := fun _ => none
  now : Instant := 0

namespace Server

/-- The value of a key, unless its deadline has come. -/
def value? (s : Server) (key : Bytes) : Option Bytes := do
  let entry ← s.keyspace key
  match entry.deadline with
  | some deadline => if s.now < deadline then some entry.value else none
  | none => some entry.value

/-- Keeps an entry under a key, or nothing. -/
def keep (s : Server) (key : Bytes) (entry : Option Entry) : Server :=
  { s with keyspace := fun other => if other = key then entry else s.keyspace other }

/-- Whether the value of a key is the one that is compared with, or has that digest. -/
def agrees (value : Option Bytes) : Comparand → Bool
  | .value expected => value == some expected
  | .digest expected => value.any fun v => equalUpToCase (valueDigest v) expected

/-- Whether a condition lets a change of a key through. -/
def permits (value : Option Bytes) : Option Condition → Bool
  | none => true
  | some ⟨.equals, comparand⟩ => agrees value comparand
  | some ⟨.notEquals, comparand⟩ => !agrees value comparand

/-- Bytes, or the answer that there are none. -/
def bulkOrNull : Option Bytes → Reply
  | some bytes => .bulk bytes
  | none => .null

def execute (s : Server) : WireRequest → Reply × Server
  | .get key => (bulkOrNull (s.value? key), s)
  | .digest key => (bulkOrNull ((s.value? key).map fun v => Utf8.encode (valueDigest v)), s)
  | .delete key condition =>
    if (s.value? key).isSome && permits (s.value? key) condition then
      (.integer 1, s.keep key none)
    else (.integer 0, s)
  | .set key value condition milliseconds =>
    if permits (s.value? key) condition then
      let deadline := milliseconds.map fun n => s.now + (Duration.ofMilliseconds n).nanoseconds
      (.status "OK", s.keep key (some ⟨value, deadline⟩))
    else (.null, s)

def answer (s : Server) (command : WireCommand) : Reply × Server :=
  match command.read? with
  | some request => s.execute request
  | none => (.error "ERR syntax error", s)

def advance (s : Server) (d : Duration) : Server := { s with now := s.now + d.nanoseconds }

def exchange : Exchange (StateM Server) := fun command => do
  let (reply, after) := (← get).answer command
  set after
  return .ok reply

end Server

end KeyRelay.Remote
