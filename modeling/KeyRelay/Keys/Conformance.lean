import KeyRelay.Keys.Commands
import KeyRelay.Text.UpperCase
/-!
# What every backend has to do

A suite of trials that a backend of key commands has to pass. Each trial works on keys of its own,
all under one prefix, so the trials do not get in each other's way and a suite can be run on a
backend that already holds other keys. The first call that fails, and the first answer that is
wrong, ends the suite.
-/

namespace KeyRelay.Conformance

/-- Why the suite ended early. -/
inductive Failure where
  | command (e : CommandError)
  /-- An answer was wrong. Most checks have a text that says what should be. -/
  | violation (message : Option String)
deriving DecidableEq, Repr

abbrev Trial (m : Type → Type) := ExceptT Failure m

def key (name : String) : String := "conformance:" ++ name

/-- A digest that no value of the suite has. -/
def foreignDigest : String := "0000000000000000"

variable {m : Type → Type} [Monad m] (b : KeyCommands m)

/-- The answer to a call, if there is one. -/
def answer {A : Type} (call : m (Except CommandError A)) : Trial m A := do
  match ← (liftM call : Trial m _) with
  | .ok a => return a
  | .error e => throw (.command e)

/-- Goes on only if a rule was kept. -/
def check (message : Option String) (kept : Bool) : Trial m Unit :=
  if kept then pure () else throw (.violation message)

def get (name : String) : Trial m (Option Bytes) := answer (b.get (key name))

def set (name value : String) (options : SetOptions) : Trial m Bool :=
  answer (b.set (key name) (Utf8.encode value) options)

def delete (name : String) (condition : Option Condition) : Trial m Bool :=
  answer (b.delete (key name) condition)

/-- Asks for the digest of a value that is there. -/
def digest (message name : String) : Trial m String := do
  match ← answer (b.digest (key name)) with
  | some d => return d
  | none => throw (.violation message)

def holds (name value : String) : Trial m Unit := do
  check none ((← get b name) == some (Utf8.encode value))

def absent (message : Option String) (name : String) : Trial m Unit := do
  check message (← get b name).isNone

def given (c : Condition) : SetOptions := { condition := some c }

/-- The condition that compares with a text. -/
def ifEquals (value : String) : Condition := .ifEquals (Utf8.encode value)

/-- The condition that compares with a text and asks for difference. -/
def ifNotEquals (value : String) : Condition := .ifNotEquals (Utf8.encode value)

/-! ## The trials -/

/-- A key that was never written has no value. -/
def getMissing : Trial m Unit := absent b "get on missing key should return None" "missing"

def setAndGet : Trial m Unit := do
  check "unconditional set should always write" (← set b "set-get" "hello" {})
  holds b "set-get" "hello"

def unconditionalDelete : Trial m Unit := do
  let _ ← set b "delete" "bye" {}
  check "delete should return true for existing key" (← delete b "delete" none)
  absent b none "delete"
  check "delete on missing key should return false" !(← delete b "delete" none)

/-- A delete that asks for equality removes only the value it names. -/
def deleteIfEquals : Trial m Unit := do
  let _ ← set b "delete-ifeq" "v1" {}
  check "IFEQ with a different value should not delete"
    !(← delete b "delete-ifeq" (some (ifEquals "v2")))
  check "key should remain" (← get b "delete-ifeq").isSome
  check "IFEQ with the stored value should delete"
    (← delete b "delete-ifeq" (some (ifEquals "v1")))
  absent b none "delete-ifeq"

/-- A delete that asks for difference removes any value but the one it names. -/
def deleteIfNotEquals : Trial m Unit := do
  let _ ← set b "delete-ifne" "v1" {}
  check "IFNE with the stored value should not delete"
    !(← delete b "delete-ifne" (some (ifNotEquals "v1")))
  check "IFNE with a different value should delete"
    (← delete b "delete-ifne" (some (ifNotEquals "v2")))

/-- A missing key is never removed, whatever the condition. -/
def conditionalDeleteMissing : Trial m Unit := do
  for c in [ifEquals "v1", ifNotEquals "v1", .ifDigestEquals foreignDigest,
      .ifDigestNotEquals foreignDigest] do
    check (c.describe ++ " on a missing key should not delete")
      !(← delete b "delete-missing" (some c))

/-- A delete that asks for a digest removes only a value with that digest, in either case of its
letters. -/
def deleteIfDigestEquals : Trial m Unit := do
  let _ ← set b "delete-ifdeq" "payload" {}
  let d ← digest b "digest of existing key" "delete-ifdeq"
  check "IFDEQ with a foreign digest should not delete"
    !(← delete b "delete-ifdeq" (some (.ifDigestEquals foreignDigest)))
  check "IFDEQ should match the digest regardless of hex case"
    (← delete b "delete-ifdeq" (some (.ifDigestEquals (UpperCase.ofString d))))

/-- A delete that asks for another digest removes any value but one with that digest. -/
def deleteIfDigestNotEquals : Trial m Unit := do
  let _ ← set b "delete-ifdne" "payload" {}
  let d ← digest b "digest of existing key" "delete-ifdne"
  check "IFDNE with the current digest should not delete"
    !(← delete b "delete-ifdne" (some (.ifDigestNotEquals d)))
  check "IFDNE with a foreign digest should delete"
    (← delete b "delete-ifdne" (some (.ifDigestNotEquals foreignDigest)))

def emptyComparand : Trial m Unit := do
  let _ ← set b "empty" "" {}
  check "IFEQ with an empty comparand should match an empty value"
    (← delete b "empty" (some (ifEquals "")))

/-- A missing key is written by a set that asks for difference, and by no other conditional set. -/
def setConditionsOnMissing : Trial m Unit := do
  check "IFEQ on a missing key should not write"
    !(← set b "set-missing-ifeq" "v2" (given (ifEquals "v1")))
  absent b none "set-missing-ifeq"
  check "IFDEQ on a missing key should not write"
    !(← set b "set-missing-ifdeq" "v2" (given (.ifDigestEquals foreignDigest)))
  check "IFNE on a missing key should write"
    (← set b "set-missing-ifne" "v2" (given (ifNotEquals "v1")))
  holds b "set-missing-ifne" "v2"
  check "IFDNE on a missing key should write"
    (← set b "set-missing-ifdne" "v2" (given (.ifDigestNotEquals foreignDigest)))

/-- A set that asks for equality replaces only the value it names. -/
def setIfEquals : Trial m Unit := do
  let _ ← set b "set-ifeq" "v1" {}
  check none !(← set b "set-ifeq" "v2" (given (ifEquals "v0")))
  holds b "set-ifeq" "v1"
  check none (← set b "set-ifeq" "v2" (given (ifEquals "v1")))
  holds b "set-ifeq" "v2"

/-- A set that asks for a digest replaces only a value with that digest. -/
def setIfDigestEquals : Trial m Unit := do
  let _ ← set b "set-ifdeq" "v1" {}
  let d ← digest b "digest of existing key" "set-ifdeq"
  check none (← set b "set-ifdeq" "v2" (given (.ifDigestEquals d)))
  check "digest of the replaced value should no longer match"
    !(← set b "set-ifdeq" "v3" (given (.ifDigestEquals d)))
  holds b "set-ifdeq" "v2"

/-- A value with an hour to live is there. -/
def setWithExpiration : Trial m Unit := do
  check none (← set b "set-px" "ephemeral" { expiration := some (.ofSeconds 3600) })
  holds b "set-px" "ephemeral"

/-- Equal values share a digest, different values do not, and a missing key has none. -/
def digests : Trial m Unit := do
  check none (← answer (b.digest (key "digest-missing"))).isNone
  let _ ← set b "digest-a" "same" {}
  let _ ← set b "digest-b" "same" {}
  let _ ← set b "digest-c" "other" {}
  let first ← digest b "digest of a" "digest-a"
  let second ← digest b "digest of b" "digest-b"
  let third ← digest b "digest of c" "digest-c"
  check ("digest should be hexadecimal: " ++ first)
    (first.toList.all fun c => (Hex.digitValue? c).isSome)
  check "equal values should share a digest" (first == second)
  check none (first != third)

def trials : List (Trial m Unit) :=
  [getMissing b, setAndGet b, unconditionalDelete b, deleteIfEquals b, deleteIfNotEquals b,
   conditionalDeleteMissing b, deleteIfDigestEquals b, deleteIfDigestNotEquals b, emptyComparand b,
   setConditionsOnMissing b, setIfEquals b, setIfDigestEquals b, setWithExpiration b, digests b]

def runAll : List (Trial m Unit) → Trial m Unit
  | [] => pure ()
  | t :: rest => do t; runAll rest

def suite : m (Except Failure Unit) := (runAll (trials b)).run

end KeyRelay.Conformance
