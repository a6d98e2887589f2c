import KeyRelay.Keys.WireCommand
import KeyRelay.Text.Spelled
/-!
# Reading commands

What a receiver makes of a command. It knows nothing of texts and durations: a key is bytes to it,
and an expiration is a number of milliseconds. Only the name of the command, the keywords and a
digest are texts.

Where a keyword may stand, it is decided by position alone: the key comes first, the value second,
and what follows a keyword of a condition is its comparand, whatever it looks like. That makes the
reading unambiguous.
-/

namespace KeyRelay

/-- A command as its receiver understands it. -/
inductive WireRequest where
  /-- For the value of a key. -/
  | get (key : Bytes)
  /-- To write a value, with so many milliseconds to live. -/
  | set (key value : Bytes) (condition : Option Condition) (milliseconds : Option Nat)
  | delete (key : Bytes) (condition : Option Condition)
  /-- For the digest of a key's value. -/
  | digest (key : Bytes)
deriving DecidableEq, Repr

namespace WireRequest

def text? (argument : Bytes) : Option String := (Utf8.decode argument).toOption

/-- The condition that a keyword announces, if it is one of those that do. A digest has to be a
text. -/
def condition? (keyword comparand : Bytes) : Option Condition := do
  match ← text? keyword with
  | "IFEQ" => return .ifEquals comparand
  | "IFNE" => return .ifNotEquals comparand
  | "IFDEQ" => return .ifDigestEquals (← text? comparand)
  | "IFDNE" => return .ifDigestNotEquals (← text? comparand)
  | _ => none

/-- Takes a condition off the front of some arguments, if one stands there. -/
def takeCondition (arguments : List Bytes) : Option Condition × List Bytes :=
  match arguments with
  | keyword :: comparand :: rest =>
    match condition? keyword comparand with
    | some c => (some c, rest)
    | none => (none, arguments)
  | _ => (none, arguments)

/-- Reads an expiration, or none where no arguments are left. -/
def expiration? : List Bytes → Option (Option Nat)
  | [] => some none
  | [keyword, amount] => do
    if (← text? keyword) = "PX" then return some (← Spelled.natural? (← text? amount).toList)
    else none
  | _ => none

end WireRequest

def WireCommand.read? (c : WireCommand) : Option WireRequest :=
  match c.name, c.arguments with
  | "GET", [key] => some (.get key)
  | "DIGEST", [key] => some (.digest key)
  | "DEL", [key] => some (.delete key none)
  | "DELEX", [key, keyword, comparand] =>
    (WireRequest.condition? keyword comparand).map fun condition => .delete key (some condition)
  | "SET", key :: value :: options =>
    let (condition, rest) := WireRequest.takeCondition options
    (WireRequest.expiration? rest).map fun milliseconds => .set key value condition milliseconds
  | _, _ => none

end KeyRelay
