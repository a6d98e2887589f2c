import KeyRelay.Keys.Operations
/-!
# What the command line can ask for

Four commands work on keys, through any backend of key commands; the others look at a configuration.
A write and a delete may carry one condition. It is staged on a spec like any other, in the same way
for both.
-/

namespace KeyRelay.Cli

/-- How results are written. -/
inductive Format where
  | text
  | json
deriving DecidableEq, Repr

/-- What a condition compares. -/
inductive Subject where
  | value
  | digest
deriving DecidableEq, Repr

/-- A condition as it is given. -/
structure Guard where
  operator : Operator
  subject : Subject
  comparand : String
deriving DecidableEq, Repr

namespace Guard

variable {S : Type} [Spec S String]

def stage (g : Guard) (s : S) : S :=
  let comparison := match g.operator with
    | .equals => Spec.ifEquals s
    | .notEquals => Spec.ifNotEquals s
  match g.subject with
  | .value => comparison.value g.comparand
  | .digest => comparison.digest g.comparand

/-- Stages the condition that is given, if one is. -/
def stageGiven (guard : Option Guard) (s : S) : S :=
  match guard with
  | some g => g.stage s
  | none => Spec.always s

def condition (g : Guard) : Condition :=
  match g.subject with
  | .value => ⟨g.operator, .value (Utf8.encode g.comparand)⟩
  | .digest => ⟨g.operator, .digest g.comparand⟩

end Guard

/-- A command that works on a key. -/
inductive KeyCommand where
  | get (key : String)
  /-- Write a value, with so many milliseconds to live. -/
  | set (key value : String) (milliseconds : Option Nat) (guard : Option Guard)
  | delete (key : String) (guard : Option Guard)
  /-- Show the digest of the value. -/
  | digest (key : String)
deriving DecidableEq, Repr

inductive Command where
  | key (command : KeyCommand)
  /-- Tell whether a destination is a channel or a pattern. -/
  | topic (destination : String)
  /-- List the listeners of the configuration. -/
  | listeners
deriving DecidableEq, Repr

/-- What a command on a key came to. -/
inductive KeyReport where
  | value (key : String) (value : Option String)
  | written (key : String) (applied : Bool)
  | deleted (key : String) (applied : Bool)
  | digest (key : String) (digest : Option String)
deriving DecidableEq, Repr

namespace KeyCommand

variable {m : Type → Type} [Monad m]

def setSpec (milliseconds : Option Nat) (guard : Option Guard) : SetSpec String :=
  let spec := Guard.stageGiven guard ({} : SetSpec String)
  match milliseconds with
  | some n => spec.expire (.ofMilliseconds n)
  | none => spec

def deleteSpec (guard : Option Guard) : DeleteSpec String := Guard.stageGiven guard {}

/-- Does what a command asks, through a backend. -/
def perform (backend : KeyCommands m) : KeyCommand → m (Except CommandError KeyReport)
  | .get key => do
    return (← backend.get key).map fun found => .value key (found.map Utf8.lossy)
  | .set key value milliseconds guard => do
    let ops : ValueOperations m String := ⟨backend, Serializer.text⟩
    return (← ops.setIf key value (setSpec milliseconds guard)).map (.written key)
  | .delete key guard => do
    let ops : ValueOperations m String := ⟨backend, Serializer.text⟩
    return (← ops.deleteIf key (deleteSpec guard)).map (.deleted key)
  | .digest key => do
    return (← backend.digest key).map (.digest key)

end KeyCommand

namespace KeyReport

/-- A text, or the sign that there is none. -/
def textOrNil (text : Option String) : String := text.getD "(nil)"

def jsonOf (text : Option String) : Json.Value :=
  match text with
  | some s => .string s
  | none => .null

/-- Whether a change was made, in a line. -/
def outcome (key past : String) (applied : Bool) : String :=
  key ++ ": " ++ if applied then past else "condition not met"

def line (format : Format) (report : KeyReport) : String :=
  match format, report with
  | .text, .value _ found => textOrNil found
  | .text, .written key applied => outcome key "written" applied
  | .text, .deleted key applied => outcome key "deleted" applied
  | .text, .digest _ found => textOrNil found
  | .json, .value key found =>
    (Json.Value.ofMembers [("key", .string key), ("value", jsonOf found)]).compact
  | .json, .written key applied =>
    (Json.Value.ofMembers [("key", .string key), ("written", .bool applied)]).compact
  | .json, .deleted key applied =>
    (Json.Value.ofMembers [("key", .string key), ("deleted", .bool applied)]).compact
  | .json, .digest key found =>
    (Json.Value.ofMembers [("key", .string key), ("digest", jsonOf found)]).compact

end KeyReport

end KeyRelay.Cli
