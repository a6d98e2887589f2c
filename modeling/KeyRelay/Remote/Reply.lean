import KeyRelay.Keys.WireCommand
import KeyRelay.Text.Spelled
/-!
# Replies of a server

What a server may answer to a command, and what each kind of answer means where a value, a text or a
number is expected. An answer that means nothing there is a fault of the server, like one that is an
error in the first place.
-/

namespace KeyRelay.Remote

/-- An answer to a command. -/
inductive Reply where
  | null
  | bulk (bytes : Bytes)
  | integer (n : Int)
  /-- A word that tells how the command went. -/
  | status (word : String)
  | error (text : String)
deriving DecidableEq, Repr

namespace Reply

/-- The fault of an answer that makes no sense for its command. -/
def unexpected : CommandError := .backend "unexpected reply"

/-- An answer where bytes are expected, or nothing. -/
def value : Reply → Except CommandError (Option Bytes)
  | .null => .ok none
  | .bulk bytes => .ok (some bytes)
  | .error text => .error (.backend text)
  | .integer _ => .error unexpected
  | .status _ => .error unexpected

/-- An answer where a text is expected, or nothing. -/
def text : Reply → Except CommandError (Option String)
  | .null => .ok none
  | .bulk bytes =>
    match Utf8.decode bytes with
    | .ok s => .ok (some s)
    | .error e => .error (.backend e.message)
  | .integer n => .ok (some (toString n))
  | .status word => .ok (some word)
  | .error text => .error (.backend text)

def spelled (text : String) : Except CommandError Int :=
  match Spelled.integer? text.toList with
  | some n => .ok n
  | none => .error unexpected

/-- An answer where a number is expected. -/
def number : Reply → Except CommandError Int
  | .integer n => .ok n
  | .null => .error unexpected
  | .bulk bytes =>
    match Utf8.decode bytes with
    | .ok s => spelled s
    | .error e => .error (.backend e.message)
  | .status word => spelled word
  | .error text => .error (.backend text)

end Reply

end KeyRelay.Remote
