import KeyRelay.Keys.Commands
import KeyRelay.Word
/-!
# Commands on the wire

A request is sent as the name of a command and a list of byte strings.

| request | without a condition | with one |
|---|---|---|
| delete | `DEL key` | `DELEX key IFxx comparand` |
| set | `SET key value` | `SET key value IFxx comparand` |
| digest | `DIGEST key` | |
| get | `GET key` | |

An expiration adds `PX` and a number of milliseconds to `SET`. The condition always comes before
it, and the key and the value always come first, so a key, a value or a comparand that looks like a
keyword is never taken for one. `WireCommand.read?` in `Keys/WireRequest.lean` is the reader that
shows this.
-/

namespace KeyRelay

/-- A command ready to be sent. -/
structure WireCommand where
  name : String
  arguments : List Bytes
deriving DecidableEq, Repr

/-- An expiration in whole milliseconds. The server refuses zero, so anything shorter than a
millisecond counts as one; and it takes no more than a 64-bit word. -/
def Duration.expirationMilliseconds (d : Duration) : Nat := max (min d.milliseconds maxWord) 1

namespace WireCommand

def conditionArguments : Option Condition → List Bytes
  | none => []
  | some c => [Utf8.encode c.keyword, c.comparand.wire]

def expirationArguments : Option Duration → List Bytes
  | none => []
  | some d => [Utf8.encode "PX", Utf8.encode (toString d.expirationMilliseconds)]

def get (key : String) : WireCommand := ⟨"GET", [Utf8.encode key]⟩

def delete (key : String) (condition : Option Condition) : WireCommand :=
  let name := if condition.isSome then "DELEX" else "DEL"
  ⟨name, Utf8.encode key :: conditionArguments condition⟩

def set (key : String) (value : Bytes) (options : SetOptions) : WireCommand :=
  ⟨"SET", Utf8.encode key :: value ::
    (conditionArguments options.condition ++ expirationArguments options.expiration)⟩

def digest (key : String) : WireCommand := ⟨"DIGEST", [Utf8.encode key]⟩

/-- The command as one line of text. -/
def describe (c : WireCommand) : String :=
  c.arguments.foldl (fun line argument => line ++ " " ++ Utf8.lossy argument) c.name

end WireCommand

end KeyRelay
