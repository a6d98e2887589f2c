import KeyRelay.Json.Read
import KeyRelay.Keys.WireCommand
import KeyRelay.Listener.Container
import KeyRelay.Listener.Error
import KeyRelay.Message
import KeyRelay.Table
/-!
# Handlers

A handler is named by a bean and a method and is given the envelopes of messages. What it does is
seen from outside by the notes it takes and by whether it fails. A plain handler decides that by the
envelope and by what it remembers. The other handlers act on the system that called them: they start
or stop an endpoint, or publish in their turn.

What a handler can remember is how it was invoked before. Handlers may also share what they
remember, so each is told of all the invocations there were, its own and those of the others. No two
invocations find the same past, not even with equal envelopes, and so a handler may fail at one of
them and not at the other. Whatever else it depends on, such as the time, is one way or another at
each invocation, so that a function of the past can stand for that as well.
-/

namespace KeyRelay

/-- What a handler writes down. -/
inductive Note where
  | envelope (e : Envelope)
  | text (payload : String)
  /-- That it is about to fail. -/
  | failing
  /-- The order that the payload stands for, and where it came through. -/
  | order (id : Nat) (topic : Topic)
  /-- The JSON value that the payload stands for, and where it was published. -/
  | json (value : Json.Value) (channel : Topic)
  /-- That it tried to start an endpoint (or to stop one), and what came of it; nothing if there is
  no such endpoint. -/
  | controlled (start : Bool) (result : Option (Except ListenerError Unit))
  /-- That it is about to publish. -/
  | publishing
  /-- How many subscriptions its message was delivered to. -/
  | published (count : Nat)

/-- That the handler of an adapter was given an envelope. -/
structure Invocation where
  listener : ListenerId
  bean : String
  method : String
  envelope : Envelope
deriving DecidableEq, Repr

/-- What a plain handler does with an envelope. -/
structure Reaction where
  notes : List Note
  outcome : Except HandlerError Unit

/-- What a plain handler makes of an envelope, given the invocations before it, the last of them
first. -/
abbrev Behaviour := List Invocation → Envelope → Reaction

/-- What a handler does to the system that called it. -/
inductive Control where
  | start (id : String)
  | stop (id : String)
  /-- Publish the payload in a container, on a channel. -/
  | publish (container channel : String)
deriving DecidableEq, Repr

inductive Handler where
  | plain (react : Behaviour)
  | control (act : Control)

namespace Handler

def record : Handler := .plain fun _ e => ⟨[.envelope e], .ok ()⟩

/-- Writes the payload down, which has to be a text. -/
def text : Handler := .plain fun _ e =>
  match e.text with
  | .ok s => ⟨[.text s], .ok ()⟩
  | .error fault => ⟨[], .error (.invocation fault.message)⟩

def fail : Handler := .plain fun _ _ => ⟨[.failing], .error (.invocation "boom")⟩

/-- A handler with a state, which is what the invocations that it minds have made of the one it
started with. -/
def stateful {S : Type} (minds : Invocation → Bool) (start : S) (next : S → Envelope → S)
    (react : S → Envelope → Reaction) : Handler :=
  .plain fun past e =>
    react ((past.filter minds).foldr (fun i state => next state i.envelope) start) e

/-- A handler of values that payloads stand for. A payload that stands for none is a failed
conversion, and the function is not asked. -/
def converting {V : Type} (convert : Bytes → Option V)
    (react : List Invocation → V → Headers → Reaction) : Handler :=
  .plain fun past e =>
    match convert e.payload with
    | some v => react past v e.headers
    | none => ⟨[], .error (.conversion "unexpected payload")⟩

/-- Writes down the order that the payload stands for. -/
def order : Handler :=
  converting (Json.readRecord? [("id", .natural maxWord)]) fun _ values headers =>
    match values with
    | [.natural id] => ⟨[.order id headers.topic], .ok ()⟩
    | _ => ⟨[], .ok ()⟩

/-- Writes down the JSON value that the payload stands for, and refuses one of them. -/
def json : Handler :=
  converting (Json.Value.parse? Json.nestingLimit) fun _ value headers =>
    let refused := match value with
      | .string "reject" => true
      | _ => false
    ⟨[.json value headers.channel], if refused then .error (.invocation "rejected") else .ok ()⟩

end Handler

/-! ## Tables of handlers -/

abbrev HandlerTable (H : Type) := Table (String × String) H

namespace HandlerTable

variable {H : Type}

/-- The handler of a method of a bean. -/
def create (t : HandlerTable H) (bean method : String) : Except ListenerError H :=
  match t.get? (bean, method) with
  | some h => .ok h
  | none => .error (.handlerNotFound bean method)

/-- How a table shows itself: by the names in it, in order. -/
def inspect (t : HandlerTable H) : String :=
  let names := (t.keys.map fun (bean, method) => bean ++ "." ++ method).mergeSort (· ≤ ·)
  Described.record "HandlerTable" [("handlers", Described.list (names.map Quoted.text))]

end HandlerTable

end KeyRelay
