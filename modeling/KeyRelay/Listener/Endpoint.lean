import KeyRelay.Listener.Container
import KeyRelay.Listener.Error
/-!
# Endpoints

An endpoint says which method of which bean handles the messages of a topic. It is registered once,
with a container, and gets its listener then; after that it can be started and stopped any number of
times, and always subscribes that one listener with that one container.

What an endpoint relies on (a factory of listeners, a resolver of topics, containers) is its
`Environment`. Any call on it may fail, and a failed call leaves the endpoint as it was.
-/

namespace KeyRelay

/-- The name by which a container is known. -/
abbrev ContainerId := String

/-- The number by which a resolver is known. -/
abbrev ResolverId := Nat

/-- What endpoints rely on, in a world `W` that every call may change. -/
structure Environment (W : Type) where
  /-- Makes a listener that calls a method of a bean. -/
  create : (bean method : String) → StateM W (Except ListenerError ListenerId)
  resolve : ResolverId → (destination : String) → StateM W (Except ListenerError Topic)
  subscribe : ContainerId → ListenerId → Topic → StateM W (Except ListenerError Unit)
  /-- Ends the subscriptions of a listener. -/
  unsubscribe : ContainerId → ListenerId → StateM W (Except ListenerError Unit)

/-- What an endpoint has from its registration on. -/
structure Binding where
  container : ContainerId
  listener : ListenerId
deriving DecidableEq, Repr

/-- How far an endpoint has come. -/
inductive Stage where
  | unregistered
  /-- It was registered and never started. -/
  | registered (b : Binding)
  | running (b : Binding)
  | stopped (b : Binding)
deriving DecidableEq, Repr

def Stage.binding? : Stage → Option Binding
  | .unregistered => none
  | .registered b => some b
  | .running b => some b
  | .stopped b => some b

def Stage.name : Stage → String
  | .unregistered => "Unregistered"
  | .registered _ => "Registered"
  | .running _ => "Running"
  | .stopped _ => "Stopped"

/-- The stage of an endpoint, and beside it the answer for those who only ask whether it is running.
The answer can be had while a start or a stop is under way; each of these sets it last. -/
structure Lifecycle where
  stage : Stage
  running : Bool
deriving DecidableEq, Repr

namespace Lifecycle

def unregistered : Lifecycle := ⟨.unregistered, false⟩

def binding? (l : Lifecycle) : Option Binding := l.stage.binding?

def name (l : Lifecycle) : String := l.stage.name

end Lifecycle

structure Endpoint where
  id : String
  /-- The destination, resolved at every start. -/
  topic : String
  bean : String
  method : String
  resolver : ResolverId
  lifecycle : Lifecycle := .unregistered
deriving DecidableEq, Repr

namespace Endpoint

variable {W : Type} (env : Environment W)

def stage (e : Endpoint) : Stage := e.lifecycle.stage

def isRunning (e : Endpoint) : Bool := e.lifecycle.running

def listener? (e : Endpoint) : Option ListenerId := e.lifecycle.binding?.map (·.listener)

def container? (e : Endpoint) : Option ContainerId := e.lifecycle.binding?.map (·.container)

/-- The endpoint at another stage. What is told about it stays. -/
def reach (e : Endpoint) (stage : Stage) : Endpoint :=
  { e with lifecycle := { e.lifecycle with stage } }

/-- The endpoint with another answer to whether it is running. -/
def tell (e : Endpoint) (running : Bool) : Endpoint :=
  { e with lifecycle := { e.lifecycle with running } }

def register (e : Endpoint) (container : ContainerId) :
    StateM W (Except ListenerError Unit × Endpoint) :=
  match e.stage with
  | .unregistered => do
    match ← env.create e.bean e.method with
    | .error failure => return (.error failure, e)
    | .ok listener => return (.ok (), e.reach (.registered ⟨container, listener⟩))
  | _ => pure (.error (.alreadyRegistered e.id), e)

/-- Subscribes the listener of an endpoint that is not running. -/
def launch (e : Endpoint) (b : Binding) : StateM W (Except ListenerError Unit × Endpoint) := do
  match ← env.resolve e.resolver e.topic with
  | .error failure => return (.error failure, e)
  | .ok topic =>
    match ← env.subscribe b.container b.listener topic with
    | .error failure => return (.error failure, e)
    | .ok () => return (.ok (), (e.reach (.running b)).tell true)

/-- Starts an endpoint. One that is running is left alone. -/
def start (e : Endpoint) : StateM W (Except ListenerError Unit × Endpoint) :=
  match e.stage with
  | .unregistered => pure (.error (.notRegistered e.id), e)
  | .running _ => pure (.ok (), e)
  | .registered b => e.launch env b
  | .stopped b => e.launch env b

/-- Stops an endpoint. One that is not running is left alone. -/
def stop (e : Endpoint) : StateM W (Except ListenerError Unit × Endpoint) :=
  match e.stage with
  | .running b => do
    match ← env.unsubscribe b.container b.listener with
    | .error failure => return (.error failure, e)
    | .ok () => return (.ok (), (e.reach (.stopped b)).tell false)
  | _ => pure (.ok (), e)

/-- An endpoint as one line of text. -/
def describe (e : Endpoint) : String :=
  "MethodListenerEndpoint[" ++ e.id ++ "] topic='" ++ e.topic ++ "' | bean='" ++ e.bean ++
    "' | method='" ++ e.method ++ "'"

def inspect (e : Endpoint) : String :=
  Described.partialRecord "MethodListenerEndpoint"
    [("id", Quoted.text e.id), ("topic", Quoted.text e.topic), ("bean", Quoted.text e.bean),
     ("method", Quoted.text e.method), ("state", e.lifecycle.name)]

end Endpoint

end KeyRelay
