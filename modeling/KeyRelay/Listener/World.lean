import KeyRelay.Listener.Adapter
import KeyRelay.Listener.Endpoint
import KeyRelay.Listener.Resolver
/-!
# The world of the endpoints

The environment that endpoints really have: a table of handlers, containers, resolvers, and the
listeners made so far, with a log of what happened. Making a listener gives it the next free number,
so no two endpoints ever share one.

A container in this world may be scripted. It then keeps a record of the calls made on it, and can
be told to refuse them; what it does not refuse it does like any other.
-/

namespace KeyRelay

/-- A call on a container. -/
inductive ContainerCall where
  | add (topic : Topic)
  /-- To end the subscriptions of a listener. -/
  | remove
deriving DecidableEq, Repr

/-- A container and its script. -/
structure Station where
  container : Container := {}
  /-- Whether calls are recorded and may be refused. -/
  scripted : Bool := false
  /-- The reason for which subscriptions are refused, if they are. -/
  addFault : Option String := none
  /-- The reason for which ends of subscriptions are refused, if they are. -/
  removeFault : Option String := none
  calls : List ContainerCall := []
deriving DecidableEq, Repr

namespace Station

def noteCall (s : Station) (call : ContainerCall) : Station :=
  if s.scripted then { s with calls := s.calls ++ [call] } else s

/-- Makes a change to the container, unless it is to be refused. -/
def attempt (s : Station) (fault : Option String) (change : Container → Container) :
    Except ListenerError Unit × Station :=
  match s.scripted, fault with
  | true, some reason => (.error (.container reason), s)
  | _, _ => (.ok (), { s with container := change s.container })

def subscribe (s : Station) (listener : ListenerId) (topic : Topic) :
    Except ListenerError Unit × Station :=
  (s.noteCall (.add topic)).attempt s.addFault (·.add listener topic)

def unsubscribe (s : Station) (listener : ListenerId) : Except ListenerError Unit × Station :=
  (s.noteCall .remove).attempt s.removeFault (·.remove listener)

end Station

/-- An entry of the log. -/
inductive LogEntry where
  | created (bean method : String)
  | noted (bean method : String) (note : Note)
  /-- A listener from outside was given a message. -/
  | raw (name : String) (message : Message) (pattern : Option Bytes)

/-- What endpoints rely on. -/
structure World where
  handlers : HandlerTable Handler := .empty
  stations : Table ContainerId Station := .empty
  /-- The resolvers by number. The first is the one that all endpoints share unless they are given
  another. -/
  resolvers : List Resolver := [.ofCapacity LruCache.defaultCapacity]
  adapters : Array Adapter := #[]
  /-- What happened, the last of it first. -/
  written : List LogEntry := []
  /-- What is worth a person's attention, the last of it first. -/
  reported : List Event := []
  /-- How handlers were invoked, the last time first. -/
  invoked : List Invocation := []

namespace World

def log (w : World) : List LogEntry := w.written.reverse

/-- What is worth a person's attention, in order. -/
def events (w : World) : List Event := w.reported.reverse

def note (w : World) (entry : LogEntry) : World := { w with written := entry :: w.written }

/-- A handler is invoked. -/
def invoke (w : World) (i : Invocation) : World := { w with invoked := i :: w.invoked }

/-- Adds what is worth a person's attention. -/
def report (w : World) (events : List Event) : World :=
  { w with reported := events.reverse ++ w.reported }

/-- Adds a resolver and gives it the next number. -/
def addResolver (w : World) (r : Resolver) : ResolverId × World :=
  (w.resolvers.length, { w with resolvers := w.resolvers ++ [r] })

/-- Makes a listener for a method of a bean. -/
def create (bean method : String) (w : World) : Except ListenerError ListenerId × World :=
  let w := w.note (.created bean method)
  match HandlerTable.create w.handlers bean method with
  | .error failure => (.error failure, w)
  | .ok handler =>
    (.ok (.adapter w.adapters.size), { w with adapters := w.adapters.push ⟨bean, method, handler⟩ })

/-- Resolves a destination with one of the resolvers. -/
def resolve (id : ResolverId) (destination : String) (w : World) :
    Except ListenerError Topic × World :=
  match w.resolvers[id]? with
  | some r =>
    let (found, r) := r.resolve destination
    (found, { w with resolvers := w.resolvers.set id r })
  | none => (Topic.ofDestination destination, w)

def atStation (container : ContainerId)
    (call : Station → Except ListenerError Unit × Station) (w : World) :
    Except ListenerError Unit × World :=
  match w.stations.get? container with
  | some s =>
    let (result, s) := call s
    (result, { w with stations := w.stations.insert container s })
  | none => (.error (.containerNotFound container), w)

/-- Changes a container's script, or clears its record of calls. -/
def changeStation (w : World) (container : ContainerId) (change : Station → Station) : World :=
  match w.stations.get? container with
  | some s => { w with stations := w.stations.insert container (change s) }
  | none => w

/-- The world as the environment of endpoints. -/
def environment : Environment World where
  create bean method := fun w => create bean method w
  resolve id destination := fun w => resolve id destination w
  subscribe container listener topic := fun w => w.atStation container (·.subscribe listener topic)
  unsubscribe container listener := fun w => w.atStation container (·.unsubscribe listener)

/-- The container of a name; one that was never made is empty. -/
def container (w : World) (name : ContainerId) : Container :=
  ((w.stations.get? name).map (·.container)).getD {}

end World

end KeyRelay
