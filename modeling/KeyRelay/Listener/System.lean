import KeyRelay.Listener.Config
import KeyRelay.Listener.World
/-!
# The system of listeners

A registry, a registrar and some endpoints that no registry has, all in one world; and messages,
which are published in a container and reach handlers through it. Handlers may act on the system
while a message is being delivered: what they do is done at once, and the deliveries already settled
are made all the same.

A handler that publishes may set off another that publishes, and so on. A handler that sets itself
off would go on for ever, and `nestingLimit` is where that ends.
-/

namespace KeyRelay

structure System where
  world : World := {}
  registry : Registry := {}
  registrar : Registrar := {}
  /-- Endpoints that are in no registry, by names of their own. -/
  standalone : Table String Endpoint := .empty
  /-- The listener that an endpoint had when it was first asked for. -/
  firstSeen : Table String ListenerId := .empty

namespace System

def onWorld {A : Type} (s : System) (act : StateM World A) : A × System :=
  let (a, world) := act s.world
  (a, { s with world })

/-! ## Delivering messages -/

/-- Publishes a message in a container, given how it is delivered. -/
def publishWith (deliver : Delivery → System → System) (container : ContainerId)
    (message : Message) (s : System) : Nat × System :=
  (s.world.container container).publish message deliver s

/-- Starts or stops the endpoint of an id. -/
def control (s : System) (start : Bool) (id : String) :
    Option (Except ListenerError Unit) × System :=
  let act := if start then s.registry.startOne World.environment id
    else s.registry.stopOne World.environment id
  let ((result, registry), s) := s.onWorld act
  (result, { s with registry })

def noteFor (s : System) (a : Adapter) (note : Note) : System :=
  { s with world := s.world.note (.noted a.bean a.method note) }

def invoke (s : System) (i : Invocation) : System := { s with world := s.world.invoke i }

/-- Lets a handler act. `publish` is what publishing in its turn comes to. -/
def act (publish : ContainerId → Message → System → Nat × System) (a : Adapter) (message : Message)
    (s : System) : Control → System
  | .start id =>
    let (result, s) := s.control true id
    s.noteFor a (.controlled true result)
  | .stop id =>
    let (result, s) := s.control false id
    s.noteFor a (.controlled false result)
  | .publish container channel =>
    let (count, s) := publish container ⟨Utf8.encode channel, message.body⟩
      (s.noteFor a .publishing)
    s.noteFor a (.published count)

/-- Delivers a message, where a handler that publishes does so in the given way. -/
def deliverWith (publish : ContainerId → Message → System → Nat × System) (d : Delivery)
    (s : System) : System :=
  match d.listener with
  | .raw name => { s with world := s.world.note (.raw name d.message d.pattern) }
  | .adapter number =>
    match s.world.adapters[number]? with
    | none => s
    | some a =>
      let past := s.world.invoked
      let s := s.invoke ⟨d.listener, a.bean, a.method, d.message.envelope d.pattern⟩
      match a.handler with
      | .plain react =>
        let reaction := react past (d.message.envelope d.pattern)
        let s := reaction.notes.foldl (fun s n => s.noteFor a n) s
        { s with world := s.world.report (a.report d.message reaction.outcome) }
      | .control c => act publish a d.message s c

/-- Delivers a message, and the messages that this causes down to a depth. -/
def deliverTo : Nat → Delivery → System → System
  | 0 => deliverWith fun _ _ s => (0, s)
  | depth + 1 => deliverWith (publishWith (deliverTo depth))

/-- How deep messages may cause messages. This is far more than there are handlers, so that a chain
which comes here goes in a circle. -/
def nestingLimit : Nat := 1000000

def deliver : Delivery → System → System := deliverTo nestingLimit

/-- Publishes a payload in a container, on a channel. The answer is the number of deliveries. -/
def publish (s : System) (container : ContainerId) (channel : String) (payload : Bytes) :
    Nat × System :=
  publishWith deliver container ⟨Utf8.encode channel, payload⟩ s

/-! ## Registering, starting and stopping -/

def registerListener (s : System) (e : Endpoint) (container : ContainerId) :
    Except ListenerError Endpoint × System :=
  let ((result, registry), s) :=
    s.onWorld (s.registry.registerListener World.environment e container)
  (result, { s with registry })

def define (s : System) (d : Definition) : Except ListenerError Endpoint × System :=
  let ((result, registrar, registry), s) :=
    s.onWorld (s.registrar.register World.environment s.registry d)
  (result, { s with registrar, registry })

def defineAll (s : System) (ds : List Definition) :
    Except ListenerError (List Endpoint) × System :=
  let ((result, registrar, registry), s) :=
    s.onWorld (s.registrar.registerAll World.environment s.registry ds)
  (result, { s with registrar, registry })

def start (s : System) : Except ListenerError Unit × System :=
  let ((failures, registry), s) := s.onWorld (s.registry.start World.environment)
  let events := failures.map fun f => Event.startFailed f.id f.error
  (EndpointFailure.verdict failures, { s with registry, world := s.world.report events })

def stop (s : System) : Except ListenerError Unit × System :=
  let ((failures, registry), s) := s.onWorld (s.registry.stop World.environment)
  let events := failures.map fun f => Event.stopFailed f.id f.error
  (EndpointFailure.verdict failures, { s with registry, world := s.world.report events })

/-! ## Endpoints of their own -/

/-- Makes an endpoint, with a resolver of its own or with the shared one. -/
def makeEndpoint (s : System) (name : String) (e : Endpoint) (capacity : Option Nat) :
    Endpoint × System :=
  let (resolver, s) := match capacity with
    | some n => s.onWorld fun w => w.addResolver (.ofCapacity n)
    | none => (0, s)
  let e := { e with resolver }
  (e, { s with standalone := s.standalone.insert name e })

/-- Does something to an endpoint of this name. -/
def onStandalone (s : System) (name : String)
    (act : Endpoint → StateM World (Except ListenerError Unit × Endpoint)) :
    Except ListenerError Unit × System :=
  match s.standalone.get? name with
  | none => (.ok (), s)
  | some e =>
    let ((result, e), s) := s.onWorld (act e)
    (result, { s with standalone := s.standalone.insert name e })

/-- Whether the listener of an endpoint is the one that was seen first; nothing before there is
one. -/
def sameListener (s : System) (name : String) : Option Bool × System :=
  match (s.standalone.get? name).bind (·.listener?) with
  | none => (none, s)
  | some listener =>
    match s.firstSeen.get? name with
    | some first => (some (listener = first), s)
    | none => (some true, { s with firstSeen := s.firstSeen.insert name listener })

/-- Gives an endpoint to the registry. It is no longer on its own, whatever comes of it. -/
def adopt (s : System) (name : String) (container : ContainerId) :
    Option (Except ListenerError Endpoint) × System :=
  match s.standalone.get? name with
  | none => (none, s)
  | some e =>
    let s := { s with standalone := s.standalone.erase name }
    let (result, s) := s.registerListener e container
    (some result, s)

/-- Delivers a message to the listener of an endpoint, past all containers. -/
def deliverDirectly (s : System) (name : String) (message : Message) (pattern : Option Bytes) :
    System :=
  match (s.standalone.get? name).bind (·.listener?) with
  | none => s
  | some listener => deliver ⟨listener, message, pattern⟩ s

def clearLog (s : System) : System :=
  let stations := s.world.stations.keys.foldl
    (fun w name => World.changeStation w name fun station => { station with calls := [] }) s.world
  { s with world := { stations with written := [], reported := [] } }

end System

end KeyRelay
