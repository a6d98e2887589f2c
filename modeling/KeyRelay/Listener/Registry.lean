import KeyRelay.Listener.Endpoint
/-!
# Registries

A registry keeps endpoints, starts them together and stops them together. An endpoint that comes
while the registry is running is started at once.

Starting and stopping go through all endpoints, in the order in which they came, and do not end at a
failure. What they return is the list of failures; the caller of a start or a stop is told of the
first.
-/

namespace KeyRelay

/-- An endpoint that could not be started or stopped. -/
structure EndpointFailure where
  id : String
  error : ListenerError
deriving DecidableEq, Repr

/-- What the caller is told: the first failure, if there is one. -/
def EndpointFailure.verdict : List EndpointFailure → Except ListenerError Unit
  | [] => .ok ()
  | f :: _ => .error f.error

structure Registry where
  /-- The endpoints, in the order in which they came. -/
  endpoints : List Endpoint := []
  /-- The containers that they were registered with, in the order of their first use. -/
  containers : List ContainerId := []
  /-- Whether it was started last, or stopped. -/
  running : Bool := false
deriving DecidableEq, Repr

namespace Registry

variable {W : Type} (env : Environment W)

def find? (r : Registry) (id : String) : Option Endpoint := r.endpoints.find? (·.id == id)

/-- Puts an endpoint in the place of the one with its id. -/
def replace (r : Registry) (e : Endpoint) : Registry :=
  { r with endpoints := r.endpoints.map fun old => if old.id = e.id then e else old }

def size (r : Registry) : Nat := r.endpoints.length

def isEmpty (r : Registry) : Bool := r.endpoints.isEmpty

/-- Endpoints that should be running and are not. -/
def stalled (r : Registry) : List Endpoint :=
  if r.running then r.endpoints.filter fun e => !e.isRunning else []

def noteContainer (r : Registry) (container : ContainerId) : Registry :=
  if container ∈ r.containers then r else { r with containers := r.containers ++ [container] }

/-- Registers an endpoint with a container and keeps both; starts the endpoint if the registry is
running. An endpoint that fails to start has been registered nevertheless. -/
def registerListener (r : Registry) (e : Endpoint) (container : ContainerId) :
    StateM W (Except ListenerError Endpoint × Registry) :=
  if (r.find? e.id).isSome then pure (.error (.alreadyRegistered e.id), r)
  else do
    match ← e.register env container with
    | (.error failure, _) => return (.error failure, r)
    | (.ok (), e) =>
      let r := ({ r with endpoints := r.endpoints ++ [e] }).noteContainer container
      if r.running then
        let (result, e) ← e.start env
        return (result.map fun () => e, r.replace e)
      else return (.ok e, r)

/-- Starts those of the endpoints that are not running. -/
def startEach : List Endpoint → StateM W (List EndpointFailure × List Endpoint)
  | [] => pure ([], [])
  | e :: rest => do
    if e.isRunning then
      let (failures, rest) ← startEach rest
      return (failures, e :: rest)
    else
      let (result, e) ← e.start env
      let (failures, rest) ← startEach rest
      match result with
      | .ok () => return (failures, e :: rest)
      | .error failure => return (⟨e.id, failure⟩ :: failures, e :: rest)

/-- Stops those of the endpoints that are running. -/
def stopEach : List Endpoint → StateM W (List EndpointFailure × List Endpoint)
  | [] => pure ([], [])
  | e :: rest => do
    if e.isRunning then
      let (result, e) ← e.stop env
      let (failures, rest) ← stopEach rest
      match result with
      | .ok () => return (failures, e :: rest)
      | .error failure => return (⟨e.id, failure⟩ :: failures, e :: rest)
    else
      let (failures, rest) ← stopEach rest
      return (failures, e :: rest)

/-- Starts every endpoint that is not running. -/
def start (r : Registry) : StateM W (List EndpointFailure × Registry) := do
  let (failures, endpoints) ← startEach env r.endpoints
  return (failures, { r with endpoints, running := true })

def stop (r : Registry) : StateM W (List EndpointFailure × Registry) := do
  let (failures, endpoints) ← stopEach env r.endpoints
  return (failures, { r with endpoints, running := false })

/-- Starts the endpoint of an id, if there is one. -/
def startOne (r : Registry) (id : String) :
    StateM W (Option (Except ListenerError Unit) × Registry) :=
  match r.find? id with
  | none => pure (none, r)
  | some e => do
    let (result, e) ← e.start env
    return (some result, r.replace e)

/-- Stops the endpoint of an id, if there is one. -/
def stopOne (r : Registry) (id : String) :
    StateM W (Option (Except ListenerError Unit) × Registry) :=
  match r.find? id with
  | none => pure (none, r)
  | some e => do
    let (result, e) ← e.stop env
    return (some result, r.replace e)

def inspect (r : Registry) : String :=
  Described.record "ListenerEndpointRegistry"
    [("endpoints", Described.list (r.endpoints.map (·.inspect))),
     ("containers", toString r.containers.length), ("running", Described.bool r.running)]

end Registry

end KeyRelay
