import KeyRelay.Listener.Registry
import KeyRelay.Table
import KeyRelay.Text.Blank
/-!
# Registrars

A registrar turns definitions into registered endpoints. A definition may leave two things open: the
container, for which the default one is used or else the only one there is, and the id, for which
one is made from a counter. A name that is blank is a name left open.

The counter is a word. Once it has been through all of its numbers it starts again from zero.
-/

namespace KeyRelay

/-- What a listener endpoint should be. -/
structure Definition where
  id : Option String := none
  container : Option String := none
  topic : String
  bean : String
  method : String
deriving DecidableEq, Repr

/-- A name, unless it is left open. -/
def givenName (name : Option String) : Option String := name.filter fun n => !isBlank n

/-- What every id made from a counter begins with. -/
def generatedIdPrefix : String := "redbind.ListenerEndpoint#"

def generatedId (number : Nat) : String := generatedIdPrefix ++ toString number

structure Registrar where
  /-- Containers by the names that definitions use. -/
  named : Table String ContainerId := .empty
  /-- The container for definitions that name none. -/
  default : Option ContainerId := none
  /-- The resolver for the endpoints it makes. -/
  resolver : ResolverId := 0
  /-- The number for the next id. -/
  counter : UInt64 := 0

namespace Registrar

variable {W : Type} (env : Environment W)

def containerFor (r : Registrar) (d : Definition) : Except ListenerError ContainerId :=
  match givenName d.container with
  | some name =>
    match r.named.get? name with
    | some container => .ok container
    | none => .error (.containerNotFound name)
  | none =>
    match r.default, r.named.entries with
    | some container, _ => .ok container
    | none, [(_, container)] => .ok container
    | none, _ => .error .noDefaultContainer

/-- The id of a definition. Making one counts, and after the greatest word comes zero. -/
def idFor (r : Registrar) (d : Definition) : String × Registrar :=
  match givenName d.id with
  | some id => (id, r)
  | none => (generatedId r.counter.toNat, { r with counter := r.counter + 1 })

def register (r : Registrar) (registry : Registry) (d : Definition) :
    StateM W (Except ListenerError Endpoint × Registrar × Registry) :=
  match r.containerFor d with
  | .error failure => pure (.error failure, r, registry)
  | .ok container => do
    let (id, r) := r.idFor d
    let e : Endpoint :=
      { id, topic := d.topic, bean := d.bean, method := d.method, resolver := r.resolver }
    let (result, registry) ← registry.registerListener env e container
    return (result, r, registry)

/-- Registers the endpoints of definitions in order, up to the first failure. -/
def registerAll (r : Registrar) (registry : Registry) :
    List Definition → StateM W (Except ListenerError (List Endpoint) × Registrar × Registry)
  | [] => pure (.ok [], r, registry)
  | d :: rest => do
    match ← r.register env registry d with
    | (.error failure, r, registry) => return (.error failure, r, registry)
    | (.ok e, r, registry) =>
      let (result, r, registry) ← registerAll r registry rest
      return (result.map (e :: ·), r, registry)

def inspect (r : Registrar) : String :=
  Described.partialRecord "ListenerRegistrar"
    [("containers", Described.list ((r.named.keys.mergeSort (· ≤ ·)).map Quoted.text)),
     ("default_container", Described.bool r.default.isSome)]

end Registrar

end KeyRelay
