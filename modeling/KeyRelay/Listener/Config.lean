import KeyRelay.Listener.Registrar
import KeyRelay.Listener.Resolver
import KeyRelay.Toml.Record
/-!
# Listener configurations

A configuration lists the definitions of listeners and says how many topics a resolver keeps. It is
accepted only if every definition has a topic, a bean and a method; a definition that lacks one is
reported by its index, the first such definition and the first such field.
-/

namespace KeyRelay

/-- Why a configuration cannot be used. -/
inductive ConfigFault where
  /-- The text is not a document of the right shape. -/
  | shape
  /-- A field of a definition is blank. -/
  | blank (index : Nat) (field : String)
  | unreadable (path reason : String)
deriving DecidableEq, Repr

/-- The reason for which a file of other bytes than a text's cannot be read. -/
def ConfigFault.notText : String := "stream did not contain valid UTF-8"

def ConfigFault.text : ConfigFault → String
  | .shape => "not a listener configuration"
  | .blank index field => "listeners[" ++ toString index ++ "]." ++ field ++ " must not be blank"
  | .unreadable path reason => "failed to read " ++ path ++ ": " ++ reason

/-- The failure that a fault leads to. -/
def ConfigFault.error (f : ConfigFault) : ListenerError := .configuration f.text

structure ListenerConfig where
  /-- How many channels, and how many patterns, a resolver keeps. -/
  topicCacheCapacity : Nat := LruCache.defaultCapacity
  listeners : List Definition := []
deriving DecidableEq, Repr

namespace Definition

def ofToml? (v : Toml.Value) : Option Definition := do
  let field ← v.record? ["id", "container", "topic", "bean", "method"]
  return {
    id := ← Toml.optional (·.text?.map some) none (field "id")
    container := ← Toml.optional (·.text?.map some) none (field "container")
    topic := ← Toml.required (·.text?) (field "topic")
    bean := ← Toml.required (·.text?) (field "bean")
    method := ← Toml.required (·.text?) (field "method") }

/-- The first field that must not be blank and is. -/
def blankField? (d : Definition) : Option String :=
  ([("topic", d.topic), ("bean", d.bean), ("method", d.method)].find? fun f => isBlank f.2).map
    Prod.fst

end Definition

namespace ListenerConfig

/-- Reads a configuration, which may leave out everything. -/
def ofToml? (v : Toml.Value) : Option ListenerConfig := do
  let field ← v.record? ["topic_cache_capacity", "listeners"]
  return {
    topicCacheCapacity :=
      ← Toml.optional (·.natural?) LruCache.defaultCapacity (field "topic_cache_capacity")
    listeners := ← Toml.optional (fun v => do (← v.items?).mapM Definition.ofToml?) []
      (field "listeners") }

/-- Looks for a blank field, where the first definition has this index. -/
def checkFrom (index : Nat) : List Definition → Except ConfigFault Unit
  | [] => .ok ()
  | d :: rest =>
    match d.blankField? with
    | some field => .error (.blank index field)
    | none => checkFrom (index + 1) rest

/-- Checks that no definition lacks a field. -/
def validate (c : ListenerConfig) : Except ConfigFault Unit := checkFrom 0 c.listeners

/-- Reads a configuration from the text of a document and checks it. -/
def parse (text : String) : Except ConfigFault ListenerConfig :=
  match (Toml.parse? text).bind fun entries => ofToml? (.table .header entries) with
  | none => .error .shape
  | some c => c.validate.map fun () => c

/-- Reads a configuration from a file, given what reading the file came to. -/
def load (path : String) (contents : Except String Bytes) : Except ConfigFault ListenerConfig :=
  match contents with
  | .error reason => .error (.unreadable path reason)
  | .ok bytes =>
    match Utf8.decode bytes with
    | .error _ => .error (.unreadable path ConfigFault.notText)
    | .ok text => parse text

def resolver (c : ListenerConfig) : Resolver := .ofCapacity c.topicCacheCapacity

end ListenerConfig

end KeyRelay
