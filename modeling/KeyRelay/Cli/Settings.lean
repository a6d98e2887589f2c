import KeyRelay.Listener.Config
import KeyRelay.Remote.Config
/-!
# The configuration file of the command line

It has two tables, one for the server and one for the listeners, and either may be missing.
-/

namespace KeyRelay.Cli

/-- What a configuration file says. -/
structure Settings where
  remote : Remote.Config := {}
  listener : ListenerConfig := {}
deriving DecidableEq, Repr

namespace Settings

def ofToml? (v : Toml.Value) : Option Settings := do
  let field ← v.record? ["redis", "listener"]
  return {
    remote := ← Toml.optional Remote.Config.ofToml? {} (field "redis")
    listener := ← Toml.optional ListenerConfig.ofToml? {} (field "listener") }

/-- Reads settings from the text of a document and checks them. -/
def parse (text : String) : Except ConfigFault Settings :=
  match (Toml.parse? text).bind fun entries => ofToml? (.table .header entries) with
  | none => .error .shape
  | some s => s.listener.validate.map fun () => s

/-- Reads settings from a file, given what reading the file came to. -/
def load (path : String) (contents : Except String Bytes) : Except ConfigFault Settings :=
  match contents with
  | .error reason => .error (.unreadable path reason)
  | .ok bytes =>
    match Utf8.decode bytes with
    | .error _ => .error (.unreadable path ConfigFault.notText)
    | .ok text => parse text

end Settings

end KeyRelay.Cli
