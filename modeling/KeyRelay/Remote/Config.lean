import KeyRelay.Duration
import KeyRelay.Keys.WireCommand
import KeyRelay.Text.Described
import KeyRelay.Toml.Record
/-!
# How to reach a server

The settings of a client: where the server is, under which prefix the client's keys are kept there,
how many connections it may have and how long it waits for one. Everything may be left out.
-/

namespace KeyRelay.Remote

/-- The settings of a client. -/
structure Config where
  url : String := "redis://127.0.0.1:6379"
  /-- What is put before each key, with a colon between; without it keys are sent as they are. -/
  keyPrefix : Option String := none
  /-- How many connections there may be. -/
  poolSize : Nat := 10
  /-- How long to wait for one of them, in milliseconds. -/
  timeoutMilliseconds : Nat := 5000
deriving DecidableEq, Repr

namespace Config

/-- How long to wait for a connection. -/
def timeout (c : Config) : Duration := .ofMilliseconds c.timeoutMilliseconds

/-- A key as the server knows it. -/
def renderKey (c : Config) (key : String) : String :=
  match c.keyPrefix with
  | some p => p ++ ":" ++ key
  | none => key

def ofToml? (v : Toml.Value) : Option Config := do
  let field ← v.record? ["url", "prefix", "pool_size", "connection_timeout_ms"]
  let standard : Config := {}
  return {
    url := ← Toml.optional (·.text?) standard.url (field "url")
    keyPrefix := ← Toml.optional (·.text?.map some) standard.keyPrefix (field "prefix")
    poolSize := ← Toml.optional (·.natural?) standard.poolSize (field "pool_size")
    timeoutMilliseconds :=
      ← Toml.optional (·.natural?) standard.timeoutMilliseconds (field "connection_timeout_ms") }

/-- Reads settings from the text of a document. -/
def parse? (text : String) : Option Config :=
  (Toml.parse? text).bind fun entries => ofToml? (.table .header entries)

def inspect (c : Config) : String :=
  Described.record "RedisConfig"
    [("url", Quoted.text c.url), ("prefix", Described.option (c.keyPrefix.map Quoted.text)),
     ("pool_size", toString c.poolSize),
     ("connection_timeout_ms", toString c.timeoutMilliseconds)]

end Config

end KeyRelay.Remote
