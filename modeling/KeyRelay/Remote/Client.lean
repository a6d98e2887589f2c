import KeyRelay.Remote.Address
import KeyRelay.Remote.Config
import KeyRelay.Remote.Reply
/-!
# The backend that is a server

A client turns every request into one command, has it sent, and reads the answer. It decides nothing
about keys and values itself: the server checks the condition and makes the change in one step.

How commands get to the server is left open. An `Exchange` sends a command and returns the answer,
in whatever monad that takes.
-/

namespace KeyRelay.Remote

/-- A way to have commands answered. Without an answer there is a reason why. -/
abbrev Exchange (m : Type → Type) := WireCommand → m (Except String Reply)

/-- The exchange with a server that cannot be reached. -/
def Exchange.unreachable {m : Type → Type} [Monad m] : Exchange m :=
  fun _ => pure (.error "Connection refused (os error 111)")

/-- A client of a server. -/
structure Client where
  config : Config
deriving DecidableEq, Repr

namespace Client

/-- A client with these settings. Nothing is sent yet, but the URL has to name a server. -/
def connect (config : Config) : Except CommandError Client :=
  if (Address.ofUrl? config.url).isSome then .ok ⟨config⟩
  else .error (.connection "the URL names no server")

variable {m : Type → Type} [Monad m]

/-- Has one command answered. Without connections to wait for, the wait is in vain. -/
def request (c : Client) (exchange : Exchange m) (command : WireCommand) :
    m (Except CommandError Reply) :=
  if c.config.poolSize = 0 then pure (.error (.timeout c.config.timeout))
  else do
    match ← exchange command with
    | .ok reply => return .ok reply
    | .error reason => return .error (.connection reason)

/-- Has one command answered and reads the answer. -/
def ask {A : Type} (c : Client) (exchange : Exchange m) (command : WireCommand)
    (read : Reply → Except CommandError A) : m (Except CommandError A) := do
  match ← c.request exchange command with
  | .ok reply => return read reply
  | .error e => return .error e

/-- Whether a write took place: it did if there is any answer to it. -/
def written (reply : Reply) : Except CommandError Bool := reply.text.map Option.isSome

/-- Whether a delete took place: it did if some key was deleted. -/
def deleted (reply : Reply) : Except CommandError Bool := reply.number.map fun n => decide (0 < n)

def commands (c : Client) (exchange : Exchange m) : KeyCommands m where
  get key := c.ask exchange (.get (c.config.renderKey key)) Reply.value
  set key value options :=
    c.ask exchange (.set (c.config.renderKey key) value options) written
  delete key condition := c.ask exchange (.delete (c.config.renderKey key) condition) deleted
  digest key := c.ask exchange (.digest (c.config.renderKey key)) Reply.text

def inspect (c : Client) : String :=
  Described.partialRecord "RedisKeyCommands" [("config", c.config.inspect)]

end Client

end KeyRelay.Remote
