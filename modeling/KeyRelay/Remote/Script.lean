import KeyRelay.Remote.Client
/-!
# A server that follows a script

It gives the answers of its script in order, whatever it is asked, and writes down what it was
asked. Instead of an answer the script may have it drop the connection; the next command finds a
new one.
-/

namespace KeyRelay.Remote

/-- What a scripted server does next. -/
inductive Cue where
  | reply (reply : Reply)
  | close
deriving DecidableEq, Repr

structure Script where
  /-- What it has yet to do. Afterwards it drops every connection. -/
  cues : List Cue := []
  /-- The commands it was sent, in order. -/
  sent : List WireCommand := []
deriving DecidableEq, Repr

def Script.exchange : Exchange (StateM Script) := fun command => do
  let before ← get
  match before.cues with
  | .reply reply :: rest =>
    set ({ cues := rest, sent := before.sent ++ [command] } : Script)
    return .ok reply
  | .close :: rest =>
    set ({ cues := rest, sent := before.sent ++ [command] } : Script)
    return .error "the connection was dropped"
  | [] =>
    set { before with sent := before.sent ++ [command] }
    return .error "the connection was dropped"

end KeyRelay.Remote
