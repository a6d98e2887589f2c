import KeyRelay.Listener.Handler
/-!
# From messages to handlers

An adapter stands between a container, which delivers messages, and a handler, which takes
envelopes. It also keeps their failures apart: what a handler does wrong is logged and goes no
further, so the subscription goes on.
-/

namespace KeyRelay

/-- A line of the log, of the kinds that are worth a person's attention. -/
inductive Event where
  /-- A handler failed on a message. -/
  | handlerFailed (bean method channel : String) (error : HandlerError)
  /-- An endpoint could not be started with the others. -/
  | startFailed (id : String) (error : ListenerError)
  /-- An endpoint could not be stopped with the others. -/
  | stopFailed (id : String) (error : ListenerError)
deriving DecidableEq, Repr

def Event.level : Event → String
  | .handlerFailed .. => "ERROR"
  | .startFailed .. => "WARN"
  | .stopFailed .. => "WARN"

/-- The text and the fields of a line. -/
def Event.fields : Event → List (String × String)
  | .handlerFailed bean method channel error =>
    [("message", "listener handler failed"), ("bean", bean), ("method", method),
     ("channel", channel), ("error", error.headline)]
  | .startFailed id error =>
    [("message", "failed to start listener endpoint"), ("endpoint", id), ("error", error.message)]
  | .stopFailed id error =>
    [("message", "failed to stop listener endpoint"), ("endpoint", id), ("error", error.message)]

/-- An adapter for a handler. -/
structure Adapter where
  bean : String
  method : String
  handler : Handler

namespace Adapter

/-- The line for a failure on a message, if there was one. -/
def report (a : Adapter) (message : Message) : Except HandlerError Unit → List Event
  | .ok () => []
  | .error e => [.handlerFailed a.bean a.method message.channelName e]

def inspect (a : Adapter) : String :=
  Described.partialRecord "HandlerMethodListenerAdapter"
    [("bean", Quoted.text a.bean), ("method", Quoted.text a.method)]

end Adapter

end KeyRelay
