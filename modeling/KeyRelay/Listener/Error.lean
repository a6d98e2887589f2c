/-!
# What can go wrong with listeners

Failures of the machinery (`ListenerError`) reach whoever asked for something to be registered,
started or stopped. Failures of a handler (`HandlerError`) concern one message only and are logged.
-/

namespace KeyRelay

/-- Why something could not be registered, started or stopped. -/
inductive ListenerError where
  /-- The endpoint has no container yet. -/
  | notRegistered (id : String)
  /-- The endpoint, or another of the same id, is registered already. -/
  | alreadyRegistered (id : String)
  | invalidTopic (topic reason : String)
  /-- There is no container of this name. -/
  | containerNotFound (name : String)
  /-- No container was named, and there is none to use instead. -/
  | noDefaultContainer
  /-- There is no handler for the method of the bean. -/
  | handlerNotFound (bean method : String)
  | container (text : String)
  | configuration (text : String)
deriving DecidableEq, Repr

def ListenerError.message : ListenerError → String
  | .notRegistered id =>
    "listener container not initialized for endpoint '" ++ id ++ "'; register it first"
  | .alreadyRegistered id => "endpoint '" ++ id ++ "' is already registered"
  | .invalidTopic topic reason => "invalid topic '" ++ topic ++ "': " ++ reason
  | .containerNotFound name => "no listener container named '" ++ name ++ "'"
  | .noDefaultContainer => "no default listener container available"
  | .handlerNotFound bean method => "no handler for " ++ bean ++ "." ++ method
  | .container text => "listener container error: " ++ text
  | .configuration text => "configuration error: " ++ text

/-- Why a handler failed on a message. -/
inductive HandlerError where
  /-- The payload is not what the handler takes. -/
  | conversion (text : String)
  | invocation (text : String)
deriving DecidableEq, Repr

/-- What every failed conversion is reported as. -/
def HandlerError.conversionHeadline : String := "failed to convert message payload"

def HandlerError.message : HandlerError → String
  | .conversion text => conversionHeadline ++ ": " ++ text
  | .invocation text => "handler invocation failed: " ++ text

/-- The wording of a failure, without what a conversion had to say about the payload. -/
def HandlerError.headline : HandlerError → String
  | .conversion _ => conversionHeadline
  | .invocation text => "handler invocation failed: " ++ text

end KeyRelay
