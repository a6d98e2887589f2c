import KeyRelay.Duration
/-!
# What can go wrong with a key command

A command fails before it is sent (its condition is incomplete, a value cannot be written), or on
its way (no connection, no connection in time), or at the backend. That a condition did not hold is
no failure.
-/

namespace KeyRelay

/-- Why a key command failed. -/
inductive CommandError where
  /-- A condition was begun and not finished. -/
  | invalidState (text : String)
  /-- A value could not be written or read. -/
  | serialization (text : String)
  /-- The backend could not be reached. -/
  | connection (text : String)
  | backend (text : String)
  /-- No connection became free in time. -/
  | timeout (after : Duration)
deriving DecidableEq, Repr

def CommandError.message : CommandError → String
  | .invalidState text => "invalid builder state: " ++ text
  | .serialization text => "serialization error: " ++ text
  | .connection text => "connection error: " ++ text
  | .backend text => "backend error: " ++ text
  | .timeout after => "operation timed out after " ++ after.describe

end KeyRelay
