import KeyRelay.Keys.Spec
/-!
# Specs, step by step

A spec is written as a chain of calls. Here the calls are data, so that one can speak of every
chain there is. A chain must make sense: a comparand can follow an operator and nothing else.
Instead of a comparand, the comparison may be turned back into its spec. Where the next call needs
a spec and the last one chose an operator, that happens by itself.
-/

namespace KeyRelay

/-- A call that stages a comparison. -/
inductive SpecStep (V : Type) where
  | always
  | ifEquals
  | ifNotEquals
  | value (v : V)
  | digest (text : String)
  /-- Turn the comparison back into its spec, without a comparand. -/
  | revert
deriving DecidableEq, Repr

/-- A call on a set: one that stages a comparison, or the one that lets the value expire. -/
inductive SetStep (V : Type) where
  /-- A call that stages a comparison. -/
  | stage (step : SpecStep V)
  | expire (after : Duration)
deriving DecidableEq, Repr

/-- Where a chain of calls stands. -/
inductive Draft (S : Type) where
  | spec (s : S)
  /-- At an operator without its comparand. -/
  | comparison (c : Comparison S)
deriving DecidableEq, Repr

namespace Draft

variable {S V : Type} [Spec S V]

/-- The spec, where a comparison counts as the spec it would turn back into. -/
def toSpec : Draft S → S
  | .spec s => s
  | .comparison c => c.spec

/-- One more call, if it can be made here. -/
def step (d : Draft S) : SpecStep V → Option (Draft S)
  | .always => some (.spec (Spec.always d.toSpec))
  | .ifEquals => some (.comparison (Spec.ifEquals d.toSpec))
  | .ifNotEquals => some (.comparison (Spec.ifNotEquals d.toSpec))
  | .value v =>
    match d with
    | .comparison c => some (.spec (c.value v))
    | .spec _ => none
  | .digest text =>
    match d with
    | .comparison c => some (.spec (c.digest text))
    | .spec _ => none
  | .revert =>
    match d with
    | .comparison c => some (.spec c.spec)
    | .spec _ => none

/-- A chain of calls, if it can be made. -/
def steps (d : Draft S) : List (SpecStep V) → Option (Draft S)
  | [] => some d
  | s :: rest => do (← d.step s).steps rest

end Draft

def Draft.setStep {V : Type} (d : Draft (SetSpec V)) : SetStep V → Option (Draft (SetSpec V))
  | .stage s => d.step s
  | .expire after => some (.spec (d.toSpec.expire after))

/-- A chain of calls on a set, if it can be made. -/
def Draft.setSteps {V : Type} (d : Draft (SetSpec V)) :
    List (SetStep V) → Option (Draft (SetSpec V))
  | [] => some d
  | s :: rest => do (← d.setStep s).setSteps rest

end KeyRelay
