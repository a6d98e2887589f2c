import KeyRelay.Keys.Commands
/-!
# Staging a condition

A condition is put together in steps before it is used: an operator is chosen, then a value or a
digest to compare with; a later choice replaces an earlier one, and `always` drops the comparison.
Operator and comparand are kept apart, so the operator can be changed under a comparand that is
already there.

Between the operator and its comparand a spec is a `Comparison`. It can be turned back into a spec
at that point, which leaves a comparison without a comparand; that is only found out when the
condition is needed. Values are serialized then and not before, at most once.
-/

namespace KeyRelay

/-- What has been staged to compare with. -/
inductive Staged (V : Type) where
  | always
  /-- Nothing yet, though an operator was chosen. -/
  | pending
  | value (v : V)
  | digest (text : String)
deriving DecidableEq, Repr

/-- A comparison under construction. -/
structure Staging (V : Type) where
  operator : Operator := .equals
  staged : Staged V := .always
deriving DecidableEq, Repr

namespace Staging

variable {V : Type}

/-- Chooses the operator. A comparand that is already staged stays. -/
def select (s : Staging V) (operator : Operator) : Staging V :=
  match s.staged with
  | .always => ⟨operator, .pending⟩
  | staged => ⟨operator, staged⟩

/-- Stages something to compare with, in place of whatever was staged. -/
def stage (s : Staging V) (staged : Staged V) : Staging V := { s with staged := staged }

def isConditional (s : Staging V) : Bool :=
  match s.staged with
  | .always => false
  | _ => true

/-- What is wrong with a comparison that has no comparand. -/
def incomplete (operator : Operator) : CommandError :=
  .invalidState (operator.name ++
    " comparison selected but neither a value nor a digest was staged")

/-- The condition, once a serializer for values is at hand. -/
def condition {m : Type → Type} [Monad m] (s : Staging V)
    (serialize : V → m (Except CommandError Bytes)) :
    m (Except CommandError (Option Condition)) :=
  match s.staged with
  | .always => pure (.ok none)
  | .pending => pure (.error (incomplete s.operator))
  | .value v => do
    match ← serialize v with
    | .ok bytes => return .ok (some ⟨s.operator, .value bytes⟩)
    | .error e => return .error e
  | .digest text => pure (.ok (some ⟨s.operator, .digest text⟩))

end Staging

/-! ## Specs -/

/-- A request that carries a comparison under construction. What can be done to the comparison is
the same for every kind of request. -/
class Spec (S : Type) (V : outParam Type) where
  staging : S → Staging V
  /-- The request with another comparison in place of its own. -/
  withStaging : S → Staging V → S

/-- A spec whose operator was just chosen and which waits for a comparand. -/
structure Comparison (S : Type) where
  spec : S
deriving DecidableEq, Repr

namespace Spec

variable {S V : Type} [Spec S V]

def always (s : S) : S := withStaging s ((staging s).stage .always)

/-- Asks for equality with what comes next. -/
def ifEquals (s : S) : Comparison S := ⟨withStaging s ((staging s).select .equals)⟩

/-- Asks for difference from what comes next. -/
def ifNotEquals (s : S) : Comparison S := ⟨withStaging s ((staging s).select .notEquals)⟩

def isConditional (s : S) : Bool := (staging s).isConditional

def condition {m : Type → Type} [Monad m] (s : S) (serialize : V → m (Except CommandError Bytes)) :
    m (Except CommandError (Option Condition)) :=
  (staging s).condition serialize

end Spec

namespace Comparison

variable {S V : Type} [Spec S V]

def value (c : Comparison S) (v : V) : S :=
  Spec.withStaging c.spec ((Spec.staging c.spec).stage (.value v))

def digest (c : Comparison S) (text : String) : S :=
  Spec.withStaging c.spec ((Spec.staging c.spec).stage (.digest text))

end Comparison

/-- A delete, conditional or not. -/
structure DeleteSpec (V : Type) where
  staging : Staging V := {}
deriving DecidableEq, Repr

instance {V : Type} : Spec (DeleteSpec V) V where
  staging s := s.staging
  withStaging _ staging := ⟨staging⟩

/-- A set, conditional or not, with an expiration or without. -/
structure SetSpec (V : Type) where
  staging : Staging V := {}
  /-- How long the value is to live. -/
  expiration : Option Duration := none
deriving DecidableEq, Repr

instance {V : Type} : Spec (SetSpec V) V where
  staging s := s.staging
  withStaging s staging := { s with staging := staging }

namespace SetSpec

variable {V : Type}

def expire (s : SetSpec V) (after : Duration) : SetSpec V := { s with expiration := some after }

/-- The condition and the expiration of the set. -/
def options {m : Type → Type} [Monad m] (s : SetSpec V)
    (serialize : V → m (Except CommandError Bytes)) :
    m (Except CommandError SetOptions) := do
  match ← Spec.condition s serialize with
  | .ok c => return .ok ⟨c, s.expiration⟩
  | .error e => return .error e

end SetSpec

end KeyRelay
