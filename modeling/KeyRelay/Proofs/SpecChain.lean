import KeyRelay.Keys.SpecStep
import KeyRelay.Keys.Serializer
import Mathlib.Data.List.Chain
import Mathlib.Data.List.DropRight

/-!
# What a chain of calls comes to

A spec keeps its operator apart from what it compares with, and a call rewrites one
of the two or drops the comparison altogether. What a spec holds in the end depends
on the order of all the calls that were made on it. This file says which of them
still count: of those after the last `always`, the last one that chose an operator
and the last one that staged something to compare with.

There are two halves to it. On the one side the calls as they are made: a chain that
makes sense is never stuck, and all it does to a spec is to its staging, one
`Staging.apply` per call (`Draft.steps_eq`, `Draft.setSteps_eq`). On the other side
stagings alone: `Staging.Holds` reads off the calls what a staging holds, and one
`apply` keeps it. That a comparand never stands there without an operator is no
matter of stagings, it is what makes a chain sensible (`operator_of_comparand`).
-/

namespace KeyRelay

/-! ## What a call says -/

namespace SpecStep

variable {V : Type}

def operator? : SpecStep V → Option Operator
  | .ifEquals => some .equals
  | .ifNotEquals => some .notEquals
  | _ => none

/-- What a call stages to compare with, a value or a digest. -/
def comparand? : SpecStep V → Option (V ⊕ String)
  | .value v => some (.inl v)
  | .digest text => some (.inr text)
  | _ => none

def isAlways : SpecStep V → Bool
  | .always => true
  | _ => false

/-- Whether a call is one on a comparison that waits for its comparand. -/
def onComparison : SpecStep V → Bool
  | .value _ | .digest _ | .revert => true
  | _ => false

/-- Whether a call can stand directly after another. One on a waiting comparison can
stand only after the call that left it waiting. -/
def Follows (before next : SpecStep V) : Prop := next.onComparison → before.operator?.isSome

instance : DecidableRel (Follows : SpecStep V → SpecStep V → Prop) :=
  fun before next => inferInstanceAs (Decidable (next.onComparison → before.operator?.isSome))

/-- Whether a chain makes sense. Nothing waits at its start, as after `always`. -/
def Sensible (steps : List (SpecStep V)) : Prop := List.IsChain Follows (.always :: steps)

instance (steps : List (SpecStep V)) : Decidable (Sensible steps) :=
  inferInstanceAs (Decidable (List.IsChain Follows (.always :: steps)))

def sinceAlways (steps : List (SpecStep V)) : List (SpecStep V) :=
  steps.rtakeWhile fun step => !step.isAlways

def lastOperator? (steps : List (SpecStep V)) : Option Operator :=
  steps.reverse.findSome? operator?

def lastComparand? (steps : List (SpecStep V)) : Option (V ⊕ String) :=
  steps.reverse.findSome? comparand?

theorem onComparison_of_comparand {step : SpecStep V} (h : step.comparand?.isSome) :
    step.onComparison := by
  cases step <;> first | rfl | cases h

theorem sinceAlways_of_always (past : List (SpecStep V)) {step : SpecStep V}
    (h : step.isAlways = true) : sinceAlways (past ++ [step]) = [] := by
  simp [sinceAlways, h]

theorem sinceAlways_concat (past : List (SpecStep V)) {step : SpecStep V}
    (h : step.isAlways = false) : sinceAlways (past ++ [step]) = sinceAlways past ++ [step] := by
  simp [sinceAlways, h]

theorem lastOperator?_concat (past : List (SpecStep V)) (step : SpecStep V) :
    lastOperator? (past ++ [step]) = step.operator?.or (lastOperator? past) := by
  rw [lastOperator?, List.reverse_append, List.reverse_singleton, List.singleton_append,
    List.findSome?_cons]
  cases step.operator? <;> rfl

theorem lastComparand?_concat (past : List (SpecStep V)) (step : SpecStep V) :
    lastComparand? (past ++ [step]) = step.comparand?.or (lastComparand? past) := by
  rw [lastComparand?, List.reverse_append, List.reverse_singleton, List.singleton_append,
    List.findSome?_cons]
  cases step.comparand? <;> rfl

theorem lastOperator?_isSome (steps : List (SpecStep V)) :
    (lastOperator? steps).isSome ↔ ∃ step ∈ steps, step.operator?.isSome := by
  simp [lastOperator?, List.findSome?_isSome_iff]

/-- A sensible chain without its last call, and what the call before that one was. -/
theorem Sensible.concat {past : List (SpecStep V)} {step : SpecStep V}
    (h : Sensible (past ++ [step])) :
    Sensible past ∧ (step.onComparison → ∃ before, past.getLast? = some before ∧
      before.operator?.isSome) := by
  rw [Sensible, ← List.cons_append, List.isChain_append] at h
  obtain ⟨hpast, -, hlast⟩ := h
  refine ⟨hpast, fun hon => ?_⟩
  cases hp : past.getLast? with
  | none =>
      -- the chain starts with this call, but nothing waits at the start
      rw [List.getLast?_eq_none_iff] at hp
      subst hp
      simpa [operator?] using hlast .always rfl step rfl hon
  | some before =>
      exact ⟨before, rfl, hlast before (by simp [List.getLast?_cons, hp]) step rfl hon⟩

/-- A call that chooses an operator and is the last one still counts. -/
theorem lastOperator?_of_last {past : List (SpecStep V)} {before : SpecStep V}
    (h : past.getLast? = some before) (hop : before.operator?.isSome) :
    (lastOperator? (sinceAlways past)).isSome := by
  obtain ⟨front, rfl⟩ := List.getLast?_eq_some_iff.mp h
  have hnot : before.isAlways = false := by cases before <;> simp_all [operator?, isAlways]
  rw [sinceAlways_concat front hnot, lastOperator?_concat, Option.isSome_or, hop]
  rfl

/--
**Behind every comparand that counts there is an operator that counts.** The call
that stages one stands directly after the call that chose an operator, so no
`always` comes between the two.
-/
theorem operator_of_comparand {steps : List (SpecStep V)} (h : Sensible steps)
    (hc : (lastComparand? (sinceAlways steps)).isSome) :
    (lastOperator? (sinceAlways steps)).isSome := by
  induction steps using List.reverseRecOn with
  | nil => exact absurd hc (by simp [sinceAlways, lastComparand?])
  | append_singleton past step ih =>
      obtain ⟨hpast, hbefore⟩ := h.concat
      cases halways : step.isAlways with
      | true =>
          rw [sinceAlways_of_always past halways] at hc
          exact absurd hc (by simp [lastComparand?])
      | false =>
          rw [sinceAlways_concat past halways, lastOperator?_concat, Option.isSome_or]
          rw [sinceAlways_concat past halways, lastComparand?_concat, Option.isSome_or] at hc
          cases hs : step.comparand?.isSome with
          | true =>
              -- this call stages it, and the operator was chosen right before
              obtain ⟨before, hlast, hop⟩ := hbefore (onComparison_of_comparand hs)
              rw [lastOperator?_of_last hlast hop, Bool.or_true]
          | false =>
              -- it was there already, and so was the operator
              rw [hs, Bool.false_or] at hc
              rw [ih hpast hc, Bool.or_true]

end SpecStep

/-! ## What a staging holds -/

/-- What is staged if this was staged last, and if an operator was chosen or not. -/
def Staged.ofLast {V : Type} (comparand : Option (V ⊕ String)) (chosen : Bool) : Staged V :=
  match comparand, chosen with
  | some (.inl v), _ => .value v
  | some (.inr text), _ => .digest text
  | none, true => .pending
  | none, false => .always

namespace Staging

variable {V : Type}

/-- What a call does to a staging. -/
def apply (s : Staging V) : SpecStep V → Staging V
  | .always => s.stage .always
  | .ifEquals => s.select .equals
  | .ifNotEquals => s.select .notEquals
  | .value v => s.stage (.value v)
  | .digest text => s.stage (.digest text)
  | .revert => s

/-- A staging holds what these calls say, the ones since the last `always`. Before
an operator is chosen nobody asks which one a staging holds. -/
structure Holds (s : Staging V) (since : List (SpecStep V)) : Prop where
  staged : s.staged =
    .ofLast (SpecStep.lastComparand? since) (SpecStep.lastOperator? since).isSome
  operator : ∀ operator, SpecStep.lastOperator? since = some operator → s.operator = operator

theorem select_operator (s : Staging V) (operator : Operator) :
    (s.select operator).operator = operator := by
  rcases s with ⟨_, _ | _ | _ | _⟩ <;> rfl

theorem select_staged (s : Staging V) (operator : Operator) {comparand : Option (V ⊕ String)}
    {chosen : Bool} (h : s.staged = .ofLast comparand chosen) :
    (s.select operator).staged = .ofLast comparand true := by
  rcases s with ⟨old, staged⟩
  subst h
  rcases comparand with _ | _ | _
  · cases chosen <;> rfl
  · rfl
  · rfl

theorem holds_nil (s : Staging V) (h : s.staged = .always) : s.Holds [] :=
  ⟨h, fun _ hnone => by cases hnone⟩

theorem Holds.select {s : Staging V} {since : List (SpecStep V)} (h : s.Holds since)
    {step : SpecStep V} {operator : Operator} (hop : step.operator? = some operator)
    (hcomp : step.comparand? = none) : (s.select operator).Holds (since ++ [step]) := by
  refine ⟨?_, fun _ hlast => ?_⟩
  · rw [SpecStep.lastComparand?_concat, SpecStep.lastOperator?_concat, hcomp, hop]
    exact s.select_staged operator h.staged
  · rw [SpecStep.lastOperator?_concat, hop] at hlast
    rw [select_operator]
    exact Option.some.inj hlast

theorem Holds.stage {s : Staging V} {since : List (SpecStep V)} (h : s.Holds since)
    (step : SpecStep V) (comparand : V ⊕ String) (hop : step.operator? = none)
    (hcomp : step.comparand? = some comparand) :
    (s.stage (.ofLast (some comparand) true)).Holds (since ++ [step]) := by
  refine ⟨?_, fun operator hlast => ?_⟩
  · rw [SpecStep.lastComparand?_concat, hcomp]
    rcases comparand with v | text <;> rfl
  · rw [SpecStep.lastOperator?_concat, hop] at hlast
    exact h.operator operator hlast

/-- **One call.** What a staging holds after it is what the calls up to it say. -/
theorem Holds.apply {s : Staging V} {past : List (SpecStep V)}
    (h : s.Holds (SpecStep.sinceAlways past)) (step : SpecStep V) :
    (s.apply step).Holds (SpecStep.sinceAlways (past ++ [step])) := by
  cases halways : step.isAlways with
  | true =>
      rw [SpecStep.sinceAlways_of_always past halways]
      refine holds_nil _ ?_
      cases step <;> first | rfl | cases halways
  | false =>
      rw [SpecStep.sinceAlways_concat past halways]
      cases step with
      | always => cases halways
      | ifEquals => exact h.select rfl rfl
      | ifNotEquals => exact h.select rfl rfl
      | value v => exact h.stage (.value v) (.inl v) rfl rfl
      | digest text => exact h.stage (.digest text) (.inr text) rfl rfl
      | revert =>
          refine ⟨?_, fun operator hlast => ?_⟩
          · rw [SpecStep.lastComparand?_concat, SpecStep.lastOperator?_concat]
            exact h.staged
          · rw [SpecStep.lastOperator?_concat] at hlast
            exact h.operator operator hlast

/-- **All calls.** They are undone one by one from the end. -/
theorem holds_of_calls (steps : List (SpecStep V)) :
    (steps.foldl apply ({} : Staging V)).Holds (SpecStep.sinceAlways steps) := by
  induction steps using List.reverseRecOn with
  | nil => exact holds_nil _ rfl
  | append_singleton past step ih =>
      rw [List.foldl_concat]
      exact ih.apply step

end Staging

/-! ## What a condition comes to -/

/-- A serializer that notes the values it is called on. -/
def logged {V : Type} {m : Type → Type} [Monad m] (serialize : V → m (Except CommandError Bytes))
    (v : V) : StateT (List V) m (Except CommandError Bytes) := do
  modify (· ++ [v])
  serialize v

theorem logged_run {V : Type} {m : Type → Type} [Monad m] [LawfulMonad m]
    (serialize : V → m (Except CommandError Bytes)) (v : V) (log : List V) :
    (logged serialize v).run log = (·, log ++ [v]) <$> serialize v := by
  simp [logged]

/-- The condition that these calls ask for, the ones since the last `always`, and the
values that have to be serialized for it. -/
def SpecStep.verdict {V : Type} {m : Type → Type} [Monad m] (since : List (SpecStep V))
    (serialize : V → m (Except CommandError Bytes)) :
    m (Except CommandError (Option Condition) × List V) :=
  match lastOperator? since, lastComparand? since with
  | none, _ => pure (.ok none, [])
  | some operator, none =>
    pure (.error (.invalidState (operator.name ++
      " comparison selected but neither a value nor a digest was staged")), [])
  | some operator, some (.inl v) => do
    return ((← serialize v).map fun bytes => some ⟨operator, .value bytes⟩, [v])
  | some operator, some (.inr text) => pure (.ok (some ⟨operator, .digest text⟩), [])

namespace Staging

variable {V : Type}

theorem Holds.isConditional {s : Staging V} {since : List (SpecStep V)} (h : s.Holds since)
    (hchosen : (SpecStep.lastComparand? since).isSome → (SpecStep.lastOperator? since).isSome) :
    s.isConditional = (SpecStep.lastOperator? since).isSome := by
  rw [Staging.isConditional, h.staged]
  rcases hcomp : SpecStep.lastComparand? since with _ | _ | _
  · cases (SpecStep.lastOperator? since).isSome <;> rfl
  · rw [hchosen (by rw [hcomp]; rfl)]
    rfl
  · rw [hchosen (by rw [hcomp]; rfl)]
    rfl

theorem Holds.condition {s : Staging V} {since : List (SpecStep V)} (h : s.Holds since)
    (hchosen : (SpecStep.lastComparand? since).isSome → (SpecStep.lastOperator? since).isSome)
    {m : Type → Type} [Monad m] [LawfulMonad m] (serialize : V → m (Except CommandError Bytes)) :
    (s.condition (logged serialize)).run [] = SpecStep.verdict since serialize := by
  rw [Staging.condition, SpecStep.verdict, h.staged]
  cases hop : SpecStep.lastOperator? since with
  | none =>
      cases hcomp : SpecStep.lastComparand? since with
      | none => rfl
      | some comparand =>
          -- there is none without an operator
          rw [hcomp, hop] at hchosen
          cases hchosen rfl
  | some operator =>
      rw [h.operator operator hop]
      rcases SpecStep.lastComparand? since with _ | v | text
      · rfl
      · dsimp only [Staged.ofLast]
        rw [StateT.run_bind, logged_run, map_eq_pure_bind, bind_assoc]
        refine bind_congr fun answer => ?_
        rw [pure_bind]
        cases answer <;> rfl
      · rfl

end Staging

/-! ## Chains as they are made -/

/-- A request keeps the comparison it is given, and nothing else of it changes. -/
class LawfulSpec (S : Type) {V : outParam Type} [Spec S V] : Prop where
  staging_withStaging : ∀ (s : S) (t : Staging V), Spec.staging (Spec.withStaging s t) = t
  withStaging_staging : ∀ s : S, Spec.withStaging s (Spec.staging s) = s
  withStaging_withStaging : ∀ (s : S) (t u : Staging V),
    Spec.withStaging (Spec.withStaging s t) u = Spec.withStaging s u

instance {V : Type} : LawfulSpec (DeleteSpec V) where
  staging_withStaging _ _ := rfl
  withStaging_staging _ := rfl
  withStaging_withStaging _ _ _ := rfl

instance {V : Type} : LawfulSpec (SetSpec V) where
  staging_withStaging _ _ := rfl
  withStaging_staging _ := rfl
  withStaging_withStaging _ _ _ := rfl

namespace Draft

/-- Whether a chain stands at an operator without its comparand. -/
def waits {S : Type} : Draft S → Bool
  | .spec _ => false
  | .comparison _ => true

variable {S V : Type} [Spec S V] [LawfulSpec S]

/-- **One call.** It can be made if it has the comparison it needs, and what it does
to the spec is what it does to the staging. -/
theorem step_eq (d : Draft S) (step : SpecStep V) (h : step.onComparison → d.waits) :
    ∃ next, d.step step = some next ∧ (step.operator?.isSome → next.waits) ∧
      next.toSpec = Spec.withStaging d.toSpec ((Spec.staging d.toSpec).apply step) := by
  cases step with
  | always => exact ⟨_, rfl, nofun, rfl⟩
  | ifEquals => exact ⟨_, rfl, fun _ => rfl, rfl⟩
  | ifNotEquals => exact ⟨_, rfl, fun _ => rfl, rfl⟩
  | value v =>
      cases d with
      | spec s => cases h rfl
      | comparison c => exact ⟨_, rfl, nofun, rfl⟩
  | digest text =>
      cases d with
      | spec s => cases h rfl
      | comparison c => exact ⟨_, rfl, nofun, rfl⟩
  | revert =>
      cases d with
      | spec s => cases h rfl
      | comparison c =>
          exact ⟨_, rfl, nofun, (LawfulSpec.withStaging_staging c.spec).symm⟩

/-- **All calls.** The induction is on the calls still to be made, with the call
made last to say what they may be. -/
theorem steps_eq (d : Draft S) (before : SpecStep V) (steps : List (SpecStep V))
    (hchain : List.IsChain SpecStep.Follows (before :: steps))
    (hwaits : before.operator?.isSome → d.waits) :
    ∃ last, d.steps steps = some last ∧
      last.toSpec = Spec.withStaging d.toSpec (steps.foldl Staging.apply (Spec.staging d.toSpec)) := by
  induction steps generalizing d before with
  | nil => exact ⟨d, rfl, (LawfulSpec.withStaging_staging d.toSpec).symm⟩
  | cons step rest ih =>
      obtain ⟨hstep, hrest⟩ := List.isChain_cons_cons.mp hchain
      obtain ⟨next, hnext, hnextWaits, hspec⟩ := d.step_eq step fun hon => hwaits (hstep hon)
      obtain ⟨last, hlast, hlastSpec⟩ := ih next step hrest hnextWaits
      refine ⟨last, ?_, ?_⟩
      · rw [Draft.steps, hnext]
        exact hlast
      · rw [hlastSpec, hspec, LawfulSpec.staging_withStaging, LawfulSpec.withStaging_withStaging,
          List.foldl_cons]

end Draft

/-! ## Chains on a set -/

namespace SetStep

variable {V : Type}

/-- The call on the comparison, if it is one. -/
def stage? : SetStep V → Option (SpecStep V)
  | .stage step => some step
  | .expire _ => none

/-- The expiration, if it is a call that asks for one. -/
def expiration? : SetStep V → Option Duration
  | .stage _ => none
  | .expire after => some after

def operator? : SetStep V → Option Operator
  | .stage step => step.operator?
  | .expire _ => none

/-- Whether a call is one on a comparison that waits for its comparand. -/
def onComparison : SetStep V → Bool
  | .stage step => step.onComparison
  | .expire _ => false

/-- Whether a call can stand directly after another, as on a delete. -/
def Follows (before next : SetStep V) : Prop := next.onComparison → before.operator?.isSome

instance : DecidableRel (Follows : SetStep V → SetStep V → Prop) :=
  fun before next => inferInstanceAs (Decidable (next.onComparison → before.operator?.isSome))

/-- Whether a chain on a set makes sense. -/
def Sensible (steps : List (SetStep V)) : Prop := List.IsChain Follows (.stage .always :: steps)

instance (steps : List (SetStep V)) : Decidable (Sensible steps) :=
  inferInstanceAs (Decidable (List.IsChain Follows (.stage .always :: steps)))

def stages (steps : List (SetStep V)) : List (SpecStep V) := steps.filterMap stage?

def lastExpiration? (steps : List (SetStep V)) : Option Duration :=
  steps.reverse.findSome? expiration?

theorem lastExpiration?_cons (step : SetStep V) (rest : List (SetStep V)) :
    lastExpiration? (step :: rest) = (lastExpiration? rest).or step.expiration? := by
  rw [lastExpiration?, List.reverse_cons, List.findSome?_append, List.findSome?_singleton]
  rfl

/-- Without the expirations a sensible chain on a set is a sensible chain: nothing
was waiting where one is taken out. -/
theorem stages_isChain {before : SetStep V} {step : SpecStep V} {steps : List (SetStep V)}
    (hchain : List.IsChain Follows (before :: steps))
    (h : before.operator?.isSome → step.operator?.isSome) :
    List.IsChain SpecStep.Follows (step :: stages steps) := by
  induction steps generalizing before step with
  | nil => exact .singleton step
  | cons first rest ih =>
      obtain ⟨hfirst, hrest⟩ := List.isChain_cons_cons.mp hchain
      cases first with
      | stage next => exact .cons_cons (fun hon => h (hfirst hon)) (ih hrest id)
      | expire after => exact ih hrest nofun

end SetStep

namespace Draft

variable {V : Type}

theorem setStep_eq (d : Draft (SetSpec V)) (step : SetStep V) (h : step.onComparison → d.waits) :
    ∃ next, d.setStep step = some next ∧ (step.operator?.isSome → next.waits) ∧
      next.toSpec = ⟨(SetStep.stages [step]).foldl Staging.apply d.toSpec.staging,
        step.expiration?.or d.toSpec.expiration⟩ := by
  cases step with
  | stage step => exact d.step_eq step h
  | expire after => exact ⟨_, rfl, nofun, rfl⟩

/-- **All calls on a set.** They touch the comparison as they would without the
expirations between them, and the expiration asked for last stays. -/
theorem setSteps_eq (d : Draft (SetSpec V)) (before : SetStep V) (steps : List (SetStep V))
    (hchain : List.IsChain SetStep.Follows (before :: steps))
    (hwaits : before.operator?.isSome → d.waits) :
    ∃ last, d.setSteps steps = some last ∧
      last.toSpec = ⟨(SetStep.stages steps).foldl Staging.apply d.toSpec.staging,
        (SetStep.lastExpiration? steps).or d.toSpec.expiration⟩ := by
  induction steps generalizing d before with
  | nil => exact ⟨d, rfl, rfl⟩
  | cons step rest ih =>
      obtain ⟨hstep, hrest⟩ := List.isChain_cons_cons.mp hchain
      obtain ⟨next, hnext, hnextWaits, hspec⟩ := d.setStep_eq step fun hon => hwaits (hstep hon)
      obtain ⟨last, hlast, hlastSpec⟩ := ih next step hrest hnextWaits
      refine ⟨last, ?_, ?_⟩
      · rw [Draft.setSteps, hnext]
        exact hlast
      · rw [hlastSpec, hspec, SetStep.lastExpiration?_cons, Option.or_assoc]
        cases step <;> rfl

end Draft

/-! ## What it comes to -/

/-- A spec decides as these calls say, the ones since the last `always`: whether there
is a condition at all, and which one, with the values serialized for it. -/
structure Spec.Decides {S V : Type} [Spec S V] {m : Type → Type} [Monad m] (s : S)
    (since : List (SpecStep V)) (serialize : V → m (Except CommandError Bytes)) : Prop where
  isConditional : Spec.isConditional s = true ↔ ∃ step ∈ since, step.operator?.isSome
  condition : (Spec.condition s (logged serialize)).run [] = SpecStep.verdict since serialize

section Decides

variable {S V : Type} [Spec S V] {m : Type → Type} [Monad m] [LawfulMonad m]

theorem Spec.decides_of_calls {s : S} {steps : List (SpecStep V)}
    (h : Spec.staging s = steps.foldl Staging.apply {}) (hsteps : SpecStep.Sensible steps)
    (serialize : V → m (Except CommandError Bytes)) :
    Spec.Decides s (SpecStep.sinceAlways steps) serialize := by
  have hholds := Staging.holds_of_calls steps
  have hchosen := SpecStep.operator_of_comparand hsteps
  rw [← h] at hholds
  refine ⟨?_, hholds.condition hchosen serialize⟩
  rw [Spec.isConditional, hholds.isConditional hchosen]
  exact SpecStep.lastOperator?_isSome _

/-- Options are serialized for as the condition in them is. -/
theorem SetSpec.options_run (s : SetSpec V) (serialize : V → m (Except CommandError Bytes)) :
    (s.options (logged serialize)).run [] =
      (fun answer => (answer.1.map fun condition => ⟨condition, s.expiration⟩, answer.2)) <$>
        (Spec.condition s (logged serialize)).run [] := by
  rw [SetSpec.options, StateT.run_bind, map_eq_pure_bind]
  refine bind_congr fun answer => ?_
  rcases answer with ⟨e | condition, log⟩ <;> rfl

end Decides

/--
**What a chain of calls comes to.** Every chain that makes sense can be made, on a
delete and on a set, and the spec it ends at decides as the calls since its last
`always` say: by the operator chosen last and the comparand staged last, with the
serializer called once if that is a value and otherwise not at all. On a set the
expiration is the one asked for last, and no other call has a part in it.
-/
theorem chain_decides_condition {V : Type} {m : Type → Type} [Monad m] [LawfulMonad m]
    (serialize : V → m (Except CommandError Bytes)) :
    (∀ steps : List (SpecStep V), SpecStep.Sensible steps →
      ∃ d, Draft.steps (.spec ({} : DeleteSpec V)) steps = some d ∧
        Spec.Decides d.toSpec (SpecStep.sinceAlways steps) serialize) ∧
    (∀ steps : List (SetStep V), SetStep.Sensible steps →
      ∃ d, Draft.setSteps (.spec ({} : SetSpec V)) steps = some d ∧
        Spec.Decides d.toSpec (SpecStep.sinceAlways (SetStep.stages steps)) serialize ∧
        d.toSpec.expiration = SetStep.lastExpiration? steps ∧
        (d.toSpec.options (logged serialize)).run [] =
          (fun answer => (answer.1.map fun condition =>
              ⟨condition, SetStep.lastExpiration? steps⟩, answer.2)) <$>
            SpecStep.verdict (SpecStep.sinceAlways (SetStep.stages steps)) serialize) := by
  constructor
  · intro steps hsteps
    obtain ⟨d, hd, hspec⟩ := Draft.steps_eq (.spec ({} : DeleteSpec V)) .always steps hsteps nofun
    refine ⟨d, hd, Spec.decides_of_calls ?_ hsteps serialize⟩
    rw [hspec]
    rfl
  · intro steps hsteps
    obtain ⟨d, hd, hspec⟩ := Draft.setSteps_eq (.spec ({} : SetSpec V)) (.stage .always) steps
      hsteps nofun
    have hexpiration : d.toSpec.expiration = SetStep.lastExpiration? steps := by
      rw [hspec]
      exact Option.or_none
    have hdecides : Spec.Decides d.toSpec (SpecStep.sinceAlways (SetStep.stages steps))
        serialize :=
      Spec.decides_of_calls (by rw [hspec]; rfl) (SetStep.stages_isChain hsteps nofun) serialize
    refine ⟨d, hd, hdecides, hexpiration, ?_⟩
    rw [SetSpec.options_run, hexpiration, hdecides.condition]

/-- A value under an operator that was chosen for a digest, and a digest that is all
there is left after an `always`. -/
theorem chain_decides_after_changes :
    (∃ d, Draft.steps (.spec ({} : DeleteSpec String))
        [.ifEquals, .digest "d", .ifNotEquals, .value "v"] = some d ∧
      (Spec.condition d.toSpec (logged (m := Id) Serializer.text.serialize)).run [] =
        (.ok (some ⟨.notEquals, .value (Utf8.encode "v")⟩), ["v"])) ∧
    (∃ d, Draft.setSteps (.spec ({} : SetSpec String))
        [.stage .ifEquals, .stage (.value "v"), .expire ⟨7⟩, .stage .always, .stage .ifEquals,
          .stage (.digest "d"), .stage .ifNotEquals, .stage .revert] = some d ∧
      (Spec.condition d.toSpec (logged (m := Id) Serializer.text.serialize)).run [] =
        (.ok (some ⟨.notEquals, .digest "d"⟩), []) ∧
      d.toSpec.expiration = some ⟨7⟩) := by
  obtain ⟨hdelete, hset⟩ := chain_decides_condition (m := Id) Serializer.text.serialize
  obtain ⟨d, hd, hdecides⟩ :=
    hdelete [.ifEquals, .digest "d", .ifNotEquals, .value "v"] (by decide)
  obtain ⟨e, he, hdecidesSet, hexpiration, -⟩ :=
    hset [.stage .ifEquals, .stage (.value "v"), .expire ⟨7⟩, .stage .always, .stage .ifEquals,
      .stage (.digest "d"), .stage .ifNotEquals, .stage .revert] (by decide)
  exact ⟨⟨d, hd, hdecides.condition⟩, e, he, hdecidesSet.condition, hexpiration⟩

end KeyRelay
