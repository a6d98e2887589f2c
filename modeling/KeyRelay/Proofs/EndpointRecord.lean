import KeyRelay.Proofs.EndpointStep
import Mathlib.Data.List.Chain

/-!
# What an endpoint asks of the world, over all its calls

An endpoint is watched here from its making on. Whatever is called on it, in
whatever order, and whatever it relies on answers, a record is kept of the calls it
makes in its turn (`Errand`). To be watched changes nothing (`Career.of_unwatched`).

Two facts about the record carry everything. First, it is cut in two by the one
registration that succeeded: before it nothing was made but vain attempts to have a
listener, and after it every errand is for the one listener and the one container
that were bound there (`Bound`). Second, the changes to which a container agreed
alternate, because each of them is made at the stage that the one before it left
(`Orderly.last`).
-/

namespace KeyRelay

/-! ## Errands -/

/-- A call that an endpoint makes on what it relies on, with what comes of it. -/
inductive Errand where
  | create (bean method : String) (result : Except ListenerError ListenerId)
  | resolve (resolver : ResolverId) (destination : String) (result : Except ListenerError Topic)
  | subscribe (container : ContainerId) (listener : ListenerId) (topic : Topic)
      (result : Except ListenerError Unit)
  | unsubscribe (container : ContainerId) (listener : ListenerId)
      (result : Except ListenerError Unit)
deriving DecidableEq, Repr

/-- What a container agreed to: to add a listener or to remove it. -/
inductive Change where
  | added (b : Binding)
  | removed (b : Binding)
deriving DecidableEq, Repr

namespace Change

def isAdded : Change → Bool
  | .added _ => true
  | .removed _ => false

def binding : Change → Binding
  | .added b => b
  | .removed b => b

end Change

/-- What a container agreed to, if this was a call on one and it did. -/
def Errand.change? : Errand → Option Change
  | .subscribe container listener _ (.ok ()) => some (.added ⟨container, listener⟩)
  | .unsubscribe container listener (.ok ()) => some (.removed ⟨container, listener⟩)
  | _ => none

/-- Whether an errand is one that a registered endpoint may make. -/
def Errand.Serves (b : Binding) : Errand → Prop
  | .create .. => False
  | .resolve .. => True
  | .subscribe container listener _ _ => container = b.container ∧ listener = b.listener
  | .unsubscribe container listener _ => container = b.container ∧ listener = b.listener

theorem Errand.Serves.binding {b : Binding} {errand : Errand} (h : errand.Serves b)
    {change : Change} (hchange : errand.change? = some change) : change.binding = b := by
  cases errand with
  | create bean method result => exact absurd h id
  | resolve resolver destination result => exact absurd hchange (by simp [change?])
  | subscribe container listener topic result =>
      obtain ⟨rfl, rfl⟩ := h
      cases result with
      | error _ => exact absurd hchange (by simp [change?])
      | ok _ => obtain rfl := Option.some.inj hchange; rfl
  | unsubscribe container listener result =>
      obtain ⟨rfl, rfl⟩ := h
      cases result with
      | error _ => exact absurd hchange (by simp [change?])
      | ok _ => obtain rfl := Option.some.inj hchange; rfl

section

variable {W : Type}

/-- An effect that is written down with what comes of it. -/
def noted {A : Type} (effect : StateM W A) (errand : A → Errand) : StateM (W × List Errand) A :=
  fun (w, errands) =>
    let (a, w') := effect.run w
    (a, (w', errands ++ [errand a]))

/-- What endpoints rely on, with every call written down. -/
def Environment.noting (env : Environment W) : Environment (W × List Errand) where
  create bean method := noted (env.create bean method) (.create bean method)
  resolve resolver destination :=
    noted (env.resolve resolver destination) (.resolve resolver destination)
  subscribe container listener topic :=
    noted (env.subscribe container listener topic) (.subscribe container listener topic)
  unsubscribe container listener :=
    noted (env.unsubscribe container listener) (.unsubscribe container listener)

theorem noted_run {A : Type} {effect : StateM W A} {errand : A → Errand} {s s' : W × List Errand}
    {a : A} (h : (noted effect errand).run s = (a, s')) :
    effect.run s.1 = (a, s'.1) ∧ s'.2 = s.2 ++ [errand a] := by
  have hrun : (noted effect errand).run s =
      ((effect.run s.1).1, ((effect.run s.1).2, s.2 ++ [errand (effect.run s.1).1])) := rfl
  rw [hrun] at h
  obtain ⟨rfl, rfl⟩ := Prod.mk.inj h
  exact ⟨rfl, rfl⟩

/-! ## The record -/

/-- A call on an endpoint, its result, and the errands that it took. -/
structure Turn where
  call : EndpointCall
  result : Except ListenerError Unit
  errands : List Errand
deriving DecidableEq, Repr

def Turn.changes (t : Turn) : List Change := t.errands.filterMap Errand.change?

/-- How far an endpoint has come, and how. -/
structure Career (W : Type) where
  turns : List Turn
  endpoint : Endpoint
  world : W

namespace Career

def extend (env : Environment W) (c : Career W) (call : EndpointCall) : Career W :=
  let out := (c.endpoint.call env.noting call).run (c.world, [])
  ⟨c.turns ++ [⟨call, out.1.1, out.2.2⟩], out.1.2, out.2.1⟩

/-- The career of an endpoint on which these calls are made, one after the other. -/
def of (env : Environment W) (e : Endpoint) (w : W) (calls : List EndpointCall) : Career W :=
  calls.foldl (extend env) ⟨[], e, w⟩

/-- All that containers agreed to, in order. -/
def changes (c : Career W) : List Change := c.turns.flatMap Turn.changes

end Career

/-- The turns of an endpoint that is not registered: no listener was had, and nothing was asked of a
resolver or a container. -/
def Turn.Fruitless (e : Endpoint) (t : Turn) : Prop :=
  (∀ errand ∈ t.errands, ∃ failure, errand = .create e.bean e.method (.error failure)) ∧
    ∀ container, t.call = .register container → ∃ failure, t.result = .error failure

/-- The turns of an endpoint that is registered: no listener is asked for any more, and what is
asked of a container is asked of the one that it is bound to, for the listener that it has. -/
def Turn.Serves (e : Endpoint) (b : Binding) (t : Turn) : Prop :=
  (∀ errand ∈ t.errands, errand.Serves b) ∧
    ∀ container, t.call = .register container →
      t.result = .error (.alreadyRegistered e.id) ∧ t.errands = []

def Turn.Suits (e : Endpoint) (t : Turn) : Option Binding → Prop
  | none => t.Fruitless e
  | some b => t.Serves e b

theorem Turn.suits_of_idle {e : Endpoint} {t : Turn} {b : Option Binding}
    (hcall : ∀ container, t.call ≠ .register container) (herrands : t.errands = []) :
    t.Suits e b := by
  cases b with
  | none => exact ⟨by simp [herrands], fun container h => absurd h (hcall container)⟩
  | some b => exact ⟨by simp [herrands], fun container h => absurd h (hcall container)⟩

theorem Turn.suits_of_errands {e : Endpoint} {t : Turn} {binding : Option Binding} {b : Binding}
    (hb : binding = some b) (hcall : ∀ container, t.call ≠ .register container)
    (herrands : ∀ errand ∈ t.errands, errand.Serves b) : t.Suits e binding := by
  rw [hb]
  exact ⟨herrands, fun container h => absurd h (hcall container)⟩

/-- The turn in which an endpoint is registered. -/
def Turn.registration (e : Endpoint) (b : Binding) : Turn :=
  ⟨.register b.container, .ok (), [.create e.bean e.method (.ok b.listener)]⟩

/-- What a record shows of an endpoint's binding: that there is none, or the one turn in which it
came about. -/
def Bound (e : Endpoint) (turns : List Turn) : Option Binding → Prop
  | none => ∀ t ∈ turns, t.Fruitless e
  | some b => ∃ before after, turns = before ++ .registration e b :: after ∧
      (∀ t ∈ before, t.Fruitless e) ∧ ∀ t ∈ after, t.Serves e b

theorem Bound.concat {e : Endpoint} {turns : List Turn} {b : Option Binding}
    (h : Bound e turns b) {t : Turn} (ht : t.Suits e b) : Bound e (turns ++ [t]) b := by
  cases b with
  | none =>
      intro other hother
      rcases List.mem_append.mp hother with hin | hin
      · exact h other hin
      · obtain rfl := List.mem_singleton.mp hin
        exact ht
  | some b =>
      obtain ⟨before, after, rfl, hbefore, hafter⟩ := h
      refine ⟨before, after ++ [t], by simp, hbefore, ?_⟩
      intro other hother
      rcases List.mem_append.mp hother with hin | hin
      · exact hafter other hin
      · obtain rfl := List.mem_singleton.mp hin
        exact ht

theorem Bound.register {e : Endpoint} {turns : List Turn} (h : Bound e turns none) (b : Binding) :
    Bound e (turns ++ [.registration e b]) (some b) :=
  ⟨turns, [], rfl, h, by simp⟩

/-- What containers agreed to was agreed to for the binding. -/
theorem Bound.binding {e : Endpoint} {turns : List Turn} {b : Option Binding}
    (h : Bound e turns b) {change : Change} (hchange : change ∈ turns.flatMap Turn.changes) :
    some change.binding = b := by
  obtain ⟨t, ht, hin⟩ := List.mem_flatMap.mp hchange
  obtain ⟨errand, herrand, heq⟩ := List.mem_filterMap.mp hin
  have fruitless : t.Fruitless e → False := by
    intro hf
    obtain ⟨failure, rfl⟩ := hf.1 errand herrand
    exact absurd heq (by simp [Errand.change?])
  cases b with
  | none => exact absurd (h t ht) fruitless
  | some b =>
      obtain ⟨before, after, rfl, hbefore, hafter⟩ := h
      rcases List.mem_append.mp ht with hin | hin
      · exact absurd (hbefore t hin) fruitless
      · rcases List.mem_cons.mp hin with rfl | hin
        · obtain rfl := List.mem_singleton.mp herrand
          exact absurd heq (by simp [Errand.change?])
        · exact congrArg some (((hafter t hin).1 errand herrand).binding heq)

/-! ## Changes alternate -/

/-- The first change, if there is one, adds, and of two that follow each other one adds and one
removes. -/
def Alternating (changes : List Change) : Prop :=
  (∀ first ∈ changes.head?, first.isAdded = true) ∧
    changes.IsChain fun one next => next.isAdded = !one.isAdded

/-- The last change, if there is one, adds. -/
def EndsAdded (changes : List Change) : Prop := ∃ b, changes.getLast? = some (.added b)

theorem Alternating.concat {changes : List Change} (h : Alternating changes) {change : Change}
    (hdue : change.isAdded = true ↔ ¬ EndsAdded changes) : Alternating (changes ++ [change]) := by
  constructor
  · intro first hfirst
    cases changes with
    | nil =>
        obtain rfl : change = first := by simpa using hfirst
        exact hdue.mpr (by simp [EndsAdded])
    | cons one rest => exact h.1 first (by simpa using hfirst)
  · rw [List.isChain_append]
    refine ⟨h.2, List.isChain_singleton _, ?_⟩
    intro last hlast next hnext
    obtain rfl : change = next := by simpa using hnext
    cases last with
    | added b =>
        have : ¬ change.isAdded = true := fun hadded => hdue.mp hadded ⟨b, hlast⟩
        simpa [Change.isAdded] using this
    | removed b =>
        refine hdue.mpr ?_
        rintro ⟨b', hb'⟩
        rw [hb'] at hlast
        exact absurd (Option.some.inj hlast) (by simp)

theorem endsAdded_concat (changes : List Change) (change : Change) :
    EndsAdded (changes ++ [change]) ↔ change.isAdded = true := by
  unfold EndsAdded
  rw [List.getLast?_concat]
  cases change <;> simp [Change.isAdded]

/-! ## What every call keeps -/

/-- What the record of an endpoint says about it, and it about the record. -/
structure Orderly (e : Endpoint) (c : Career W) : Prop where
  /-- It is still the endpoint that it was made as. -/
  id : c.endpoint.id = e.id
  bean : c.endpoint.bean = e.bean
  method : c.endpoint.method = e.method
  /-- What is told to those who only ask is right. -/
  flag : c.endpoint.isRunning = true ↔ ∃ b, c.endpoint.stage = .running b
  /-- A container has its listener exactly if it is running. -/
  last : c.endpoint.isRunning = true ↔ EndsAdded c.changes
  alternating : Alternating c.changes
  bound : Bound e c.turns c.endpoint.lifecycle.binding?

namespace Orderly

theorem start {e : Endpoint} (hnew : e.lifecycle = .unregistered) (w : W) :
    Orderly e ⟨[], e, w⟩ where
  id := rfl
  bean := rfl
  method := rfl
  flag := by simp [Endpoint.isRunning, Endpoint.stage, hnew, Lifecycle.unregistered]
  last := by
    simp [Endpoint.isRunning, hnew, Lifecycle.unregistered, EndsAdded, Career.changes]
  alternating := ⟨by simp [Career.changes], List.isChain_nil⟩
  bound := by
    rw [hnew]
    intro t ht
    exact absurd ht List.not_mem_nil

variable {e : Endpoint} {c : Career W}

theorem changes_concat (c : Career W) (t : Turn) (e' : Endpoint) (w' : W) :
    Career.changes ⟨c.turns ++ [t], e', w'⟩ = c.changes ++ t.changes := by
  simp [Career.changes]

/-- A turn in which no container agreed to anything, and the endpoint stayed as it was. -/
theorem quiet (h : Orderly e c) {t : Turn} (hchanges : t.changes = [])
    (ht : t.Suits e c.endpoint.lifecycle.binding?) (w' : W) :
    Orderly e ⟨c.turns ++ [t], c.endpoint, w'⟩ where
  id := h.id
  bean := h.bean
  method := h.method
  flag := h.flag
  last := by rw [changes_concat, hchanges, List.append_nil]; exact h.last
  alternating := by rw [changes_concat, hchanges, List.append_nil]; exact h.alternating
  bound := h.bound.concat ht

/-- The turn in which the endpoint was registered. -/
theorem register (h : Orderly e c) (hstage : c.endpoint.stage = .unregistered) (b : Binding)
    (w' : W) :
    Orderly e ⟨c.turns ++ [.registration e b], c.endpoint.reach (.registered b), w'⟩ := by
  have hidle : c.endpoint.isRunning ≠ true := by
    rw [ne_eq, h.flag, hstage]
    simp
  have hunbound : c.endpoint.lifecycle.binding? = none := congrArg Stage.binding? hstage
  have hchanges : (Turn.registration e b).changes = [] := rfl
  refine ⟨h.id, h.bean, h.method, ?_, ?_, ?_, ?_⟩
  · exact iff_of_false hidle (by simp [Endpoint.stage, Endpoint.reach])
  · rw [changes_concat, hchanges, List.append_nil]
    exact h.last
  · rw [changes_concat, hchanges, List.append_nil]
    exact h.alternating
  · exact (hunbound ▸ h.bound).register b

/-- A turn in which a container agreed to a change, and the endpoint went to another stage. -/
theorem change (h : Orderly e c) {t : Turn} (change : Change) (stage : Stage)
    (hchanges : t.changes = [change]) (hdue : change.isAdded = true ↔ c.endpoint.isRunning ≠ true)
    (ht : t.Suits e c.endpoint.lifecycle.binding?)
    (hbinding : stage.binding? = c.endpoint.lifecycle.binding?)
    (hstage : change.isAdded = true ↔ ∃ b, stage = .running b) (w' : W) :
    Orderly e ⟨c.turns ++ [t], (c.endpoint.reach stage).tell change.isAdded, w'⟩ where
  id := h.id
  bean := h.bean
  method := h.method
  flag := hstage
  last := by rw [changes_concat, hchanges, endsAdded_concat]; exact Iff.rfl
  alternating := by
    rw [changes_concat, hchanges]
    exact h.alternating.concat (hdue.trans (not_congr h.last))
  bound := by
    show Bound e _ stage.binding?
    rw [hbinding]
    exact h.bound.concat ht

end Orderly

/-- **Every call keeps the record orderly.** -/
theorem Orderly.extend {e : Endpoint} {c : Career W} (h : Orderly e c) (env : Environment W)
    (call : EndpointCall) : Orderly e (c.extend env call) := by
  have hstep := Endpoint.step_call env.noting c.endpoint call (c.world, [])
  have hextend : c.extend env call =
      ⟨c.turns ++ [⟨call, ((c.endpoint.call env.noting call).run (c.world, [])).1.1,
          ((c.endpoint.call env.noting call).run (c.world, [])).2.2⟩],
        ((c.endpoint.call env.noting call).run (c.world, [])).1.2,
        ((c.endpoint.call env.noting call).run (c.world, [])).2.1⟩ := rfl
  rw [hextend]
  generalize (c.endpoint.call env.noting call).run (c.world, []) = out at hstep ⊢
  obtain ⟨⟨result, e'⟩, w', errands⟩ := out
  dsimp only at hstep ⊢
  cases hstep with
  | @unmade container failure _ hstage hcreate =>
      obtain ⟨-, rfl⟩ := noted_run hcreate
      have hbinding : c.endpoint.lifecycle.binding? = none := congrArg Stage.binding? hstage
      refine h.quiet rfl ?_ w'
      rw [hbinding]
      refine ⟨?_, fun _ _ => ⟨failure, rfl⟩⟩
      intro errand herrand
      obtain rfl := List.mem_singleton.mp herrand
      exact ⟨failure, by rw [h.bean, h.method]⟩
  | @registered container listener _ hstage hcreate =>
      obtain ⟨-, rfl⟩ := noted_run hcreate
      have hturn := h.register hstage ⟨container, listener⟩ w'
      rw [Turn.registration, ← h.bean, ← h.method] at hturn
      exact hturn
  | again hstage =>
      -- an endpoint that left its first stage has a binding, and so no listener is asked for
      refine h.quiet rfl ?_ _
      obtain ⟨b, hb⟩ := Stage.exists_binding hstage
      have hbinding : c.endpoint.lifecycle.binding? = some b := hb
      rw [hbinding, h.id]
      exact ⟨by simp, fun _ _ => ⟨rfl, rfl⟩⟩
  | early hstage => exact h.quiet rfl (Turn.suits_of_idle (by simp) rfl) _
  | running hstage => exact h.quiet rfl (Turn.suits_of_idle (by simp) rfl) _
  | unresolved hb hresolve =>
      obtain ⟨-, rfl⟩ := noted_run hresolve
      obtain ⟨hbinding, -⟩ := Stage.binding?_of_startable hb
      refine h.quiet rfl (Turn.suits_of_errands hbinding (by simp) ?_) w'
      simp [Errand.Serves]
  | refused hb hresolve hsubscribe =>
      obtain ⟨-, hfirst⟩ := noted_run hresolve
      obtain ⟨-, rfl⟩ := noted_run hsubscribe
      obtain ⟨hbinding, -⟩ := Stage.binding?_of_startable hb
      -- two errands are on record, and no container agreed to anything
      rw [hfirst]
      refine h.quiet rfl (Turn.suits_of_errands hbinding (by simp) ?_) w'
      simp [Errand.Serves]
  | @started b topic _ _ hb hresolve hsubscribe =>
      obtain ⟨-, hfirst⟩ := noted_run hresolve
      obtain ⟨-, rfl⟩ := noted_run hsubscribe
      obtain ⟨hbinding, hidle⟩ := Stage.binding?_of_startable hb
      rw [hfirst]
      refine h.change (.added b) (.running b) rfl ?_
        (Turn.suits_of_errands hbinding (by simp) ?_) hbinding.symm ?_ w'
      · rw [ne_eq, h.flag]
        exact iff_of_true rfl fun ⟨b', hb'⟩ => hidle b' hb'
      · simp [Errand.Serves]
      · exact iff_of_true rfl ⟨b, rfl⟩
  | idle hstage => exact h.quiet rfl (Turn.suits_of_idle (by simp) rfl) _
  | @kept b _ _ hstage hunsubscribe =>
      obtain ⟨-, rfl⟩ := noted_run hunsubscribe
      have hbinding : c.endpoint.stage.binding? = some b := by rw [hstage]; rfl
      refine h.quiet rfl (Turn.suits_of_errands hbinding (by simp) ?_) w'
      simp [Errand.Serves]
  | @stopped b _ hstage hunsubscribe =>
      obtain ⟨-, rfl⟩ := noted_run hunsubscribe
      have hbinding : c.endpoint.stage.binding? = some b := by rw [hstage]; rfl
      refine h.change (.removed b) (.stopped b) rfl ?_
        (Turn.suits_of_errands hbinding (by simp) ?_) hbinding.symm ?_ w'
      · rw [ne_eq, h.flag]
        exact iff_of_false (by simp [Change.isAdded]) fun hidle => hidle ⟨b, hstage⟩
      · simp [Errand.Serves]
      · simp [Change.isAdded]

theorem Orderly.of {e : Endpoint} (hnew : e.lifecycle = .unregistered) (env : Environment W) (w : W)
    (calls : List EndpointCall) : Orderly e (Career.of env e w calls) := by
  unfold Career.of
  have key : ∀ c : Career W, Orderly e c → Orderly e (calls.foldl (Career.extend env) c) := by
    induction calls with
    | nil => intro c h; exact h
    | cons call rest ih => intro c h; exact ih (c.extend env call) (h.extend env call)
  exact key _ (Orderly.start hnew w)

/-! ## To be watched changes nothing -/

theorem Endpoint.Step.unnoted {env : Environment W} {e e' : Endpoint} {s s' : W × List Errand}
    {call : EndpointCall} {result : Except ListenerError Unit}
    (h : Endpoint.Step env.noting e s call result e' s') :
    Endpoint.Step env e s.1 call result e' s'.1 := by
  cases h with
  | unmade hstage hcreate => exact .unmade hstage (noted_run hcreate).1
  | registered hstage hcreate => exact .registered hstage (noted_run hcreate).1
  | again hstage => exact .again hstage
  | early hstage => exact .early hstage
  | running hstage => exact .running hstage
  | unresolved hb hresolve => exact .unresolved hb (noted_run hresolve).1
  | refused hb hresolve hsubscribe =>
      exact .refused hb (noted_run hresolve).1 (noted_run hsubscribe).1
  | started hb hresolve hsubscribe =>
      exact .started hb (noted_run hresolve).1 (noted_run hsubscribe).1
  | idle hstage => exact .idle hstage
  | kept hstage hunsubscribe => exact .kept hstage (noted_run hunsubscribe).1
  | stopped hstage hunsubscribe => exact .stopped hstage (noted_run hunsubscribe).1

/-- An endpoint on which calls are made one after the other, and the world after them. -/
def Endpoint.makeCalls (env : Environment W) (e : Endpoint) (w : W) (calls : List EndpointCall) :
    Endpoint × W :=
  calls.foldl (fun (e, w) call =>
    let out := (e.call env call).run w
    (out.1.2, out.2)) (e, w)

theorem Career.of_unwatched (env : Environment W) (e : Endpoint) (w : W)
    (calls : List EndpointCall) :
    e.makeCalls env w calls =
      ((Career.of env e w calls).endpoint, (Career.of env e w calls).world) := by
  unfold Endpoint.makeCalls Career.of
  have key : ∀ c : Career W,
      calls.foldl (fun (e, w) call =>
          let out := (Endpoint.call env e call).run w
          (out.1.2, out.2)) (c.endpoint, c.world) =
        ((calls.foldl (Career.extend env) c).endpoint,
          (calls.foldl (Career.extend env) c).world) := by
    induction calls with
    | nil => intro c; rfl
    | cons call rest ih =>
        intro c
        -- the watched call is a step, and a step unwatched is what the plain call comes to
        have hrun :=
          (Endpoint.step_call env.noting c.endpoint call (c.world, [])).unnoted.run_eq
        rw [List.foldl_cons, List.foldl_cons, ← ih (c.extend env call)]
        dsimp only
        rw [hrun]
        rfl
  exact key ⟨[], e, w⟩

/-! ## From the beginning -/

/--
**The record of an endpoint.** Let calls be made on a new endpoint, whatever it relies on may answer
to each of them.

* What containers agreed to alternates, beginning with an addition.
* Up to the one registration that succeeded, no more than listeners were asked for, and none was
  had; from then on none is asked for, and all that is asked of a container is asked of the one that
  was given then, for the one listener that was made then. Every further registration fails.
* The endpoint is said to be running exactly if that is its stage, and exactly if the last thing to
  which a container agreed was to add its listener.
* A call that fails leaves the endpoint as it was. To start what is running and to stop what is not
  is to do nothing.
-/
theorem endpoint_calls_in_order (env : Environment W) (e : Endpoint)
    (hnew : e.lifecycle = .unregistered) (w : W) (calls : List EndpointCall) :
    let c := Career.of env e w calls
    e.makeCalls env w calls = (c.endpoint, c.world) ∧
    Alternating c.changes ∧
    Bound e c.turns c.endpoint.lifecycle.binding? ∧
    (∀ change ∈ c.changes, some change.binding = c.endpoint.lifecycle.binding?) ∧
    (c.endpoint.isRunning = true ↔ ∃ b, c.endpoint.stage = .running b) ∧
    (c.endpoint.isRunning = true ↔ EndsAdded c.changes) ∧
    (∀ call failure e' w',
      (c.endpoint.call env call).run c.world = ((.error failure, e'), w') → e' = c.endpoint) ∧
    (c.endpoint.isRunning = true → c.endpoint.start env = pure (.ok (), c.endpoint)) ∧
    (c.endpoint.isRunning = false → c.endpoint.stop env = pure (.ok (), c.endpoint)) ∧
    (c.endpoint.lifecycle.binding?.isSome = true → ∀ container,
      c.endpoint.register env container =
        pure (.error (.alreadyRegistered e.id), c.endpoint)) := by
  intro c
  have h : Orderly e c := Orderly.of hnew env w calls
  refine ⟨Career.of_unwatched env e w calls, h.alternating, h.bound,
    fun change hchange => h.bound.binding hchange, h.flag, h.last, ?_, ?_, ?_, ?_⟩
  · intro call failure e' w' hrun
    exact (Endpoint.Step.of_run hrun).eq_of_error
  · intro hrunning
    obtain ⟨b, hb⟩ := h.flag.mp hrunning
    exact Endpoint.start_eq hb
  · intro hidle
    refine Endpoint.stop_eq fun b hb => ?_
    rw [h.flag.mpr ⟨b, hb⟩] at hidle
    exact absurd hidle (by simp)
  · intro hbound container
    rw [← h.id]
    refine Endpoint.register_eq fun hstage => ?_
    have hnone : c.endpoint.lifecycle.binding? = none := congrArg Stage.binding? hstage
    rw [hnone] at hbound
    exact absurd hbound (by simp)

end

/-! A world that is no more than a list of which calls succeed, and one endpoint's career in it. -/

/-- An effect that fails if the list in front of it says so. -/
def foretold {A : Type} (a : A) : StateM (List Bool) (Except ListenerError A)
  | [] => (.ok a, [])
  | succeeds :: rest => (if succeeds then .ok a else .error (.container "refused"), rest)

def Environment.foretold : Environment (List Bool) where
  create _ _ := KeyRelay.foretold (.adapter 0)
  resolve _ destination := KeyRelay.foretold (.channel destination)
  subscribe _ _ _ := KeyRelay.foretold ()
  unsubscribe _ _ := KeyRelay.foretold ()

/-- A handler that is missing at first, and a container that refuses once to add and once to
remove. -/
theorem endpoint_calls_in_order_refused :
    let e : Endpoint := { id := "e", topic := "t", bean := "b", method := "m", resolver := 0 }
    let c := Career.of .foretold e [false, true, true, false, true, true, false, true]
      [.start, .register "x", .register "c", .start, .start, .register "d", .stop, .stop, .start]
    e.lifecycle = .unregistered ∧
      c.changes = [.added ⟨"c", .adapter 0⟩, .removed ⟨"c", .adapter 0⟩,
        .added ⟨"c", .adapter 0⟩] ∧
      Alternating c.changes ∧ (c.endpoint.isRunning = true ↔ EndsAdded c.changes) := by
  intro e c
  obtain ⟨-, halternating, -, -, -, hlast, -⟩ := endpoint_calls_in_order .foretold e rfl
    [false, true, true, false, true, true, false, true]
    [.start, .register "x", .register "c", .start, .start, .register "d", .stop, .stop, .start]
  exact ⟨rfl, by decide, halternating, hlast⟩

end KeyRelay
