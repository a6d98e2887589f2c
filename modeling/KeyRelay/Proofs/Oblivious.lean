import KeyRelay.Listener.Registrar
import KeyRelay.Proofs.RegistrySweep

/-!
# Programs that cannot tell worlds apart

Two worlds may differ in ways that an endpoint's environment never shows. A program that
sees the world only through that environment then comes to the same in both, and leaves
them as much alike as they were (`Oblivious`). The environment has to be oblivious of the
difference itself, call by call; from there it goes up along the programs: calls on
endpoints, registries, registrars. No proof here knows what the difference is.
-/

namespace KeyRelay

variable {W A B : Type} {R : W → W → Prop}

/-- A program that cannot tell related worlds apart: it comes to the same in both, and leaves worlds
that are related again. -/
def Oblivious (R : W → W → Prop) (program : StateM W A) : Prop :=
  ∀ w w', R w w' →
    (program.run w).1 = (program.run w').1 ∧ R (program.run w).2 (program.run w').2

namespace Oblivious

theorem pure (a : A) : Oblivious R (Pure.pure a : StateM W A) := fun _ _ h => ⟨rfl, h⟩

theorem bind {program : StateM W A} {next : A → StateM W B} (h : Oblivious R program)
    (hnext : ∀ a, Oblivious R (next a)) : Oblivious R (program >>= next) := by
  intro w w' hw
  obtain ⟨hanswer, hrelated⟩ := h w w' hw
  rcases hrun : program.run w with ⟨a, w₁⟩
  rcases hrun' : program.run w' with ⟨a', w₁'⟩
  rw [hrun, hrun'] at hanswer hrelated
  obtain rfl : a = a' := hanswer
  rw [run_bind_of hrun, run_bind_of hrun']
  exact hnext a w₁ w₁' hrelated

end Oblivious

/-- An environment whose every call is oblivious. -/
structure Environment.Oblivious (env : Environment W) (R : W → W → Prop) : Prop where
  create : ∀ bean method, KeyRelay.Oblivious R (env.create bean method)
  resolve : ∀ resolver destination, KeyRelay.Oblivious R (env.resolve resolver destination)
  subscribe : ∀ container listener topic,
    KeyRelay.Oblivious R (env.subscribe container listener topic)
  unsubscribe : ∀ container listener, KeyRelay.Oblivious R (env.unsubscribe container listener)

variable {env : Environment W}

/-! ## Endpoints -/

namespace Endpoint

theorem oblivious_register (henv : env.Oblivious R) (e : Endpoint) (container : ContainerId) :
    Oblivious R (e.register env container) := by
  unfold register
  split
  · refine (henv.create _ _).bind fun made => ?_
    cases made with
    | error _ => exact .pure _
    | ok _ => exact .pure _
  · exact .pure _

theorem oblivious_launch (henv : env.Oblivious R) (e : Endpoint) (b : Binding) :
    Oblivious R (e.launch env b) := by
  unfold launch
  refine (henv.resolve _ _).bind fun resolved => ?_
  cases resolved with
  | error _ => exact .pure _
  | ok topic =>
      refine (henv.subscribe _ _ _).bind fun subscribed => ?_
      cases subscribed with
      | error _ => exact .pure _
      | ok _ => exact .pure _

theorem oblivious_start (henv : env.Oblivious R) (e : Endpoint) :
    Oblivious R (e.start env) := by
  unfold start
  cases e.stage with
  | unregistered => exact .pure _
  | running _ => exact .pure _
  | registered b => exact e.oblivious_launch henv b
  | stopped b => exact e.oblivious_launch henv b

theorem oblivious_stop (henv : env.Oblivious R) (e : Endpoint) : Oblivious R (e.stop env) := by
  unfold stop
  split
  · refine (henv.unsubscribe _ _).bind fun released => ?_
    cases released with
    | error _ => exact .pure _
    | ok _ => exact .pure _
  · exact .pure _

theorem oblivious_call (henv : env.Oblivious R) (e : Endpoint) (call : EndpointCall) :
    Oblivious R (e.call env call) := by
  cases call with
  | register container => exact e.oblivious_register henv container
  | start => exact e.oblivious_start henv
  | stop => exact e.oblivious_stop henv

end Endpoint

/-! ## Registries -/

namespace Registry

theorem oblivious_registerListener (henv : env.Oblivious R) (r : Registry) (e : Endpoint)
    (container : ContainerId) : Oblivious R (r.registerListener env e container) := by
  unfold registerListener
  split
  · exact .pure _
  · refine (e.oblivious_register henv container).bind fun registered => ?_
    obtain ⟨result, e⟩ := registered
    cases result with
    | error _ => exact .pure _
    | ok _ =>
        dsimp only
        split
        · exact (e.oblivious_start henv).bind fun _ => .pure _
        · exact .pure _

theorem oblivious_switchEach (henv : env.Oblivious R) (on : Bool) (es : List Endpoint) :
    Oblivious R (switchEach env on es) := by
  induction es with
  | nil => exact .pure _
  | cons e rest ih =>
      unfold switchEach
      split
      · exact ih.bind fun _ => .pure _
      · refine (e.oblivious_call henv _).bind fun called => ?_
        refine ih.bind fun _ => ?_
        obtain ⟨result, e⟩ := called
        cases result with
        | error _ => exact .pure _
        | ok _ => exact .pure _

theorem oblivious_switch (henv : env.Oblivious R) (r : Registry) (on : Bool) :
    Oblivious R (r.switch env on) :=
  (oblivious_switchEach henv on r.endpoints).bind fun _ => .pure _

theorem oblivious_callOne (henv : env.Oblivious R) (r : Registry) (id : String)
    (call : EndpointCall) : Oblivious R (r.callOne env id call) := by
  unfold callOne
  split
  · exact .pure _
  · exact (Endpoint.oblivious_call henv _ call).bind fun _ => .pure _

end Registry

/-! ## Registrars -/

namespace Registrar

theorem oblivious_register (henv : env.Oblivious R) (r : Registrar) (registry : Registry)
    (d : Definition) : Oblivious R (r.register env registry d) := by
  unfold register
  split
  · exact .pure _
  · exact (registry.oblivious_registerListener henv _ _).bind fun _ => .pure _

theorem oblivious_registerAll (henv : env.Oblivious R) (r : Registrar) (registry : Registry)
    (ds : List Definition) : Oblivious R (r.registerAll env registry ds) := by
  induction ds generalizing r registry with
  | nil => exact .pure _
  | cons d rest ih =>
      unfold registerAll
      refine (r.oblivious_register henv registry d).bind fun registered => ?_
      obtain ⟨result, r, registry⟩ := registered
      cases result with
      | error _ => exact .pure _
      | ok _ => exact (ih r registry).bind fun _ => .pure _

end Registrar

end KeyRelay
