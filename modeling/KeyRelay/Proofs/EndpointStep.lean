import KeyRelay.Listener.Endpoint

/-!
# What a call on an endpoint does

An endpoint can be registered, started and stopped, and what it relies on may fail
at every turn. `Endpoint.Step` lists what such a call can come to, once for all that
is proved about endpoints: the stage it needs, the calls it makes in their order,
and the result, the endpoint and the world that it leaves. `Endpoint.step_call` says
that the list is complete.
-/

namespace KeyRelay

/-- A call on an endpoint. -/
inductive EndpointCall where
  | register (container : ContainerId)
  | start
  | stop
deriving DecidableEq, Repr

/-- What an endpoint is bound to that could be started. -/
def Stage.startable? : Stage → Option Binding
  | .registered b => some b
  | .stopped b => some b
  | _ => none

theorem Stage.binding?_of_startable {stage : Stage} {b : Binding} (h : stage.startable? = some b) :
    stage.binding? = some b ∧ ∀ b', stage ≠ .running b' := by
  cases stage with
  | unregistered => exact absurd h (by simp [startable?])
  | running _ => exact absurd h (by simp [startable?])
  | registered _ => exact ⟨h, by simp⟩
  | stopped _ => exact ⟨h, by simp⟩

theorem Stage.exists_binding {stage : Stage} (h : stage ≠ .unregistered) :
    ∃ b, stage.binding? = some b := by
  cases stage with
  | unregistered => exact absurd rfl h
  | registered b => exact ⟨b, rfl⟩
  | running b => exact ⟨b, rfl⟩
  | stopped b => exact ⟨b, rfl⟩

/-- What an endpoint is bound to while it runs. -/
def Endpoint.active? (e : Endpoint) : Option Binding :=
  match e.stage with
  | .running b => some b
  | _ => none

theorem Endpoint.active?_of_running {e : Endpoint} {b : Binding} (h : e.stage = .running b) :
    e.active? = some b := by
  unfold active?
  rw [h]

theorem Endpoint.active?_of_not_running {e : Endpoint} (h : ∀ b, e.stage ≠ .running b) :
    e.active? = none := by
  unfold active?
  split
  · exact absurd ‹_› (h _)
  · rfl

theorem Endpoint.isSome_active? {e : Endpoint} :
    e.active?.isSome ↔ ∃ b, e.stage = .running b := by
  unfold active?
  cases e.stage <;> simp

theorem Endpoint.binding?_of_active {e : Endpoint} {b : Binding} (h : e.active? = some b) :
    e.lifecycle.binding? = some b := by
  unfold active? at h
  split at h
  · rename_i hstage
    obtain rfl := Option.some.inj h
    exact congrArg Stage.binding? hstage
  · exact absurd h (by simp)

/-- To go on with what a first effect came to, in the world that it left. -/
theorem run_bind_of {W A B : Type} {effect : StateM W A} {next : A → StateM W B} {w w' : W} {a : A}
    (h : effect.run w = (a, w')) : (effect >>= next).run w = (next a).run w' := by
  rw [StateT.run_bind, h]
  rfl

namespace Endpoint

variable {W : Type} (env : Environment W)

def call (e : Endpoint) : EndpointCall → StateM W (Except ListenerError Unit × Endpoint)
  | .register container => e.register env container
  | .start => e.start env
  | .stop => e.stop env

/-- A call on an endpoint in a world, and the result, the endpoint and the world after it. -/
inductive Step (e : Endpoint) (w : W) :
    EndpointCall → Except ListenerError Unit → Endpoint → W → Prop where
  /-- No listener could be made. -/
  | unmade {container : ContainerId} {failure : ListenerError} {w' : W} :
      e.stage = .unregistered → (env.create e.bean e.method).run w = (.error failure, w') →
      Step e w (.register container) (.error failure) e w'
  | registered {container : ContainerId} {listener : ListenerId} {w' : W} :
      e.stage = .unregistered → (env.create e.bean e.method).run w = (.ok listener, w') →
      Step e w (.register container) (.ok ()) (e.reach (.registered ⟨container, listener⟩)) w'
  /-- It was registered before. -/
  | again {container : ContainerId} :
      e.stage ≠ .unregistered →
      Step e w (.register container) (.error (.alreadyRegistered e.id)) e w
  /-- It was not registered yet. -/
  | early : e.stage = .unregistered → Step e w .start (.error (.notRegistered e.id)) e w
  | running {b : Binding} : e.stage = .running b → Step e w .start (.ok ()) e w
  | unresolved {b : Binding} {failure : ListenerError} {w' : W} :
      e.stage.startable? = some b → (env.resolve e.resolver e.topic).run w = (.error failure, w') →
      Step e w .start (.error failure) e w'
  /-- The container did not take the listener. -/
  | refused {b : Binding} {topic : Topic} {failure : ListenerError} {w₁ w' : W} :
      e.stage.startable? = some b → (env.resolve e.resolver e.topic).run w = (.ok topic, w₁) →
      (env.subscribe b.container b.listener topic).run w₁ = (.error failure, w') →
      Step e w .start (.error failure) e w'
  | started {b : Binding} {topic : Topic} {w₁ w' : W} :
      e.stage.startable? = some b → (env.resolve e.resolver e.topic).run w = (.ok topic, w₁) →
      (env.subscribe b.container b.listener topic).run w₁ = (.ok (), w') →
      Step e w .start (.ok ()) ((e.reach (.running b)).tell true) w'
  /-- There was nothing to stop. -/
  | idle : (∀ b, e.stage ≠ .running b) → Step e w .stop (.ok ()) e w
  /-- The container did not let go of the listener. -/
  | kept {b : Binding} {failure : ListenerError} {w' : W} :
      e.stage = .running b → (env.unsubscribe b.container b.listener).run w = (.error failure, w') →
      Step e w .stop (.error failure) e w'
  | stopped {b : Binding} {w' : W} :
      e.stage = .running b → (env.unsubscribe b.container b.listener).run w = (.ok (), w') →
      Step e w .stop (.ok ()) ((e.reach (.stopped b)).tell false) w'

/-- **Nothing else can come of a call.** -/
theorem step_call (e : Endpoint) (call : EndpointCall) (w : W) :
    Step env e w call ((e.call env call).run w).1.1 ((e.call env call).run w).1.2
      ((e.call env call).run w).2 := by
  -- where there is something to start, it depends on the environment alone
  have launch : ∀ b, e.stage.startable? = some b →
      Step env e w .start ((e.launch env b).run w).1.1 ((e.launch env b).run w).1.2
        ((e.launch env b).run w).2 := by
    intro b hb
    unfold launch
    rcases hresolve : (env.resolve e.resolver e.topic).run w with ⟨failure | topic, w₁⟩
    · rw [run_bind_of hresolve]
      exact .unresolved hb hresolve
    · rw [run_bind_of hresolve]
      dsimp only
      rcases hsubscribe : (env.subscribe b.container b.listener topic).run w₁ with
        ⟨failure | ⟨⟩, w'⟩
      · rw [run_bind_of hsubscribe]
        exact .refused hb hresolve hsubscribe
      · rw [run_bind_of hsubscribe]
        exact .started hb hresolve hsubscribe
  cases call with
  | register container =>
      unfold Endpoint.call register
      cases hstage : e.stage with
      | unregistered =>
          dsimp only
          rcases hcreate : (env.create e.bean e.method).run w with ⟨failure | listener, w'⟩
          · rw [run_bind_of hcreate]
            exact .unmade hstage hcreate
          · rw [run_bind_of hcreate]
            exact .registered hstage hcreate
      | registered b => exact .again (by simp [hstage])
      | running b => exact .again (by simp [hstage])
      | stopped b => exact .again (by simp [hstage])
  | start =>
      unfold Endpoint.call start
      cases hstage : e.stage with
      | unregistered => exact .early hstage
      | running b => exact .running hstage
      | registered b => exact launch b (by rw [hstage]; rfl)
      | stopped b => exact launch b (by rw [hstage]; rfl)
  | stop =>
      unfold Endpoint.call stop
      cases hstage : e.stage with
      | running b =>
          dsimp only
          rcases hunsubscribe : (env.unsubscribe b.container b.listener).run w with
            ⟨failure | ⟨⟩, w'⟩
          · rw [run_bind_of hunsubscribe]
            exact .kept hstage hunsubscribe
          · rw [run_bind_of hunsubscribe]
            exact .stopped hstage hunsubscribe
      | unregistered => exact .idle (by simp [hstage])
      | registered b => exact .idle (by simp [hstage])
      | stopped b => exact .idle (by simp [hstage])

variable {env}

theorem Step.of_run {e e' : Endpoint} {w w' : W} {call : EndpointCall}
    {result : Except ListenerError Unit}
    (h : (e.call env call).run w = ((result, e'), w')) : Step env e w call result e' w' := by
  have hstep := step_call env e call w
  rwa [h] at hstep

theorem start_eq_launch {e : Endpoint} {b : Binding} (h : e.stage.startable? = some b) :
    e.start env = e.launch env b := by
  unfold start
  cases hstage : e.stage with
  | unregistered => rw [hstage] at h; exact absurd h (by simp [Stage.startable?])
  | running _ => rw [hstage] at h; exact absurd h (by simp [Stage.startable?])
  | registered _ => rw [hstage] at h; obtain rfl := Option.some.inj h; rfl
  | stopped _ => rw [hstage] at h; obtain rfl := Option.some.inj h; rfl

theorem register_eq {e : Endpoint} {container : ContainerId} (h : e.stage ≠ .unregistered) :
    e.register env container = pure (.error (.alreadyRegistered e.id), e) := by
  unfold register
  cases hstage : e.stage with
  | unregistered => exact absurd hstage h
  | registered _ => rfl
  | running _ => rfl
  | stopped _ => rfl

theorem start_eq {e : Endpoint} {b : Binding} (h : e.stage = .running b) :
    e.start env = pure (.ok (), e) := by
  unfold start
  rw [h]

theorem stop_eq {e : Endpoint} (h : ∀ b, e.stage ≠ .running b) :
    e.stop env = pure (.ok (), e) := by
  unfold stop
  cases hstage : e.stage with
  | running b => exact absurd hstage (h b)
  | unregistered => rfl
  | registered _ => rfl
  | stopped _ => rfl

/-- Whatever is on the list is what the call comes to. -/
theorem Step.run_eq {e e' : Endpoint} {w w' : W} {call : EndpointCall}
    {result : Except ListenerError Unit} (h : Step env e w call result e' w') :
    (e.call env call).run w = ((result, e'), w') := by
  cases h with
  | unmade hstage hcreate =>
      unfold Endpoint.call register
      rw [hstage]
      exact run_bind_of hcreate
  | registered hstage hcreate =>
      unfold Endpoint.call register
      rw [hstage]
      exact run_bind_of hcreate
  | again hstage =>
      show (e.register env _).run w = _
      rw [register_eq hstage]
      rfl
  | early hstage =>
      unfold Endpoint.call start
      rw [hstage]
      rfl
  | running hstage =>
      show (e.start env).run w = _
      rw [start_eq hstage]
      rfl
  | unresolved hb hresolve =>
      show (e.start env).run w = _
      rw [start_eq_launch hb]
      exact run_bind_of hresolve
  | refused hb hresolve hsubscribe =>
      show (e.start env).run w = _
      rw [start_eq_launch hb]
      exact (run_bind_of hresolve).trans (run_bind_of hsubscribe)
  | started hb hresolve hsubscribe =>
      show (e.start env).run w = _
      rw [start_eq_launch hb]
      exact (run_bind_of hresolve).trans (run_bind_of hsubscribe)
  | idle hstage =>
      show (e.stop env).run w = _
      rw [stop_eq hstage]
      rfl
  | kept hstage hunsubscribe =>
      unfold Endpoint.call stop
      rw [hstage]
      exact run_bind_of hunsubscribe
  | stopped hstage hunsubscribe =>
      unfold Endpoint.call stop
      rw [hstage]
      exact run_bind_of hunsubscribe

/-- **A call that fails leaves the endpoint as it was.** -/
theorem Step.eq_of_error {e e' : Endpoint} {w w' : W} {call : EndpointCall}
    {failure : ListenerError} (h : Step env e w call (.error failure) e' w') : e' = e := by
  cases h <;> rfl

end Endpoint

end KeyRelay
