import KeyRelay.Proofs.FirstOccurrences
import KeyRelay.Proofs.RegistrySweep

/-!
# What a registry keeps through every history

A registry comes to be what it is by moves: endpoints are given to it, all of them are
started or stopped, single ones are called on past it, and meanwhile the world goes on
as it likes. Resolvers, containers and handlers are an arbitrary `Environment`, so any
of them may fail at any move.

Every move does one of two things to the registry (`Tidy.play_cases`). It leaves the
endpoints in their places, each with its identity and its binding, and the containers
as they are (`Advance`); or it brings in one endpoint of a new id at the end, and with
it its container (`enroll`). Both keep a registry tidy.
-/

namespace KeyRelay

/-- What can happen to a registry, and around it in a world `W`. -/
inductive RegistryMove (W : Type) where
  /-- Gives an endpoint to the registry: a new one, or one that was called on before. -/
  | register (e : Endpoint) (truthful : e.Truthful) (container : ContainerId)
  | start
  | stop
  /-- A call on one of the endpoints, past the registry. -/
  | call (id : String) (call : EndpointCall)
  /-- Something else, in which the registry has no part. -/
  | meanwhile (change : W → W)

/-- A call on a bound endpoint changes its stage at most. -/
theorem Endpoint.Step.continues {W : Type} {env : Environment W} {e e' : Endpoint} {w w' : W}
    {call : EndpointCall} {result : Except ListenerError Unit} {b : Binding}
    (h : Step env e w call result e' w') (hbound : e.lifecycle.binding? = some b) :
    e.Same e' ∧ (e.Truthful → e'.Truthful) := by
  have hregistered : e.stage ≠ .unregistered := Stage.ne_unregistered hbound
  cases h with
  | unmade hstage _ => exact absurd hstage hregistered
  | registered hstage _ => exact absurd hstage hregistered
  | started hb _ _ => exact ⟨⟨rfl, (Stage.binding?_of_startable hb).1.symm⟩, fun _ => rfl⟩
  | stopped hstage _ => exact ⟨⟨rfl, (congrArg Stage.binding? hstage).symm⟩, fun _ => rfl⟩
  | _ => exact ⟨⟨rfl, rfl⟩, fun h => h⟩

namespace Registry

section

variable {W : Type} (env : Environment W)

def play (s : Registry × W) : RegistryMove W → Registry × W
  | .register e _ container =>
    let out := (s.1.registerListener env e container).run s.2
    (out.1.2, out.2)
  | .start =>
    let out := (s.1.start env).run s.2
    (out.1.2, out.2)
  | .stop =>
    let out := (s.1.stop env).run s.2
    (out.1.2, out.2)
  | .call id call =>
    let out := (s.1.callOne env id call).run s.2
    (out.1.2, out.2)
  | .meanwhile change => (s.1, change s.2)

def playAll (s : Registry × W) (moves : List (RegistryMove W)) : Registry × W :=
  moves.foldl (play env) s

end

/-- A registry with one more endpoint and its container. -/
def enroll (r : Registry) (e : Endpoint) (container : ContainerId) : Registry :=
  { r with
    endpoints := r.endpoints ++ [e]
    containers := if container ∈ r.containers then r.containers else r.containers ++ [container] }

theorem noteContainer_eq_enroll (r : Registry) (e : Endpoint) (container : ContainerId) :
    ({ r with endpoints := r.endpoints ++ [e] } : Registry).noteContainer container =
      r.enroll e container := by
  unfold noteContainer enroll
  split <;> rfl

/-! ## What registering comes to -/

section

variable {W : Type} {env : Environment W} {r : Registry} {e : Endpoint} {container : ContainerId}
  {w w₁ : W}

theorem find?_eq_none_iff {id : String} : r.find? id = none ↔ ∀ x ∈ r.endpoints, x.id ≠ id := by
  rw [find?, List.find?_eq_none]
  simp

/-- Refused for its id, or for having been registered before: nothing happens. -/
theorem registerListener_refused
    (h : (∃ x ∈ r.endpoints, x.id = e.id) ∨ e.stage ≠ .unregistered) :
    r.registerListener env e container = pure (.error (.alreadyRegistered e.id), r) := by
  unfold registerListener
  cases hfind : r.find? e.id with
  | some x => rfl
  | none =>
      rw [find?_eq_none_iff] at hfind
      have hstage := h.resolve_left fun ⟨x, hx, hid⟩ => hfind x hx hid
      rw [Endpoint.register_eq hstage]
      rfl

/-- No listener could be made: nothing else is tried. -/
theorem registerListener_unmade (hfresh : ∀ x ∈ r.endpoints, x.id ≠ e.id)
    (hstage : e.stage = .unregistered) {failure : ListenerError}
    (hcreate : (env.create e.bean e.method).run w = (.error failure, w₁)) :
    (r.registerListener env e container).run w = ((.error failure, r), w₁) := by
  have hregister : (e.register env container).run w = ((.error failure, e), w₁) :=
    (Endpoint.Step.unmade hstage hcreate).run_eq
  rw [registerListener, find?_eq_none_iff.mpr hfresh, if_neg (by simp), run_bind_of hregister]
  rfl

/-- A registry that is not running keeps the endpoint and its container. -/
theorem registerListener_stopped (hfresh : ∀ x ∈ r.endpoints, x.id ≠ e.id)
    (hstage : e.stage = .unregistered) {listener : ListenerId}
    (hcreate : (env.create e.bean e.method).run w = (.ok listener, w₁))
    (hstopped : r.running = false) :
    let e₁ := e.reach (.registered ⟨container, listener⟩)
    (r.registerListener env e container).run w = ((.ok e₁, r.enroll e₁ container), w₁) := by
  intro e₁
  have hregister : (e.register env container).run w = ((.ok (), e₁), w₁) :=
    (Endpoint.Step.registered hstage hcreate).run_eq
  rw [registerListener, find?_eq_none_iff.mpr hfresh, if_neg (by simp), run_bind_of hregister]
  dsimp only
  rw [noteContainer_eq_enroll, if_neg (by simp [enroll, hstopped])]
  rfl

/-- The newcomer is the only one of its id, so it alone is replaced by its later self. -/
theorem replace_enroll {e' : Endpoint} (hids : (r.endpoints.map (·.id)).Nodup)
    (hfresh : ∀ x ∈ r.endpoints, x.id ≠ e.id) (hid : e'.id = e.id) :
    (r.enroll e container).replace e' = r.enroll e' container := by
  have hendpoints := map_replace (nodup_ids_concat hids hfresh) hid
  unfold replace
  rw [show (r.enroll e container).endpoints = r.endpoints ++ [e] from rfl, hendpoints]
  rfl

/-- A running registry keeps both and then starts the endpoint. -/
theorem registerListener_running (hids : (r.endpoints.map (·.id)).Nodup)
    (hfresh : ∀ x ∈ r.endpoints, x.id ≠ e.id) (hstage : e.stage = .unregistered)
    {listener : ListenerId} (hcreate : (env.create e.bean e.method).run w = (.ok listener, w₁))
    (hrunning : r.running = true) {result : Except ListenerError Unit} {e₂ : Endpoint} {w₂ : W}
    (hstart : ((e.reach (.registered ⟨container, listener⟩)).start env).run w₁ =
      ((result, e₂), w₂)) :
    (r.registerListener env e container).run w =
      ((result.map fun () => e₂, r.enroll e₂ container), w₂) := by
  have hregister : (e.register env container).run w =
      ((.ok (), e.reach (.registered ⟨container, listener⟩)), w₁) :=
    (Endpoint.Step.registered hstage hcreate).run_eq
  have hstep : Endpoint.Step env (e.reach (.registered ⟨container, listener⟩)) w₁ .start result e₂
      w₂ := .of_run hstart
  have hid : e₂.id = e.id := (hstep.same (by simp)).id
  rw [registerListener, find?_eq_none_iff.mpr hfresh, if_neg (by simp), run_bind_of hregister]
  dsimp only
  rw [noteContainer_eq_enroll, if_pos (by simp [enroll, hrunning]), run_bind_of hstart]
  have hreplace : (r.enroll (e.reach (.registered ⟨container, listener⟩)) container).replace e₂ =
      r.enroll e₂ container := replace_enroll hids hfresh hid
  rw [hreplace]
  rfl

end

/-! ## What every move keeps -/

/-- The endpoints of a registry are known by ids of their own and are bound, and its containers are
those that they are bound to. -/
structure Tidy (r : Registry) : Prop where
  ids : (r.endpoints.map (·.id)).Nodup
  bound : ∀ e ∈ r.endpoints, ∃ b, e.lifecycle.binding? = some b
  truthful : ∀ e ∈ r.endpoints, e.Truthful
  /-- In the order of their first use. -/
  containers : r.containers = (r.endpoints.filterMap (·.container?)).eraseDups

/-- A later registry that has the same endpoints in the same places, at whatever stage. -/
structure Advance (r r' : Registry) : Prop where
  identities : r'.endpoints.map Endpoint.identity = r.endpoints.map Endpoint.identity
  truthful : (∀ e ∈ r.endpoints, e.Truthful) → ∀ e ∈ r'.endpoints, e.Truthful
  containers : r'.containers = r.containers

theorem Advance.refl (r : Registry) : r.Advance r := ⟨rfl, id, rfl⟩

theorem Advance.ids {r r' : Registry} (h : r.Advance r') :
    r'.endpoints.map (·.id) = r.endpoints.map (·.id) := by
  have hids : ∀ es : List Endpoint, es.map (·.id) = (es.map Endpoint.identity).map (·.1.id) := by
    intro es
    rw [List.map_map]
    rfl
  rw [hids, hids r.endpoints, h.identities]

theorem tidy_new : ({} : Registry).Tidy :=
  ⟨List.nodup_nil, by simp, by simp, rfl⟩

theorem Sweep.advance {W : Type} {env : Environment W} {on : Bool} {r r' : Registry} {w w' : W}
    {attempts : List Attempt} (h : Sweep env on r w attempts r' w') : r.Advance r' :=
  ⟨h.swept.identities, h.swept.truthful, h.containers⟩

namespace Tidy

variable {r r' : Registry}

theorem advance (h : r.Tidy) (hadvance : r.Advance r') : r'.Tidy where
  ids := by
    rw [hadvance.ids]
    exact h.ids
  bound e he := by
    have hidentity : e.identity ∈ r.endpoints.map Endpoint.identity :=
      hadvance.identities ▸ List.mem_map_of_mem he
    obtain ⟨x, hx, hsame⟩ := List.mem_map.mp hidentity
    obtain ⟨b, hb⟩ := h.bound x hx
    exact ⟨b, (congrArg Prod.snd hsame).symm.trans hb⟩
  truthful := hadvance.truthful h.truthful
  containers := by
    have hcontainers : ∀ es : List Endpoint, es.filterMap (·.container?) =
        (es.map Endpoint.identity).filterMap fun i => i.2.map (·.container) :=
      fun es => by rw [List.filterMap_map]; rfl
    rw [hadvance.containers, h.containers, hcontainers, hcontainers r'.endpoints,
      hadvance.identities]

theorem enroll (h : r.Tidy) {e : Endpoint} {b : Binding} (hfresh : ∀ x ∈ r.endpoints, x.id ≠ e.id)
    (hbound : e.lifecycle.binding? = some b) (htruthful : e.Truthful) :
    (r.enroll e b.container).Tidy where
  ids := nodup_ids_concat h.ids hfresh
  bound x hx := by
    rcases List.mem_append.mp hx with hx | hx
    · exact h.bound x hx
    · exact ⟨b, List.mem_singleton.mp hx ▸ hbound⟩
  truthful x hx := by
    rcases List.mem_append.mp hx with hx | hx
    · exact h.truthful x hx
    · exact List.mem_singleton.mp hx ▸ htruthful
  containers := by
    have hcontainer : e.container? = some b.container := by
      rw [Endpoint.container?, hbound, Option.map_some]
    show (if b.container ∈ r.containers then r.containers else r.containers ++ [b.container]) =
      ((r.endpoints ++ [e]).filterMap (·.container?)).eraseDups
    rw [List.filterMap_append, List.filterMap_cons_some hcontainer, List.filterMap_nil,
      eraseDups_concat, h.containers]
    simp only [List.mem_eraseDups]

variable {W : Type} (env : Environment W)

theorem switch (h : r.Tidy) (on : Bool) (w : W) : r.Advance ((r.switch env on).run w).1.2 := by
  obtain ⟨attempts, r', w', hsweep, hrun, -⟩ := exists_sweep env on r h.bound h.truthful w
  rw [hrun]
  exact hsweep.advance

theorem callOne (h : r.Tidy) (id : String) (call : EndpointCall) (w : W) :
    r.Advance ((r.callOne env id call).run w).1.2 := by
  rw [Registry.callOne]
  cases hfind : r.find? id with
  | none => exact .refl r
  | some e =>
      rcases hrun : (e.call env call).run w with ⟨⟨result, e'⟩, w'⟩
      dsimp only
      rw [run_bind_of hrun]
      obtain ⟨-, done, rest, hes, -⟩ := List.find?_eq_some_iff_append.mp hfind
      have he : e ∈ r.endpoints := by rw [hes]; simp
      obtain ⟨b, hb⟩ := h.bound e he
      obtain ⟨hsame, htruthful⟩ := (Endpoint.Step.of_run hrun).continues hb
      -- the endpoint is replaced where it stands
      have hendpoints : (r.replace e').endpoints = done ++ e' :: rest := by
        have hids := h.ids
        rw [hes] at hids
        rw [replace, hes, map_replace hids hsame.id]
      refine ⟨?_, fun hall x hx => ?_, rfl⟩
      · show (r.replace e').endpoints.map _ = _
        rw [hendpoints, hes, List.map_append, List.map_append, List.map_cons, List.map_cons,
          hsame.identity]
      · replace hx : x ∈ (r.replace e').endpoints := hx
        rw [hendpoints, List.mem_append, List.mem_cons] at hx
        rcases hx with hx | rfl | hx
        · exact hall x (by rw [hes]; simp [hx])
        · exact htruthful (hall e he)
        · exact hall x (by rw [hes]; simp [hx])

/-- **A move leaves the endpoints in their places, or it brings in one more.** -/
theorem play_cases (h : r.Tidy) (w : W) (move : RegistryMove W) :
    r.Advance (play env (r, w) move).1 ∨
      ∃ e b, (∀ x ∈ r.endpoints, x.id ≠ e.id) ∧ e.lifecycle.binding? = some b ∧ e.Truthful ∧
        (play env (r, w) move).1 = r.enroll e b.container := by
  cases move with
  | register e htruthful container =>
      by_cases hrefused : (∃ x ∈ r.endpoints, x.id = e.id) ∨ e.stage ≠ .unregistered
      · rw [play, registerListener_refused hrefused]
        exact .inl (.refl r)
      · rw [not_or, not_not] at hrefused
        obtain ⟨hknown, hstage⟩ := hrefused
        have hfresh : ∀ x ∈ r.endpoints, x.id ≠ e.id := fun x hx hid => hknown ⟨x, hx, hid⟩
        have hflag : e.isRunning = false := by
          rw [htruthful, Endpoint.active?_of_not_running (by simp [hstage])]
          rfl
        rcases hcreate : (env.create e.bean e.method).run w with ⟨failure | listener, w₁⟩
        · rw [play, registerListener_unmade hfresh hstage hcreate]
          exact .inl (.refl r)
        · right
          -- it comes in as it is after its start, if there is one, and keeps what binds it
          cases hrunning : r.running with
          | false =>
              rw [play, registerListener_stopped hfresh hstage hcreate hrunning]
              exact ⟨e.reach (.registered ⟨container, listener⟩), ⟨container, listener⟩, hfresh,
                rfl, hflag, rfl⟩
          | true =>
              rcases hstart : ((e.reach (.registered ⟨container, listener⟩)).start env).run w₁ with
                ⟨⟨result, e₂⟩, w₂⟩
              have hstep : Endpoint.Step env (e.reach (.registered ⟨container, listener⟩)) w₁ .start
                result e₂ w₂ := .of_run hstart
              obtain ⟨hsame, htruthful₂⟩ := hstep.continues rfl
              rw [play, registerListener_running h.ids hfresh hstage hcreate hrunning hstart]
              refine ⟨e₂, ⟨container, listener⟩, fun x hx => ?_, hsame.binding, htruthful₂ hflag,
                rfl⟩
              rw [hsame.id]
              exact hfresh x hx
  | start =>
      rw [play, start_eq]
      exact .inl (h.switch env true w)
  | stop =>
      rw [play, stop_eq]
      exact .inl (h.switch env false w)
  | call id call => exact .inl (h.callOne env id call w)
  | meanwhile change => exact .inl (.refl r)

/-- **Every move keeps a registry tidy**, and the endpoints that it has in their places. -/
theorem play {s : Registry × W} (h : s.1.Tidy) (move : RegistryMove W) :
    (Registry.play env s move).1.Tidy ∧
      s.1.endpoints.map Endpoint.identity <+:
        (Registry.play env s move).1.endpoints.map Endpoint.identity := by
  rcases h.play_cases env s.2 move with hadvance | ⟨e, b, hfresh, hbound, htruthful, henroll⟩
  · refine ⟨h.advance hadvance, ?_⟩
    rw [hadvance.identities]
  · rw [henroll]
    refine ⟨h.enroll hfresh hbound htruthful, ?_⟩
    rw [Registry.enroll, List.map_append]
    exact List.prefix_append _ _

/-- **Every history does**, by induction on its moves. -/
theorem playAll {s : Registry × W} (h : s.1.Tidy) (moves : List (RegistryMove W)) :
    (Registry.playAll env s moves).1.Tidy ∧
      s.1.endpoints.map Endpoint.identity <+:
        (Registry.playAll env s moves).1.endpoints.map Endpoint.identity := by
  induction moves generalizing s with
  | nil => exact ⟨h, List.prefix_refl _⟩
  | cons move rest ih =>
      obtain ⟨htidy, hprefix⟩ := h.play env move
      obtain ⟨htidy', hprefix'⟩ := ih htidy
      exact ⟨htidy', hprefix.trans hprefix'⟩

/-- A start or a stop of all endpoints, and the same again in whatever world: it tries those that
failed. -/
theorem exists_sweep_twice (h : r.Tidy) (on : Bool) (w : W) :
    ∃ attempts r' w', Sweep env on r w attempts r' w' ∧
      (r.switch env on).run w = ((attempts.filterMap Attempt.failure?, r'), w') ∧
      (r.switch env.noting on).run (w, []) =
        ((attempts.filterMap Attempt.failure?, r'), (w', attempts.flatMap (·.turn.errands))) ∧
      ∀ w₁, ∃ again r₂ w₂,
        (r'.switch env on).run w₁ = ((again.filterMap Attempt.failure?, r₂), w₂) ∧
        Sweep env on r' w₁ again r₂ w₂ ∧
        again.map (·.endpoint) = (attempts.filter (·.failed)).map (·.endpoint) := by
  obtain ⟨attempts, r', w', hsweep, hrun, hwatched⟩ := exists_sweep env on r h.bound h.truthful w
  have h' : r'.Tidy := h.advance hsweep.advance
  refine ⟨attempts, r', w', hsweep, hrun, hwatched, fun w₁ => ?_⟩
  obtain ⟨again, r₂, w₂, hsweep', hrun', -⟩ := exists_sweep env on r' h'.bound h'.truthful w₁
  exact ⟨again, r₂, w₂, hrun', hsweep', hsweep'.order.trans hsweep.remaining⟩

/-- An id finds the one endpoint that has it. -/
theorem find?_eq_some_iff (h : r.Tidy) {id : String} {e : Endpoint} :
    r.find? id = some e ↔ e ∈ r.endpoints ∧ e.id = id := by
  constructor
  · intro hfind
    exact ⟨List.mem_of_find?_eq_some hfind, by simpa using List.find?_some hfind⟩
  · rintro ⟨he, rfl⟩
    cases hfind : r.find? e.id with
    | none => exact absurd rfl (find?_eq_none_iff.mp hfind e he)
    | some x =>
        have hid : x.id = e.id := by simpa using List.find?_some hfind
        rw [List.inj_on_of_nodup_map h.ids (List.mem_of_find?_eq_some hfind) he hid]

end Tidy

end Registry

/-! ## From a new registry on -/

/--
**What a registry keeps.** Let anything happen to a new registry and around it.

* Its endpoints have ids of their own, by which they are found, and are bound. Its containers are
  those that the endpoints are bound to, each once and in the order of their first use. Whatever
  happens later, the endpoints stay in their places, as what they are and bound to what they are
  bound to.
* An endpoint of an id that is taken, or one that was registered before, is refused, and nothing
  happens at all. If no listener can be made for an endpoint, that is all that happens in the world,
  and nothing happens to the registry.
* Otherwise the endpoint and its container are recorded, and stay recorded if the registry is
  running and the endpoint cannot be started.
-/
theorem registry_keeps_endpoints {W : Type} (env : Environment W) (w₀ : W)
    (moves : List (RegistryMove W)) :
    let s := Registry.playAll env ({}, w₀) moves
    let r := s.1
    (r.endpoints.map (·.id)).Nodup ∧
    (∀ e ∈ r.endpoints, e.stage ≠ .unregistered) ∧
    r.containers.Nodup ∧
    r.containers = (r.endpoints.filterMap (·.container?)).eraseDups ∧
    (∀ later, r.endpoints.map Endpoint.identity <+:
      (Registry.playAll env s later).1.endpoints.map Endpoint.identity) ∧
    (∀ id e, r.find? id = some e ↔ e ∈ r.endpoints ∧ e.id = id) ∧
    ∀ e container w,
      ((∃ x ∈ r.endpoints, x.id = e.id) ∨ e.stage ≠ .unregistered →
        (r.registerListener env e container).run w =
          ((.error (.alreadyRegistered e.id), r), w)) ∧
      ((∀ x ∈ r.endpoints, x.id ≠ e.id) → e.stage = .unregistered →
        (∀ failure w₁, (env.create e.bean e.method).run w = (.error failure, w₁) →
          (r.registerListener env e container).run w = ((.error failure, r), w₁)) ∧
        ∀ listener w₁, (env.create e.bean e.method).run w = (.ok listener, w₁) →
          let e₁ := e.reach (.registered ⟨container, listener⟩)
          (r.running = false →
            (r.registerListener env e container).run w = ((.ok e₁, r.enroll e₁ container), w₁)) ∧
          (r.running = true → ∀ e₂ w₂, (e₁.start env).run w₁ = ((.ok (), e₂), w₂) →
            (r.registerListener env e container).run w = ((.ok e₂, r.enroll e₂ container), w₂)) ∧
          (r.running = true → ∀ failure e₂ w₂,
            (e₁.start env).run w₁ = ((.error failure, e₂), w₂) →
            (r.registerListener env e container).run w =
              ((.error failure, r.enroll e₁ container), w₂))) := by
  intro s r
  have h : r.Tidy := (Registry.tidy_new.playAll env moves).1
  refine ⟨h.ids, fun e he => ?_, ?_, h.containers, fun later => (h.playAll env later).2,
    fun id e => h.find?_eq_some_iff, fun e container w => ⟨fun hrefused => ?_,
      fun hfresh hstage => ⟨fun failure w₁ => Registry.registerListener_unmade hfresh hstage,
        fun listener w₁ hcreate =>
          ⟨Registry.registerListener_stopped hfresh hstage hcreate, ?_, ?_⟩⟩⟩⟩
  · obtain ⟨b, hb⟩ := h.bound e he
    exact Stage.ne_unregistered hb
  · rw [h.containers]
    exact nodup_eraseDups _
  · rw [Registry.registerListener_refused hrefused]
    rfl
  · intro hrunning e₂ w₂ hstart
    exact Registry.registerListener_running h.ids hfresh hstage hcreate hrunning hstart
  · intro hrunning failure e₂ w₂ hstart
    have hstep : Endpoint.Step env (e.reach (.registered ⟨container, listener⟩)) w₁ .start
      (.error failure) e₂ w₂ := .of_run hstart
    obtain rfl := hstep.eq_of_error
    exact Registry.registerListener_running h.ids hfresh hstage hcreate hrunning hstart

/--
**Starting and stopping all endpoints.** Let anything happen to a new registry and around it, and
then let all of its endpoints be started, or stopped, in whatever world.

* Exactly those in question are tried, each once and in the order of registration, and all that is
  asked of resolvers and containers is asked by these tries (`Registry.Sweep`). To watch that
  changes nothing.
* Afterwards the registry is running, and stalled are exactly those that could not be started; or it
  is stopped, none is stalled, and those run on that could not be stopped.
* The caller is told of the first failure, and of none if there was none.
* Whoever starts (or stops) them again, in whatever world, tries exactly those that failed.
-/
theorem start_and_stop_try_all {W : Type} (env : Environment W) (w₀ : W)
    (moves : List (RegistryMove W)) :
    let r := (Registry.playAll env ({}, w₀) moves).1
    (r.endpoints.map (·.id)).Nodup ∧
    (∀ e ∈ r.endpoints, e.isRunning = true ↔ ∃ b, e.stage = .running b) ∧
    (∀ w, ∃ attempts r' w',
      (r.start env).run w = ((attempts.filterMap Attempt.failure?, r'), w') ∧
      (r.start env.noting).run (w, []) =
        ((attempts.filterMap Attempt.failure?, r'), (w', attempts.flatMap (·.turn.errands))) ∧
      Registry.Sweep env true r w attempts r' w' ∧
      r'.stalled = (attempts.filter (·.failed)).map (·.endpoint) ∧
      ∀ w₁, ∃ again r₂ w₂,
        (r'.start env).run w₁ = ((again.filterMap Attempt.failure?, r₂), w₂) ∧
        Registry.Sweep env true r' w₁ again r₂ w₂ ∧
        again.map (·.endpoint) = (attempts.filter (·.failed)).map (·.endpoint)) ∧
    (∀ w, ∃ attempts r' w',
      (r.stop env).run w = ((attempts.filterMap Attempt.failure?, r'), w') ∧
      (r.stop env.noting).run (w, []) =
        ((attempts.filterMap Attempt.failure?, r'), (w', attempts.flatMap (·.turn.errands))) ∧
      Registry.Sweep env false r w attempts r' w' ∧
      r'.stalled = [] ∧
      ∀ w₁, ∃ again r₂ w₂,
        (r'.stop env).run w₁ = ((again.filterMap Attempt.failure?, r₂), w₂) ∧
        Registry.Sweep env false r' w₁ again r₂ w₂ ∧
        again.map (·.endpoint) = (attempts.filter (·.failed)).map (·.endpoint)) := by
  intro r
  have h : r.Tidy := (Registry.tidy_new.playAll env moves).1
  refine ⟨h.ids, fun e he => ?_, fun w => ?_, fun w => ?_⟩
  · rw [← Endpoint.isSome_active?, h.truthful e he]
  · obtain ⟨attempts, r', w', hsweep, hrun, hwatched, hagain⟩ := h.exists_sweep_twice env true w
    refine ⟨attempts, r', w', ?_, ?_, hsweep, ?_, ?_⟩
    · rw [Registry.start_eq, hrun]
    · rw [Registry.start_eq, hwatched]
    · have hremaining := hsweep.remaining
      simp only [Registry.due, Bool.bne_true] at hremaining
      rw [Registry.stalled, if_pos hsweep.running, hremaining]
    · simpa only [Registry.start_eq] using hagain
  · obtain ⟨attempts, r', w', hsweep, hrun, hwatched, hagain⟩ := h.exists_sweep_twice env false w
    refine ⟨attempts, r', w', ?_, ?_, hsweep, ?_, ?_⟩
    · rw [Registry.stop_eq, hrun]
    · rw [Registry.stop_eq, hwatched]
    · rw [Registry.stalled, hsweep.running, if_neg (by simp)]
    · simpa only [Registry.stop_eq] using hagain

end KeyRelay
