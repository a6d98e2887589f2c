import KeyRelay.Proofs.Coupling

/-!
# What the registry does with its endpoints

All that a registry does to endpoints is a row of calls on single endpoints. A
registration is one call, or two if the registry is running
(`Registry.registerListener_cases`); a start or a stop of one endpoint is a call on the
endpoint of an id (`Registry.callOne_cases`); a start or a stop of all of them is a
walk, which makes the same call on each in its turn (`Walks`).
-/

namespace KeyRelay

/-! ## What the registry does with an endpoint -/

section Registry

variable {W : Type} {env : Environment W}

/-- The endpoints with one of them replaced by its later self. -/
theorem map_replace {done rest : List Endpoint} {e e' : Endpoint}
    (hids : ((done ++ e :: rest).map (·.id)).Nodup) (hid : e'.id = e.id) :
    ((done ++ e :: rest).map fun old => if old.id = e'.id then e' else old) =
      done ++ e' :: rest := by
  rw [List.map_append, List.map_cons] at hids
  have hothers := (List.nodup_middle.mp hids).notMem
  rw [List.mem_append, List.mem_map, List.mem_map] at hothers
  -- ids are distinct, so only the one place has this id
  have hkeep : ∀ l : List Endpoint, (∀ x ∈ l, x.id ≠ e.id) →
      l.map (fun old => if old.id = e'.id then e' else old) = l := by
    intro l hl
    rw [hid]
    exact (List.map_congr_left fun x hx => if_neg (hl x hx)).trans (List.map_id' l)
  rw [List.map_append, List.map_cons, if_pos hid.symm,
    hkeep done fun x hx hxe => hothers (.inl ⟨x, hx, hxe⟩),
    hkeep rest fun x hx hxe => hothers (.inr ⟨x, hx, hxe⟩)]

theorem nodup_ids_concat {es : List Endpoint} {e : Endpoint} (hids : (es.map (·.id)).Nodup)
    (hfresh : ∀ x ∈ es, x.id ≠ e.id) : ((es ++ [e]).map (·.id)).Nodup := by
  rw [List.map_append, List.map_singleton, List.nodup_append]
  refine ⟨hids, List.nodup_singleton _, ?_⟩
  intro id hid id' hid' heq
  obtain ⟨x, hx, rfl⟩ := List.mem_map.mp hid
  exact hfresh x hx (heq.trans (List.mem_singleton.mp hid'))

theorem Registry.endpoints_noteContainer (r : Registry) (container : ContainerId) :
    (r.noteContainer container).endpoints = r.endpoints := by
  unfold noteContainer
  split <;> rfl

/-- A registration fails, or it brings an endpoint in, or it brings one in and tries to start it. -/
theorem Registry.registerListener_cases (r : Registry) (e : Endpoint) (container : ContainerId)
    {w w' : W} {result : Except ListenerError Endpoint} {r' : Registry}
    (h : (r.registerListener env e container).run w = ((result, r'), w')) :
    (r'.endpoints = r.endpoints ∧
      (w' = w ∨ ∃ failure, Endpoint.Step env e w (.register container) (.error failure) e w')) ∨
    (r.find? e.id = none ∧ ∃ e₁ w₁,
      Endpoint.Step env e w (.register container) (.ok ()) e₁ w₁ ∧
      (r'.endpoints = r.endpoints ++ [e₁] ∧ w' = w₁ ∨
        ∃ result e₂, Endpoint.Step env e₁ w₁ .start result e₂ w' ∧
          r'.endpoints = (r.endpoints ++ [e₁]).map fun old => if old.id = e₂.id then e₂ else old)) := by
  unfold registerListener at h
  cases hfind : r.find? e.id with
  | some found =>
      rw [hfind, if_pos Option.isSome_some] at h
      obtain ⟨hr, rfl⟩ := Prod.mk.inj h
      obtain ⟨-, rfl⟩ := Prod.mk.inj hr
      exact .inl ⟨rfl, .inl rfl⟩
  | none =>
      rw [hfind, if_neg (by simp)] at h
      rcases hrun : (e.register env container).run w with ⟨⟨failure | ⟨⟩, e₁⟩, w₁⟩
      · rw [run_bind_of hrun] at h
        obtain ⟨hr, rfl⟩ := Prod.mk.inj h
        obtain ⟨-, rfl⟩ := Prod.mk.inj hr
        have hregister : Endpoint.Step env e w (.register container) (.error failure) e₁ w₁ :=
          .of_run hrun
        obtain rfl := hregister.eq_of_error
        exact .inl ⟨rfl, .inr ⟨failure, hregister⟩⟩
      · rw [run_bind_of hrun] at h
        refine .inr ⟨rfl, e₁, w₁, .of_run hrun, ?_⟩
        dsimp only at h
        split at h
        · rcases hrun' : (e₁.start env).run w₁ with ⟨⟨started, e₂⟩, w₂⟩
          rw [run_bind_of hrun'] at h
          obtain ⟨hr, rfl⟩ := Prod.mk.inj h
          obtain ⟨-, rfl⟩ := Prod.mk.inj hr
          refine .inr ⟨started, e₂, .of_run hrun', ?_⟩
          rw [replace, endpoints_noteContainer]
        · obtain ⟨hr, rfl⟩ := Prod.mk.inj h
          obtain ⟨-, rfl⟩ := Prod.mk.inj hr
          exact .inl ⟨endpoints_noteContainer _ _, rfl⟩

/-- A call on the endpoint of an id, if there is one. -/
def Registry.callOne (env : Environment W) (r : Registry) (id : String) (call : EndpointCall) :
    StateM W (Option (Except ListenerError Unit) × Registry) :=
  match r.find? id with
  | none => pure (none, r)
  | some e => do
    let (result, e) ← e.call env call
    return (some result, r.replace e)

theorem Registry.callOne_cases (r : Registry) (id : String) (call : EndpointCall) {w w' : W}
    {result : Option (Except ListenerError Unit)} {r' : Registry}
    (h : (r.callOne env id call).run w = ((result, r'), w')) :
    (r' = r ∧ w' = w) ∨
      ∃ e result e', r.find? id = some e ∧ Endpoint.Step env e w call result e' w' ∧
        r'.endpoints = r.endpoints.map fun old => if old.id = e'.id then e' else old := by
  unfold callOne at h
  cases hfind : r.find? id with
  | none =>
      rw [hfind] at h
      obtain ⟨hr, rfl⟩ := Prod.mk.inj h
      exact .inl ⟨(Prod.mk.inj hr).2.symm, rfl⟩
  | some e =>
      rw [hfind] at h
      rcases hrun : (e.call env call).run w with ⟨⟨called, e'⟩, w₁⟩
      dsimp only at h
      rw [run_bind_of hrun] at h
      obtain ⟨hr, rfl⟩ := Prod.mk.inj h
      obtain ⟨-, rfl⟩ := Prod.mk.inj hr
      exact .inr ⟨e, called, e', rfl, .of_run hrun, rfl⟩

end Registry

/-- To start or stop the endpoint of an id is a call on it. -/
theorem System.control_eq (s : System) (start : Bool) (id : String) :
    (s.control start id).2 =
      { s with
        registry := ((s.registry.callOne World.environment id
          (if start then .start else .stop)).run s.world).1.2
        world := ((s.registry.callOne World.environment id
          (if start then .start else .stop)).run s.world).2 } := by
  cases start <;> rfl

/-! ## Walks along all endpoints -/

/-- The call that makes an endpoint run, or makes it stop. -/
def EndpointCall.switch (on : Bool) : EndpointCall := if on then .start else .stop

section

variable {W : Type} (env : Environment W)

/-- Makes the endpoints run (or stop) that do not. -/
def Registry.switchEach (on : Bool) : List Endpoint → StateM W (List EndpointFailure × List Endpoint)
  | [] => pure ([], [])
  | e :: rest => do
    if e.isRunning = on then
      let (failures, rest) ← switchEach on rest
      return (failures, e :: rest)
    else
      let (result, e) ← e.call env (.switch on)
      let (failures, rest) ← switchEach on rest
      match result with
      | .ok () => return (failures, e :: rest)
      | .error failure => return (⟨e.id, failure⟩ :: failures, e :: rest)

theorem Registry.startEach_eq : startEach env = switchEach env true := by
  funext es
  induction es with
  | nil => rfl
  | cons e rest ih =>
      rw [startEach, switchEach, ih]
      rfl

theorem Registry.stopEach_eq : stopEach env = switchEach env false := by
  funext es
  induction es with
  | nil => rfl
  | cons e rest ih =>
      rw [stopEach, switchEach, ih]
      cases e.isRunning <;> rfl

end

/-- A walk that makes one and the same call on each endpoint in its turn. -/
structure Walks (each : List Endpoint → StateM World (List EndpointFailure × List Endpoint))
    (call : EndpointCall) : Prop where
  nil : ∀ w, (each []).run w = (([], []), w)
  /-- What it does to the first endpoint does not depend on how many come after. -/
  cons : ∀ e w, e.Truthful → ∃ result e' w₁,
    Endpoint.Step World.environment e w call result e' w₁ ∧
      ∀ rest, ((each (e :: rest)).run w).1.2 = e' :: ((each rest).run w₁).1.2 ∧
        ((each (e :: rest)).run w).2 = ((each rest).run w₁).2

theorem Endpoint.Truthful.running {e : Endpoint} (h : e.Truthful) (hrunning : e.isRunning = true) :
    ∃ b, e.stage = .running b := by
  unfold Truthful active? at h
  rw [hrunning] at h
  split at h
  · exact ⟨_, ‹_›⟩
  · exact absurd h (by simp)

theorem Endpoint.Truthful.idle {e : Endpoint} (h : e.Truthful) (hidle : ¬ e.isRunning = true) :
    ∀ b, e.stage ≠ .running b := by
  intro b hstage
  rw [h, active?_of_running hstage] at hidle
  exact hidle rfl

theorem walks_switchEach (on : Bool) :
    Walks (Registry.switchEach World.environment on) (.switch on) where
  nil _ := rfl
  cons e w htruthful := by
    by_cases hdone : e.isRunning = on
    · have hidle : Endpoint.Step World.environment e w (.switch on) (.ok ()) e w := by
        cases on with
        | true =>
            obtain ⟨b, hstage⟩ := htruthful.running hdone
            exact .running hstage
        | false => exact .idle (htruthful.idle (by simp [hdone]))
      refine ⟨_, e, w, hidle, fun rest => ?_⟩
      rw [Registry.switchEach, if_pos hdone]
      exact ⟨rfl, rfl⟩
    · rcases hrun : (e.call World.environment (.switch on)).run w with ⟨⟨result, e'⟩, w₁⟩
      refine ⟨result, e', w₁, .of_run hrun, fun rest => ?_⟩
      rw [Registry.switchEach, if_neg hdone, run_bind_of hrun]
      cases result with
      | ok _ => exact ⟨rfl, rfl⟩
      | error _ => exact ⟨rfl, rfl⟩

theorem walks_startEach : Walks (Registry.startEach World.environment) .start := by
  rw [Registry.startEach_eq]
  exact walks_switchEach true

theorem walks_stopEach : Walks (Registry.stopEach World.environment) .stop := by
  rw [Registry.stopEach_eq]
  exact walks_switchEach false

/-- The snapshots of a walk: one after the first endpoint, and then those of the rest of it. -/
theorem System.attempts_cons
    {each : List Endpoint → StateM World (List EndpointFailure × List Endpoint)}
    {w w₁ : World} {e e' : Endpoint} {rest : List Endpoint}
    (hnil : ∀ w, (each []).run w = (([], []), w))
    (hcons : ∀ rest, ((each (e :: rest)).run w).1.2 = e' :: ((each rest).run w₁).1.2) :
    attempts each w (e :: rest) =
      (e' :: rest) :: (attempts each w₁ rest).map (e' :: ·) := by
  unfold attempts
  rw [List.length_cons, List.range_succ_eq_map, List.map_cons, List.map_map, List.map_map]
  congr 1
  · rw [List.take_succ_cons, List.take_zero, hcons, hnil]
    rfl
  · apply List.map_congr_left
    intro k _
    simp only [Function.comp_apply, Nat.succ_eq_add_one, List.take_succ_cons, List.drop_succ_cons,
      hcons, List.cons_append]

end KeyRelay
