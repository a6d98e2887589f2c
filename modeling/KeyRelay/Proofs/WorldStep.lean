import KeyRelay.Listener.World
import KeyRelay.Proofs.EndpointStep
import KeyRelay.Proofs.ResolverAnswers

/-!
# What a call on an endpoint does to the world

Of all that a call on an endpoint can change in the world, three things matter to the
subscriptions: which listeners there are, what the containers hold, and what the
resolvers answer. A call that fails leaves all three alone (`World.Alike`). One that
starts or stops an endpoint changes a single container, and in a single way
(`World.Amended`). `Endpoint.Step.in_world` says this of every start and every stop.
-/

namespace KeyRelay

/-! ## Calls on stations -/

namespace Station

theorem container_noteCall (s : Station) (call : ContainerCall) :
    (s.noteCall call).container = s.container := by
  unfold noteCall
  split <;> rfl

/-- A call is refused, and then at most recorded, or else it is made. -/
theorem attempt_cases {s s' : Station} {call : ContainerCall} {fault : Option String}
    {change : Container → Container} {result : Except ListenerError Unit}
    (h : (s.noteCall call).attempt fault change = (result, s')) :
    (∃ failure, result = .error failure ∧ s'.container = s.container) ∨
      (result = .ok () ∧ s'.container = change s.container) := by
  unfold attempt at h
  split at h
  · obtain ⟨rfl, rfl⟩ := Prod.mk.inj h
    exact .inl ⟨_, rfl, container_noteCall s call⟩
  · obtain ⟨rfl, rfl⟩ := Prod.mk.inj h
    exact .inr ⟨rfl, congrArg change (container_noteCall s call)⟩

end Station

/-! ## Worlds before and after -/

namespace World

/-- No resolver answers from its cache what it would not answer without. -/
def Sound (w : World) : Prop := ∀ r ∈ w.resolvers, r.Sound

/-- A later world with the same listeners, the same subscriptions and resolvers that still can be
relied on. -/
structure Alike (w w' : World) : Prop where
  adapters : w'.adapters = w.adapters
  container : ∀ name, w'.container name = w.container name
  sound : w.Sound → w'.Sound

/-- A later world in which nothing but one container was changed. -/
structure Amended (w : World) (name : ContainerId) (change : Container → Container) (w' : World) :
    Prop where
  adapters : w'.adapters = w.adapters
  container : ∀ other,
    w'.container other = if other = name then change (w.container other) else w.container other
  sound : w.Sound → w'.Sound

theorem Alike.refl (w : World) : w.Alike w := ⟨rfl, fun _ => rfl, id⟩

theorem Alike.trans {w w₁ w' : World} (h : w.Alike w₁) (h' : w₁.Alike w') : w.Alike w' :=
  ⟨h'.adapters.trans h.adapters, fun name => (h'.container name).trans (h.container name),
    h'.sound ∘ h.sound⟩

theorem Alike.trans_amended {w w₁ w' : World} {name : ContainerId} {change : Container → Container}
    (h : w.Alike w₁) (h' : w₁.Amended name change w') : w.Amended name change w' :=
  ⟨h'.adapters.trans h.adapters, fun other => by rw [h'.container, h.container],
    h'.sound ∘ h.sound⟩

/-- **A resolver answers what the destination says**, and nothing but its cache changes. -/
theorem resolve_eq {w w' : World} (hw : w.Sound) {id : ResolverId} {destination : String}
    {found : Except ListenerError Topic} (h : w.resolve id destination = (found, w')) :
    found = Topic.ofDestination destination ∧ w.Alike w' := by
  unfold resolve at h
  cases hr : w.resolvers[id]? with
  | none =>
      rw [hr] at h
      obtain ⟨rfl, rfl⟩ := Prod.mk.inj h
      exact ⟨rfl, .refl w⟩
  | some r =>
      rw [hr] at h
      obtain ⟨rfl, rfl⟩ := Prod.mk.inj h
      obtain ⟨hfound, hsound⟩ := (hw r (List.mem_of_getElem? hr)).resolve destination
      refine ⟨hfound, rfl, fun _ => rfl, fun _ other hother => ?_⟩
      rcases List.mem_or_eq_of_mem_set hother with hold | rfl
      · exact hw other hold
      · exact hsound

/-- **A listener that is made is a new one**, with the next free number. -/
theorem create_ok {w w' : World} {bean method : String} {listener : ListenerId}
    (h : w.create bean method = (.ok listener, w')) :
    ∃ handler, w.handlers.get? (bean, method) = some handler ∧
      listener = .adapter w.adapters.size ∧
      w'.adapters = w.adapters.push ⟨bean, method, handler⟩ ∧
      (∀ name, w'.container name = w.container name) ∧ (w.Sound → w'.Sound) := by
  unfold create HandlerTable.create at h
  dsimp only [note] at h
  cases hhandler : w.handlers.get? (bean, method) with
  | none =>
      rw [hhandler] at h
      exact absurd (Prod.mk.inj h).1 (by simp)
  | some handler =>
      rw [hhandler] at h
      obtain ⟨hlistener, rfl⟩ := Prod.mk.inj h
      exact ⟨handler, rfl, (Except.ok.inj hlistener).symm, rfl, fun _ => rfl, id⟩

theorem create_error {w w' : World} {bean method : String} {failure : ListenerError}
    (h : w.create bean method = (.error failure, w')) : w.Alike w' := by
  unfold create at h
  dsimp only at h
  split at h
  · obtain ⟨-, rfl⟩ := Prod.mk.inj h
    exact ⟨rfl, fun _ => rfl, id⟩
  · exact absurd (Prod.mk.inj h).1 (by simp)

/-! ## Calls on containers -/

theorem container_insert (w : World) (name other : ContainerId) (station : Station) :
    World.container { w with stations := w.stations.insert name station } other =
      if other = name then station.container else w.container other := by
  unfold World.container
  rw [Table.get?_insert]
  by_cases h : name = other
  · rw [if_pos h, if_pos h.symm]
    rfl
  · rw [if_neg h, if_neg (Ne.symm h)]

theorem container_of_get? {w : World} {name : ContainerId} {station : Station}
    (h : w.stations.get? name = some station) : w.container name = station.container := by
  unfold World.container
  rw [h]
  rfl

/-- A call on a container, which may be recorded and may be refused. -/
def callStation (w : World) (name : ContainerId) (call : ContainerCall)
    (fault : Station → Option String) (change : Container → Container) :
    Except ListenerError Unit × World :=
  w.atStation name fun s => (s.noteCall call).attempt (fault s) change

theorem subscribe_eq (w : World) (name : ContainerId) (listener : ListenerId) (topic : Topic) :
    (environment.subscribe name listener topic).run w =
      w.callStation name (.add topic) (·.addFault) (·.add listener topic) := rfl

theorem unsubscribe_eq (w : World) (name : ContainerId) (listener : ListenerId) :
    (environment.unsubscribe name listener).run w =
      w.callStation name .remove (·.removeFault) (·.remove listener) := rfl

/-- **A call on a container changes that container as it was to, or else nothing.** -/
theorem callStation_cases {w w' : World} {name : ContainerId} {call : ContainerCall}
    {fault : Station → Option String} {change : Container → Container}
    {result : Except ListenerError Unit}
    (h : w.callStation name call fault change = (result, w')) :
    (∃ failure, result = .error failure ∧ w.Alike w') ∨
      (result = .ok () ∧ w.Amended name change w') := by
  unfold callStation atStation at h
  cases hs : w.stations.get? name with
  | none =>
      rw [hs] at h
      obtain ⟨rfl, rfl⟩ := Prod.mk.inj h
      exact .inl ⟨_, rfl, .refl w⟩
  | some s =>
      rcases hmade : (s.noteCall call).attempt (fault s) change with ⟨made, s'⟩
      simp only [hs, hmade] at h
      obtain ⟨rfl, rfl⟩ := Prod.mk.inj h
      rcases Station.attempt_cases hmade with ⟨failure, hresult, hs'⟩ | ⟨hresult, hs'⟩
      · refine .inl ⟨failure, hresult, rfl, fun other => ?_, id⟩
        rw [container_insert, hs', ← container_of_get? hs]
        exact ite_eq_right_iff.mpr fun h => by rw [h]
      · refine .inr ⟨hresult, rfl, fun other => ?_, id⟩
        rw [container_insert, hs', ← container_of_get? hs]
        by_cases h : other = name
        · rw [if_pos h, if_pos h, h]
        · rw [if_neg h, if_neg h]

theorem alike_of_refused {w w' : World} {name : ContainerId} {call : ContainerCall}
    {fault : Station → Option String} {change : Container → Container} {failure : ListenerError}
    (h : w.callStation name call fault change = (.error failure, w')) : w.Alike w' := by
  rcases callStation_cases h with ⟨_, _, halike⟩ | ⟨hresult, _⟩
  · exact halike
  · exact absurd hresult (by simp)

theorem amended_of_done {w w' : World} {name : ContainerId} {call : ContainerCall}
    {fault : Station → Option String} {change : Container → Container}
    (h : w.callStation name call fault change = (.ok (), w')) : w.Amended name change w' := by
  rcases callStation_cases h with ⟨_, hresult, _⟩ | ⟨_, hamended⟩
  · exact absurd hresult (by simp)
  · exact hamended

/-! ## Reasons for failures -/

/-- A resolver refuses a blank destination and nothing else. -/
theorem resolver_error {r : Resolver} {destination : String} {failure : ListenerError}
    (h : (r.resolve destination).1 = .error failure) : failure = .blankDestination destination := by
  unfold Resolver.resolve Resolver.lookup at h
  by_cases hblank : isBlank destination = true
  · rw [if_pos hblank] at h
    exact (Except.error.inj h).symm
  · rw [if_neg hblank] at h
    by_cases hpattern : Glob.isPattern destination = true
    · rw [if_pos hpattern] at h
      exact absurd h nofun
    · rw [if_neg hpattern] at h
      exact absurd h nofun

section

variable {w w' : World} {failure : ListenerError}

theorem eq_handlerNotFound_of_create {bean method : String}
    (h : w.create bean method = (.error failure, w')) : failure = .handlerNotFound bean method := by
  unfold create HandlerTable.create at h
  dsimp only [note] at h
  cases hhandler : w.handlers.get? (bean, method) with
  | none =>
      rw [hhandler] at h
      exact (Except.error.inj (Prod.mk.inj h).1).symm
  | some handler =>
      rw [hhandler] at h
      exact absurd (Prod.mk.inj h).1 (by simp)

theorem eq_blankDestination_of_resolve {id : ResolverId} {destination : String}
    (h : w.resolve id destination = (.error failure, w')) :
    failure = .blankDestination destination := by
  unfold resolve at h
  cases hr : w.resolvers[id]? with
  | none =>
      rw [hr] at h
      have hanswer := (Prod.mk.inj h).1
      unfold Topic.ofDestination at hanswer
      split at hanswer
      · exact (Except.error.inj hanswer).symm
      · exact absurd hanswer (by simp)
  | some r =>
      rw [hr] at h
      exact resolver_error (Prod.mk.inj h).1

/-- A container is missing, or it was told to refuse. -/
theorem failure_of_callStation {name : ContainerId} {call : ContainerCall}
    {fault : Station → Option String} {change : Container → Container}
    (h : w.callStation name call fault change = (.error failure, w')) :
    failure = .containerNotFound name ∨ ∃ reason, failure = .container reason := by
  unfold callStation atStation at h
  cases hs : w.stations.get? name with
  | none =>
      rw [hs] at h
      exact .inl (Except.error.inj (Prod.mk.inj h).1).symm
  | some station =>
      rw [hs] at h
      have hanswer : ((station.noteCall call).attempt (fault station) change).1 = .error failure :=
        (Prod.mk.inj h).1
      unfold Station.attempt at hanswer
      split at hanswer
      · exact .inr ⟨_, (Except.error.inj hanswer).symm⟩
      · exact absurd hanswer (by simp)

end

end World

/-! ## Starts and stops -/

namespace Endpoint

variable {e e' : Endpoint} {w w' : World} {result : Except ListenerError Unit}

/-- **What a start or a stop comes to in the world**: nothing, or a subscription more in the
endpoint's own container, or its listener no longer there. -/
theorem Step.in_world {call : EndpointCall} (h : Step World.environment e w call result e' w')
    (hcall : ∀ container, call ≠ .register container) (hw : w.Sound) :
    (e' = e ∧ w.Alike w') ∨
    (∃ b, e.lifecycle.binding? = some b ∧ e.active? = none ∧
      Topic.ofDestination e.topic = .ok (.named e.topic) ∧
      e' = (e.reach (.running b)).tell true ∧
      w.Amended b.container (·.add b.listener (.named e.topic)) w') ∨
    (∃ b, e.active? = some b ∧ e' = (e.reach (.stopped b)).tell false ∧
      w.Amended b.container (·.remove b.listener) w') := by
  -- a container is changed only where it is asked to and does not refuse
  cases h with
  | unmade => exact absurd rfl (hcall _)
  | registered => exact absurd rfl (hcall _)
  | again => exact absurd rfl (hcall _)
  | early => exact .inl ⟨rfl, .refl w⟩
  | running => exact .inl ⟨rfl, .refl w⟩
  | unresolved _ hresolve => exact .inl ⟨rfl, (World.resolve_eq hw hresolve).2⟩
  | refused _ hresolve hsubscribe =>
      rw [World.subscribe_eq] at hsubscribe
      exact .inl ⟨rfl, (World.resolve_eq hw hresolve).2.trans (World.alike_of_refused hsubscribe)⟩
  | @started b topic _ _ hb hresolve hsubscribe =>
      obtain ⟨hbinding, hidle⟩ := Stage.binding?_of_startable hb
      obtain ⟨htopic, halike⟩ := World.resolve_eq hw hresolve
      have hnamed : topic = .named e.topic := by
        unfold Topic.ofDestination at htopic
        split at htopic
        · exact absurd htopic (by simp)
        · exact Except.ok.inj htopic
      subst hnamed
      rw [World.subscribe_eq] at hsubscribe
      exact .inr (.inl ⟨b, hbinding, active?_of_not_running hidle, htopic.symm, rfl,
        halike.trans_amended (World.amended_of_done hsubscribe)⟩)
  | idle => exact .inl ⟨rfl, .refl w⟩
  | kept _ hunsubscribe =>
      rw [World.unsubscribe_eq] at hunsubscribe
      exact .inl ⟨rfl, World.alike_of_refused hunsubscribe⟩
  | @stopped b _ hstage hunsubscribe =>
      rw [World.unsubscribe_eq] at hunsubscribe
      exact .inr (.inr ⟨b, active?_of_running hstage, rfl, World.amended_of_done hunsubscribe⟩)

end Endpoint

end KeyRelay
