import KeyRelay.Proofs.ConfigCheck
import KeyRelay.Proofs.Coupling
import KeyRelay.Proofs.Enrolment
import KeyRelay.Proofs.ResolverCaches

/-!
# From an accepted configuration to running listeners

A configuration that passes the check is registered and then started. At the start every
endpoint resolves its topic and has its listener subscribed. Nothing of this can fail if
the topic is not blank, the resolver can be relied on, and the container does what it is
told (`Endpoint.Able`); and a start that succeeds leaves all this as it was for the
endpoints that come after (`World.Kept`). So the walk along the endpoints comes to no
failures, and each container gets one subscription after the other
(`Registry.switchEach_able`).

Listeners are new and all different. That is why no container takes a subscription for
one that it has.
-/

namespace KeyRelay

/-! ## What can be relied on -/

/-- A container without a script takes every listener. -/
theorem Station.subscribe_of_free (s : Station) (h : s.scripted = false) (listener : ListenerId)
    (topic : Topic) :
    ∃ s', s.subscribe listener topic = (.ok (), s') ∧ s'.scripted = false ∧
      s'.container = s.container.add listener topic := by
  refine ⟨{ s with container := s.container.add listener topic }, ?_, h, rfl⟩
  simp [Station.subscribe, Station.noteCall, Station.attempt, h]

namespace World

/-- The container exists and does what it is told. -/
def Serves (w : World) (name : ContainerId) : Prop :=
  ∃ station, w.stations.get? name = some station ∧ station.scripted = false

/-- The resolver exists and its cache makes no difference to what it answers. -/
def Resolves (w : World) (id : ResolverId) : Prop := ∃ r, w.resolvers[id]? = some r ∧ r.Sound

/-- A later world with the same listeners, in which one can rely on the same. -/
structure Kept (w w' : World) : Prop where
  adapters : w'.adapters = w.adapters
  serves : ∀ name, w.Serves name → w'.Serves name
  resolves : ∀ id, w.Resolves id → w'.Resolves id

variable {w w₁ w' : World}

theorem Kept.refl (w : World) : w.Kept w := ⟨rfl, fun _ h => h, fun _ h => h⟩

theorem Kept.trans (h : w.Kept w₁) (h' : w₁.Kept w') : w.Kept w' :=
  ⟨h'.adapters.trans h.adapters, fun name hname => h'.serves name (h.serves name hname),
    fun id hid => h'.resolves id (h.resolves id hid)⟩

/-- **A topic that is not blank is resolved.** -/
theorem Resolves.resolve {id : ResolverId} (h : w.Resolves id) {destination : String}
    (hshown : isBlank destination = false) :
    ∃ w', (environment.resolve id destination).run w = (.ok (.named destination), w') ∧
      w.Kept w' ∧ w'.stations = w.stations := by
  obtain ⟨r, hr, hsound⟩ := h
  obtain ⟨hfound, hsound'⟩ := hsound.resolve destination
  rw [Topic.ofDestination_of_shown hshown] at hfound
  refine ⟨{ w with resolvers := w.resolvers.set id (r.resolve destination).2 }, ?_,
    ⟨rfl, fun _ hname => hname, fun other hother => ?_⟩, rfl⟩
  · show w.resolve id destination = _
    unfold World.resolve
    rw [hr]
    dsimp only
    rw [hfound]
  · by_cases hid : id = other
    · obtain rfl := hid
      refine ⟨_, List.getElem?_set_self ?_, hsound'⟩
      exact (List.getElem?_eq_some_iff.mp hr).1
    · obtain ⟨r', hr', hsound'⟩ := hother
      exact ⟨r', (List.getElem?_set_ne hid).trans hr', hsound'⟩

theorem atStation_of_ok {name : ContainerId} {station station' : Station}
    {call : Station → Except ListenerError Unit × Station}
    (hstation : w.stations.get? name = some station) (hdone : call station = (.ok (), station')) :
    w.atStation name call =
      (.ok (), { w with stations := w.stations.insert name station' }) := by
  unfold atStation
  rw [hstation]
  dsimp only
  rw [hdone]

/-- **A container that does what it is told takes a listener.** -/
theorem Serves.subscribe {name : ContainerId} (h : w.Serves name) (listener : ListenerId)
    (topic : Topic) :
    ∃ w', (environment.subscribe name listener topic).run w = (.ok (), w') ∧ w.Kept w' ∧
      ∀ other, w'.container other =
        if other = name then (w.container other).add listener topic else w.container other := by
  obtain ⟨station, hstation, hfree⟩ := h
  obtain ⟨station', hdone, hfree', hadded⟩ := station.subscribe_of_free hfree listener topic
  refine ⟨{ w with stations := w.stations.insert name station' }, ?_,
    ⟨rfl, fun other hother => ?_, fun _ hid => hid⟩, fun other => ?_⟩
  · exact atStation_of_ok hstation hdone
  · by_cases hname : name = other
    · exact ⟨station', (Table.get?_insert _ _ _ _).trans (if_pos hname), hfree'⟩
    · obtain ⟨others, hothers, hfree⟩ := hother
      exact ⟨others, ((Table.get?_insert _ _ _ _).trans (if_neg hname)).trans hothers, hfree⟩
  · rw [container_insert]
    by_cases hname : other = name
    · rw [if_pos hname, if_pos hname, hname, container_of_get? hstation, hadded]
    · rw [if_neg hname, if_neg hname]

end World

/-! ## One endpoint -/

namespace Endpoint

/-- An endpoint that can be started. -/
structure Able (e : Endpoint) (w : World) (b : Binding) : Prop where
  idle : e.isRunning = false
  startable : e.stage.startable? = some b
  shown : isBlank e.topic = false
  resolves : w.Resolves e.resolver
  serves : w.Serves b.container

/-- The endpoint once it is started, if it is one that can be. -/
def launched (e : Endpoint) : Endpoint :=
  match e.stage.startable? with
  | some b => (e.reach (.running b)).tell true
  | none => e

variable {e : Endpoint} {w w' : World} {b : Binding}

theorem Able.kept (h : e.Able w b) (hkept : w.Kept w') : e.Able w' b :=
  ⟨h.idle, h.startable, h.shown, hkept.resolves _ h.resolves, hkept.serves _ h.serves⟩

theorem Able.launched_eq (h : e.Able w b) : e.launched = (e.reach (.running b)).tell true := by
  unfold launched
  rw [h.startable]

theorem Able.listener (h : e.Able w b) : e.listener? = some b.listener := by
  have hbinding : e.lifecycle.binding? = some b := (Stage.binding?_of_startable h.startable).1
  rw [listener?, hbinding, Option.map_some]

theorem Able.subscription (h : e.Able w b) (name : ContainerId) :
    e.launched.subscription? name =
      if b.container = name then some ⟨b.listener, .named e.topic⟩ else none := by
  rw [h.launched_eq]
  exact subscription?_of_active rfl name

/-- **An endpoint that can be started is started**, and its container has its listener. -/
theorem Able.start (h : e.Able w b) :
    ∃ w', (e.call World.environment .start).run w = ((.ok (), e.launched), w') ∧ w.Kept w' ∧
      ∀ name, w'.container name =
        if name = b.container then (w.container name).add b.listener (.named e.topic)
        else w.container name := by
  obtain ⟨w₁, hresolve, hkept, hstations⟩ := h.resolves.resolve h.shown
  obtain ⟨w', hsubscribe, hkept', hcontainer⟩ :=
    (hkept.serves _ h.serves).subscribe b.listener (.named e.topic)
  have hsame : ∀ name, w₁.container name = w.container name := fun name => by
    unfold World.container
    rw [hstations]
  refine ⟨w', ?_, hkept.trans hkept', fun name => ?_⟩
  · rw [h.launched_eq]
    exact (Step.started h.startable hresolve hsubscribe).run_eq
  · rw [hcontainer, hsame]

end Endpoint

/-! ## All endpoints -/

theorem Container.subscriptions_add {c : Container} {listener : ListenerId} {topic : Topic}
    (h : ∀ s ∈ c.subscriptions, s.listener ≠ listener) :
    (c.add listener topic).subscriptions = c.subscriptions ++ [⟨listener, topic⟩] := by
  unfold add
  rw [if_neg fun hmem => h _ hmem rfl]

/-- **All endpoints are started, and their listeners subscribed in order**; by induction on the
endpoints. No listener of theirs is known in the container it is for. -/
theorem Registry.switchEach_able {es : List Endpoint} {w : World}
    (hable : ∀ e ∈ es, ∃ b, e.Able w b) (hlisteners : (es.map (·.listener?)).Nodup)
    (hnew : ∀ e ∈ es, ∀ b, e.Able w b → ∀ s ∈ (w.container b.container).subscriptions,
      some s.listener ∉ es.map (·.listener?)) :
    ∃ w', (switchEach World.environment true es).run w = (([], es.map (·.launched)), w') ∧
      w.Kept w' ∧ ∀ name, (w'.container name).subscriptions =
        (w.container name).subscriptions ++
          (es.map (·.launched)).filterMap (·.subscription? name) := by
  induction es generalizing w with
  | nil => exact ⟨w, rfl, .refl w, fun name => (List.append_nil _).symm⟩
  | cons e rest ih =>
      obtain ⟨⟨b, he⟩, hrest⟩ := List.forall_mem_cons.mp hable
      rw [List.map_cons, he.listener, List.nodup_cons] at hlisteners
      obtain ⟨w₁, hstart, hkept, hcontainer⟩ := he.start
      -- nobody in the container has this listener, so it is taken as a new one
      have hunknown : ∀ s ∈ (w.container b.container).subscriptions, s.listener ≠ b.listener := by
        intro s hs hsame
        refine hnew e List.mem_cons_self b he s hs ?_
        rw [hsame, List.map_cons, he.listener]
        exact List.mem_cons_self
      have hfirst : ∀ name, (w₁.container name).subscriptions = (w.container name).subscriptions ++
          [e.launched].filterMap (·.subscription? name) := by
        intro name
        have hmine := he.subscription name
        rw [hcontainer]
        by_cases hname : name = b.container
        · obtain rfl := hname
          rw [if_pos rfl] at hmine
          simp only [if_pos, Container.subscriptions_add hunknown, List.filterMap_cons, hmine,
            List.filterMap_nil]
        · rw [if_neg (Ne.symm hname)] at hmine
          simp only [if_neg hname, List.filterMap_cons, hmine, List.filterMap_nil,
            List.append_nil]
      -- the one subscription that has come is of none of the others, who can still be started
      obtain ⟨w', hwalk, hkept', hholds⟩ := ih
        (fun x hx => (hrest x hx).imp fun _ hx => hx.kept hkept) hlisteners.2 (by
          intro x hx b' hx' s hs
          rw [hfirst, List.mem_append, List.mem_filterMap] at hs
          rcases hs with hold | ⟨x', hx', hsubscription⟩
          · -- what was there before is not of the rest either
            obtain ⟨b'', hx''⟩ := hrest x hx
            obtain rfl := Option.some.inj (hx''.startable.symm.trans hx'.startable)
            exact fun hmem => hnew x (List.mem_cons_of_mem e hx) b'' hx'' s hold
              (List.mem_cons_of_mem _ hmem)
          · obtain rfl := List.mem_singleton.mp hx'
            rw [he.subscription] at hsubscription
            split at hsubscription
            · obtain rfl := Option.some.inj hsubscription
              exact hlisteners.1
            · exact absurd hsubscription nofun)
      refine ⟨w', ?_, hkept.trans hkept', fun name => ?_⟩
      · rw [switchEach, if_neg (by simp [he.idle])]
        exact (run_bind_of hstart).trans (run_bind_of hwalk)
      · rw [hholds, hfirst, List.append_assoc, ← List.filterMap_append]
        rfl

end KeyRelay
