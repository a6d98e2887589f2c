import KeyRelay.Proofs.Launch

/-!
# A configuration that is accepted comes up

The check of a configuration, the resolver, the registrar, the registry and the
containers each have a say in whether listeners come up. The check is the only one that
is asked beforehand. Here all are put together: what the check says and does not say
(`ConfigCheck`), a list of definitions that are registered (`Enrolment`), and endpoints
that are started (`Launch`). Between the last two stand the planned endpoints. They can
be started because the definitions are complete, and their listeners are all different
because they are numbered.
-/

namespace KeyRelay

/-! ## Planned endpoints -/

namespace Registrar

variable {r : Registrar} {main : ContainerId} {n : Nat} {ds : List Definition}

/-- A definition has the default container, or one that has a name. -/
theorem home_cases (r : Registrar) (main : ContainerId) (d : Definition) :
    r.home main d = main ∨ ∃ name, r.named.get? name = some (r.home main d) := by
  unfold home
  cases hname : givenName d.container with
  | none => exact .inl rfl
  | some name =>
      cases hcontainer : r.named.get? name with
      | none => exact .inl (by simp [hcontainer])
      | some container => exact .inr ⟨name, by simp [hcontainer]⟩

/-- Listeners are numbered from the first free number on. -/
theorem listeners_planned :
    (r.planned main n ds).map (·.listener?) =
      (List.range' n ds.length).map fun number => some (.adapter number) := by
  induction ds generalizing r n with
  | nil => rfl
  | cons d rest ih =>
      rw [planned_cons, List.map_cons, ih, List.length_cons, List.range'_succ, List.map_cons]
      rfl

theorem nodup_listeners_planned : ((r.planned main n ds).map (·.listener?)).Nodup := by
  rw [listeners_planned]
  exact (List.nodup_range' (s := n) (n := ds.length)).map fun a b h =>
    ListenerId.adapter.inj (Option.some.inj h)

end Registrar

/-! ## A system for a configuration -/

/-- A new system that has all that a configuration calls for: handlers, a container for each
definition, and the resolver of the configuration. -/
structure ListenerConfig.Fits (c : ListenerConfig) (s : System) (main : ContainerId) : Prop where
  /-- No two definitions choose the same id. -/
  ids : (c.listeners.filterMap fun d => givenName d.id).Nodup
  /-- None chooses an id like those that are made. -/
  reserved : ∀ d ∈ c.listeners, ∀ id, givenName d.id = some id →
    ∀ rest, id ≠ generatedIdPrefix ++ rest
  handlers : ∀ d ∈ c.listeners, (s.world.handlers.get? (d.bean, d.method)).isSome
  registry : s.registry = {}
  counter : s.registrar.counter = 0
  /-- The definitions are a list in memory, and so no more than a word can count. -/
  countable : c.listeners.length ≤ maxWord
  default : s.registrar.default = some main
  known : ∀ d ∈ c.listeners, ∀ name, givenName d.container = some name →
    (s.registrar.named.get? name).isSome
  /-- The resolver may have been asked before. -/
  resolver : ∃ asked,
    s.world.resolvers[s.registrar.resolver]? = some (c.resolver.resolveAll asked).2
  /-- All containers of the registrar do what they are told, and hold nothing. -/
  containers : ∀ container,
    container = main ∨ (∃ name, s.registrar.named.get? name = some container) →
      s.world.Serves container ∧ (s.world.container container).subscriptions = []

namespace ListenerConfig

theorem sound_resolver (c : ListenerConfig) (asked : List String) :
    (c.resolver.resolveAll asked).2.Sound :=
  ((Resolver.recalls_ofCapacity c.topicCacheCapacity).resolveAll asked).2.sound

namespace Fits

variable {c : ListenerConfig} {s : System} {main : ContainerId}

theorem admits (h : c.Fits s main) :
    s.registrar.Admits main s.registry s.world c.listeners := by
  have hempty : ∀ x, x ∉ s.registry.endpoints := by
    rw [h.registry]
    exact fun _ => List.not_mem_nil
  exact ⟨h.default, h.known, h.handlers, h.ids, h.reserved, by rw [h.registry],
    fun _ _ _ _ x hx => absurd hx (hempty x), fun _ _ x hx => absurd hx (hempty x),
    List.countP_le_length.trans (h.countable.trans (Nat.sub_le _ _))⟩

/-- The ids that are made are numbered from zero on. -/
theorem idAfter_eq (h : c.Fits s main) (i : Nat) (d : Definition) :
    s.registrar.idAfter (c.listeners.take i) d =
      (givenName d.id).getD (generatedId ((c.listeners.take i).countP (·.silent))) := by
  have hcount : (c.listeners.take i).countP (·.silent) ≤ maxWord :=
    ((List.take_sublist i _).countP_le.trans List.countP_le_length).trans h.countable
  have hnumber : (0 + UInt64.ofNat ((c.listeners.take i).countP (·.silent))).toNat =
      (c.listeners.take i).countP (·.silent) := by
    rw [UInt64.zero_add]
    exact UInt64.toNat_ofNat_of_lt' (Nat.lt_succ_of_le hcount)
  rw [Registrar.idAfter, h.counter, hnumber]

/-- **What was registered can be started**, if the definitions are complete. -/
theorem able (h : c.Fits s main) (hcomplete : ∀ d ∈ c.listeners, d.Complete) {w : World}
    (hstaffed : s.world.Staffed c.listeners w) {e : Endpoint}
    (he : e ∈ s.registrar.planned main s.world.adapters.size c.listeners) :
    ∃ b, e.Able w b ∧ (w.container b.container).subscriptions = [] := by
  obtain ⟨i, d, hd, rfl⟩ := Registrar.mem_planned he
  obtain ⟨asked, hasked⟩ := h.resolver
  obtain ⟨⟨station, hstation, hfree⟩, hempty⟩ :=
    h.containers _ (s.registrar.home_cases main d)
  refine ⟨⟨_, _⟩, ⟨rfl, rfl, (hcomplete d (List.mem_of_getElem? hd)).topic,
    ⟨_, ?_, c.sound_resolver asked⟩, station, ?_, hfree⟩, ?_⟩
  · rw [hstaffed.resolvers]
    exact hasked
  · rw [hstaffed.stations]
    exact hstation
  · unfold World.container
    rw [hstaffed.stations]
    exact hempty

/-- **All endpoints come up**: they are registered without an error and started without a failure,
and each container has one subscription more for each endpoint of its own. -/
theorem comes_up (h : c.Fits s main) (hcomplete : ∀ d ∈ c.listeners, d.Complete) :
    let es := s.registrar.planned main s.world.adapters.size c.listeners
    let registered := s.defineAll c.listeners
    let started := registered.2.start
    registered.1 = .ok es ∧ started.1 = .ok () ∧ started.2.registry.running = true ∧
      started.2.registry.endpoints = es.map (·.launched) ∧
      (∀ name, (started.2.world.container name).subscriptions =
        (s.world.container name).subscriptions ++
          (es.map (·.launched)).filterMap (·.subscription? name)) ∧
      ∃ w, s.world.Staffed c.listeners w ∧ started.2.world.adapters = w.adapters := by
  intro es registered started
  obtain ⟨r', registry', w₁, hregister, hendpoints, -, hstaffed⟩ := h.admits.registerAll
  have hregistered : registered =
      (.ok es, { s with world := w₁, registrar := r', registry := registry' }) := by
    have hrun : s.registrar.registerAll World.environment s.registry c.listeners s.world =
        ((.ok es, r', registry'), w₁) := hregister
    simp only [registered, System.defineAll, System.onWorld, hrun]
  have hes : registry'.endpoints = es := by
    rw [hendpoints, h.registry]
    rfl
  have hable : ∀ e ∈ es, ∃ b, e.Able w₁ b := fun e he =>
    (h.able hcomplete hstaffed he).imp fun _ hb => hb.1
  -- they are started as they were registered, in containers that hold nothing of theirs
  obtain ⟨w₂, hwalk, hkept, hholds⟩ := Registry.switchEach_able hable
    Registrar.nodup_listeners_planned fun e he b hb x hx => by
      obtain ⟨b', hb', hempty⟩ := h.able hcomplete hstaffed he
      obtain rfl := Option.some.inj (hb'.startable.symm.trans hb.startable)
      rw [hempty] at hx
      exact absurd hx List.not_mem_nil
  have hstarted : started = (.ok (), { s with
      world := w₂.report [], registrar := r',
      registry := { registry' with endpoints := es.map (·.launched), running := true } }) := by
    have hrun : registry'.start World.environment w₁ =
        (([], { registry' with endpoints := es.map (·.launched), running := true }), w₂) := by
      rw [Registry.start_eq, Registry.switch, hes]
      exact run_bind_of hwalk
    simp only [started, hregistered, System.start, System.onWorld, hrun]
    rfl
  have hcontainer : ∀ name, w₁.container name = s.world.container name := fun name => by
    unfold World.container
    rw [hstaffed.stations]
  rw [hregistered, hstarted]
  refine ⟨rfl, rfl, rfl, rfl, fun name => ?_, w₁, hstaffed, hkept.adapters⟩
  rw [← hcontainer]
  exact hholds name

end Fits

end ListenerConfig

/--
**A configuration that is accepted comes up.** The check of a configuration says whether a
definition lacks a topic, a bean or a method, and if so, which is the first of them and what it
lacks first.
Take a configuration that lacks nothing.

* Each topic is resolved by the resolver of the configuration, however little it can keep and
  whatever it was asked before, and so its listeners can always be listed.
* Let it be registered in a new system that fits it. This succeeds, and so does the start of the
  registry after it. The endpoints are those of the definitions, in order. All of them run, and none
  is stalled. An endpoint has the id that its definition chose, or the next one that was not made
  yet; it has the topic, the bean and the method of the definition, and its container or else the
  default one; and its listener is a new one for the handler of that method.
* Each container holds, in order, one subscription for each endpoint that runs with it, of its
  listener to what its topic names, and nothing else is held by the registrar's containers.
-/
theorem accepted_config_comes_up (c : ListenerConfig) :
    (c.validate = .ok () ↔ ∀ d ∈ c.listeners,
      isBlank d.topic = false ∧ isBlank d.bean = false ∧ isBlank d.method = false) ∧
    (∀ fault, c.validate = .error fault ↔
      ∃ before d after field, c.listeners = before ++ d :: after ∧ (∀ x ∈ before, x.Complete) ∧
        d.Lacks field ∧ fault = .blank before.length field) ∧
    (∀ index field, (ConfigFault.blank index field).error =
      .configuration ("listeners[" ++ toString index ++ "]." ++ field ++ " must not be blank")) ∧
    (c.validate = .ok () →
      (∀ d ∈ c.listeners, ∀ asked,
        ((c.resolver.resolveAll asked).2.resolve d.topic).1 = .ok (.named d.topic)) ∧
      (∀ {m : Type → Type} [Monad m] (exchange : Remote.Exchange m) (settings : Cli.Settings)
        (format : Cli.Format), settings.listener = c →
          Cli.perform exchange settings format .listeners =
            pure (.ok (Cli.listing format (c.listeners.map fun d => ⟨d, .named d.topic⟩)))) ∧
      ∀ (s : System) (main : ContainerId), c.Fits s main →
        let registered := s.defineAll c.listeners
        let started := registered.2.start
        let home (d : Definition) : ContainerId :=
          ((givenName d.container).bind s.registrar.named.get?).getD main
        let id (i : Nat) (d : Definition) : String := (givenName d.id).getD
          (generatedId ((c.listeners.take i).countP fun x => (givenName x.id).isNone))
        let endpoint (i : Nat) (d : Definition) (stage : Stage) (running : Bool) : Endpoint :=
          ⟨id i d, d.topic, d.bean, d.method, s.registrar.resolver, ⟨stage, running⟩⟩
        let binding (i : Nat) (d : Definition) : Binding :=
          ⟨home d, .adapter (s.world.adapters.size + i)⟩
        registered.1 = .ok (c.listeners.mapIdx fun i d =>
          endpoint i d (.registered (binding i d)) false) ∧
        started.1 = .ok () ∧ started.2.registry.running = true ∧
        started.2.registry.stalled = [] ∧
        started.2.registry.endpoints = (c.listeners.mapIdx fun i d =>
          endpoint i d (.running (binding i d)) true) ∧
        (∀ i d, c.listeners[i]? = some d → ∃ handler,
          s.world.handlers.get? (d.bean, d.method) = some handler ∧
          started.2.world.adapters[s.world.adapters.size + i]? =
            some ⟨d.bean, d.method, handler⟩) ∧
        ∀ name, (started.2.world.container name).subscriptions =
          (s.world.container name).subscriptions ++ c.listeners.zipIdx.filterMap fun x =>
            if home x.1 = name then some ⟨(binding x.2 x.1).listener, .named x.1.topic⟩
            else none) := by
  have hcheck : c.validate = .ok () ↔ ∀ d ∈ c.listeners, d.Complete :=
    ListenerConfig.checkFrom_eq_ok_iff
  have hfields : ∀ d : Definition, d.Complete ↔
      isBlank d.topic = false ∧ isBlank d.bean = false ∧ isBlank d.method = false :=
    fun d => ⟨fun h => ⟨h.topic, h.bean, h.method⟩, fun h => ⟨h.1, h.2.1, h.2.2⟩⟩
  refine ⟨?_, fun fault => ?_, fun _ _ => rfl, fun haccepted => ?_⟩
  · simpa only [hfields] using hcheck
  · refine ListenerConfig.checkFrom_eq_error_iff.trans ?_
    simp only [Nat.zero_add]
  have hcomplete := hcheck.mp haccepted
  refine ⟨fun d hd asked => ?_, ?_, fun s main hfits => ?_⟩
  · rw [((c.sound_resolver asked).resolve d.topic).1]
    exact Topic.ofDestination_of_shown (hcomplete d hd).topic
  · rintro m _ exchange settings format rfl
    exact Cli.perform_listeners exchange format fun d hd => (hcomplete d hd).topic
  intro registered started home id endpoint binding
  obtain ⟨hregistered, hstarted, hrunning, hendpoints, hholds, w, hstaffed, hadapters⟩ :=
    hfits.comes_up hcomplete
  have hid : ∀ i d, s.registrar.idAfter (c.listeners.take i) d = id i d := hfits.idAfter_eq
  have hlength : ∀ i < c.listeners.length, (c.listeners.take i).length = i := fun i hi =>
    List.length_take_of_le (Nat.le_of_lt hi)
  have hplanned : s.registrar.planned main s.world.adapters.size c.listeners =
      c.listeners.mapIdx fun i d => endpoint i d (.registered (binding i d)) false := by
    refine List.ext_getElem (by simp [Registrar.planned]) fun i hi _ => ?_
    rw [Registrar.planned, List.length_mapIdx] at hi
    simp only [Registrar.planned, Registrar.plan, List.getElem_mapIdx, hid, hlength i hi]
    rfl
  have hlaunched : (s.registrar.planned main s.world.adapters.size c.listeners).map
      (·.launched) = c.listeners.mapIdx fun i d => endpoint i d (.running (binding i d)) true := by
    rw [hplanned, List.mapIdx_eq_zipIdx_map, List.mapIdx_eq_zipIdx_map, List.map_map]
    rfl
  rw [hlaunched] at hendpoints hholds
  refine ⟨hregistered.trans (congrArg _ hplanned), hstarted, hrunning, ?_, hendpoints,
    fun i d hd => ?_, fun name => ?_⟩
  · rw [Registry.stalled, if_pos hrunning, hendpoints, List.filter_eq_nil_iff]
    intro e he
    obtain ⟨i, hi, rfl⟩ := List.mem_mapIdx.mp he
    exact Bool.false_ne_true
  · rw [hadapters]
    exact hstaffed.new i d hd
  · rw [hholds, List.mapIdx_eq_zipIdx_map, List.filterMap_map]
    congr 2
    funext x
    exact Endpoint.subscription?_of_active (b := binding x.2 x.1) rfl name

/-- Two listeners that share the default container and one that has a container of its own, with a
cache that has room for one topic. An id that is blank is made like one that is left out. -/
theorem accepted_config_comes_up_shared :
    let c : ListenerConfig :=
      { topicCacheCapacity := 1
        listeners :=
          [⟨some "orders", none, "orders.*", "orders", "take"⟩,
           ⟨some " ", some "audit", "audit", "audit", "see"⟩,
           ⟨none, none, "orders.new", "orders", "take"⟩] }
    let handlers : HandlerTable Handler :=
      (Table.empty.insert ("orders", "take") .record).insert ("audit", "see") .fail
    let s : System :=
      { world := { handlers, stations := (Table.empty.insert "main" {}).insert "side" {},
                   resolvers := [c.resolver] },
        registrar := { named := Table.empty.insert "audit" "side", default := some "main" } }
    let started := (s.defineAll c.listeners).2.start
    c.validate = .ok () ∧ c.Fits s "main" ∧ started.1 = .ok () ∧
      started.2.registry.stalled = [] ∧
      started.2.registry.endpoints.map (·.id) =
        ["orders", "redbind.ListenerEndpoint#0", "redbind.ListenerEndpoint#1"] ∧
      (started.2.world.container "main").subscriptions =
        [⟨.adapter 0, .pattern "orders.*"⟩, ⟨.adapter 2, .channel "orders.new"⟩] ∧
      (started.2.world.container "side").subscriptions = [⟨.adapter 1, .channel "audit"⟩] := by
  intro c handlers s started
  have haccepted : c.validate = .ok () := by decide +kernel
  have hfits : c.Fits s "main" := by
    refine ⟨by decide +kernel, ?_, by decide +kernel, rfl, rfl, by decide, rfl,
      by decide +kernel, ⟨[], rfl⟩, ?_⟩
    · intro d hd id hid rest heq
      have hchosen : id = "orders" := by
        have hids : ∀ d ∈ c.listeners, (givenName d.id).getD "orders" = "orders" := by
          decide +kernel
        simpa [hid] using hids d hd
      have hfirst : ("orders".toList).head? = (generatedIdPrefix ++ rest).toList.head? := by
        rw [← heq, hchosen]
      rw [String.toList_append] at hfirst
      exact absurd hfirst (by simp [generatedIdPrefix])
    · rintro container (rfl | ⟨name, hname⟩)
      · exact ⟨⟨{}, rfl, rfl⟩, rfl⟩
      · rw [Table.get?_insert, Table.get?_empty] at hname
        split at hname
        · obtain rfl := Option.some.inj hname
          exact ⟨⟨{}, rfl, rfl⟩, rfl⟩
        · exact absurd hname (by simp)
  obtain ⟨-, -, -, hup⟩ := accepted_config_comes_up c
  obtain ⟨-, -, hstarts⟩ := hup haccepted
  obtain ⟨-, hstarted, -, hstalled, hendpoints, -, hholds⟩ := hstarts s "main" hfits
  refine ⟨haccepted, hfits, hstarted, by rw [hstalled], ?_, ?_, ?_⟩
  · rw [hendpoints]
    decide +kernel
  · rw [hholds]
    decide +kernel
  · rw [hholds]
    decide +kernel

end KeyRelay
