import KeyRelay.Proofs.Lineup
import KeyRelay.Proofs.WorldStep

/-!
# Containers hold the endpoints that run

Three machines have to agree: the registry, which knows the endpoints, each endpoint,
which knows whether it runs, and the containers, which know listeners and topics only.
`Coupled` says that they do. Every endpoint has a listener of its own (`Roster`), and
what a container holds is the line of the endpoints that run (`Lineup`), read off as
subscriptions.

A start or a stop of a single endpoint keeps them coupled (`Coupled.call`). That it
touches no subscription but its own endpoint's is what the listeners' being distinct is
for.
-/

namespace KeyRelay

namespace Endpoint

/-- Whether the flag agrees with the stage. -/
def Truthful (e : Endpoint) : Prop := e.isRunning = e.active?.isSome

/-- An endpoint as it was before its registration. -/
def sheet (e : Endpoint) : Endpoint := { e with lifecycle := .unregistered }

/-- The one subscription that an endpoint has in a container it runs with. -/
def subscription? (e : Endpoint) (name : ContainerId) : Option Subscription :=
  (e.active?.filter (·.container = name)).map fun b => ⟨b.listener, .named e.topic⟩

theorem subscription?_eq_some {e : Endpoint} {name : ContainerId} {s : Subscription} :
    e.subscription? name = some s ↔
      ∃ b, e.active? = some b ∧ b.container = name ∧ s = ⟨b.listener, .named e.topic⟩ := by
  simp only [subscription?, Option.map_eq_some_iff, Option.filter_eq_some_iff, decide_eq_true_eq]
  constructor
  · rintro ⟨b, ⟨hactive, hname⟩, rfl⟩
    exact ⟨b, hactive, hname, rfl⟩
  · rintro ⟨b, hactive, hname, rfl⟩
    exact ⟨b, ⟨hactive, hname⟩, rfl⟩

theorem subscription?_of_active {e : Endpoint} {b : Binding} (h : e.active? = some b)
    (name : ContainerId) :
    e.subscription? name =
      if b.container = name then some ⟨b.listener, .named e.topic⟩ else none := by
  rw [subscription?, h, Option.filter_some]
  by_cases hname : b.container = name
  · rw [if_pos hname, if_pos (decide_eq_true hname), Option.map_some]
  · rw [if_neg hname, if_neg (by simpa using hname), Option.map_none]

theorem listener?_of_active {e : Endpoint} {b : Binding} (h : e.active? = some b) :
    e.listener? = some b.listener := by
  rw [listener?, binding?_of_active h, Option.map_some]

/-- An endpoint whose listener is an adapter for what its handler does. -/
structure Wired (w : World) (e : Endpoint) (react : Behaviour) : Prop where
  truthful : e.Truthful
  listener : ∃ number, e.listener? = some (.adapter number) ∧
    w.adapters[number]? = some ⟨e.bean, e.method, .plain react⟩

theorem Wired.alike {w w' : World} {e : Endpoint} {react : Behaviour}
    (h : e.Wired w react) (hadapters : w'.adapters = w.adapters) : e.Wired w' react :=
  ⟨h.truthful, by rw [hadapters]; exact h.listener⟩

/-- One endpoint at two times after its registration. -/
structure Same (e e' : Endpoint) : Prop where
  sheet : e'.sheet = e.sheet
  binding : e'.lifecycle.binding? = e.lifecycle.binding?

namespace Same

variable {e e' : Endpoint}

theorem id (h : Same e e') : e'.id = e.id := congrArg (·.id) h.sheet

theorem bean (h : Same e e') : e'.bean = e.bean := congrArg (·.bean) h.sheet

theorem method (h : Same e e') : e'.method = e.method := congrArg (·.method) h.sheet

theorem topic (h : Same e e') : e'.topic = e.topic := congrArg (·.topic) h.sheet

theorem listener (h : Same e e') : e'.listener? = e.listener? := by
  rw [listener?, h.binding, listener?]

theorem container (h : Same e e') : e'.container? = e.container? := by
  rw [container?, h.binding, container?]

end Same

/-- Starts and stops change neither what an endpoint is nor what it is bound to. -/
theorem Step.same {W : Type} {env : Environment W} {e e' : Endpoint} {w w' : W}
    {call : EndpointCall} {result : Except ListenerError Unit}
    (h : Step env e w call result e' w') (hcall : ∀ container, call ≠ .register container) :
    Same e e' := by
  cases h with
  | unmade => exact absurd rfl (hcall _)
  | registered => exact absurd rfl (hcall _)
  | started hb => exact ⟨rfl, (Stage.binding?_of_startable hb).1.symm⟩
  | stopped hstage => exact ⟨rfl, (congrArg Stage.binding? hstage).symm⟩
  | _ => exact ⟨rfl, rfl⟩

end Endpoint

/-- The move that brought an endpoint into the registry, and the handler that it found there. -/
def Admitted (s₀ : System) (past : List SystemMove) (e : Endpoint) (react : Behaviour) :
    Prop :=
  ∃ before after container handlers,
    past = before ++ .register e.sheet container handlers :: after ∧
    (s₀.run before).registry.find? e.id = none ∧
    e.container? = some container ∧ handlers.get? (e.bean, e.method) = some (.plain react)

theorem Admitted.later {s₀ : System} {past : List SystemMove} {e : Endpoint}
    {react : Behaviour} (h : Admitted s₀ past e react) (move : SystemMove) :
    Admitted s₀ (past ++ [move]) e react := by
  obtain ⟨before, after, container, handlers, rfl, hrest⟩ := h
  exact ⟨before, after ++ [move], container, handlers, by simp, hrest⟩

theorem Admitted.of_same {s₀ : System} {past : List SystemMove} {e e' : Endpoint}
    {react : Behaviour} (h : Admitted s₀ past e react) (hsame : e.Same e') :
    Admitted s₀ past e' react := by
  unfold Admitted
  rw [hsame.sheet, hsame.id, hsame.bean, hsame.method, hsame.container]
  exact h

/-! ## The endpoints of a registry -/

/-- Endpoints with ids and listeners of their own. -/
structure Roster (s₀ : System) (past : List SystemMove) (w : World) (es : List Endpoint) :
    Prop where
  ids : (es.map (·.id)).Nodup
  listeners : (es.map (·.listener?)).Nodup
  wired : ∀ e ∈ es, ∃ react, e.Wired w react ∧ Admitted s₀ past e react

namespace Roster

variable {s₀ : System} {past : List SystemMove} {w w' : World} {es done rest : List Endpoint}
  {e e' : Endpoint}

theorem nodup (h : Roster s₀ past w es) : es.Nodup := h.ids.of_map

theorem alike (h : Roster s₀ past w es) (hadapters : w'.adapters = w.adapters) :
    Roster s₀ past w' es where
  ids := h.ids
  listeners := h.listeners
  wired e he := by
    obtain ⟨react, hwired, hadmitted⟩ := h.wired e he
    exact ⟨react, hwired.alike hadapters, hadmitted⟩

/-- One of the endpoints goes to another stage. -/
theorem replace (h : Roster s₀ past w (done ++ e :: rest)) (hsame : e.Same e')
    (htruthful : e'.Truthful) : Roster s₀ past w (done ++ e' :: rest) where
  ids := by
    have hids := h.ids
    simp only [List.map_append, List.map_cons, hsame.id] at hids ⊢
    exact hids
  listeners := by
    have hlisteners := h.listeners
    simp only [List.map_append, List.map_cons, hsame.listener] at hlisteners ⊢
    exact hlisteners
  wired x hx := by
    have hcases : x = e' ∨ x ∈ done ++ e :: rest := by
      simp only [List.mem_append, List.mem_cons] at hx ⊢
      tauto
    rcases hcases with rfl | hold
    · obtain ⟨react, ⟨-, hadapter⟩, hadmitted⟩ := h.wired e (by simp)
      refine ⟨react, ⟨htruthful, ?_⟩, hadmitted.of_same hsame⟩
      rw [hsame.listener, hsame.bean, hsame.method]
      exact hadapter
    · exact h.wired x hold

/-- No two endpoints have one listener. -/
theorem eq_of_listener (h : Roster s₀ past w es) (he : e ∈ es) (he' : e' ∈ es)
    (hlistener : e'.listener? = e.listener?) : e' = e :=
  List.inj_on_of_nodup_map h.listeners he' he hlistener

end Roster

/-! ## The coupling -/

/-- The registry's endpoints, the line of those that run, and the containers agree. -/
structure Coupled (s₀ : System) (past : List SystemMove) (timeline : List (List Endpoint))
    (w : World) (es line : List Endpoint) : Prop where
  roster : Roster s₀ past w es
  sound : w.Sound
  lineup : Lineup timeline es line
  resolved : ∀ e ∈ line, Topic.ofDestination e.topic = .ok (.named e.topic)
  contents : ∀ name, (w.container name).subscriptions = line.filterMap (·.subscription? name)

namespace Coupled

variable {s₀ : System} {past : List SystemMove} {timeline : List (List Endpoint)} {w w' : World}
  {es line done rest : List Endpoint} {e e' : Endpoint}

theorem alike (h : Coupled s₀ past timeline w es line) (halike : w.Alike w') :
    Coupled s₀ past timeline w' es line where
  roster := h.roster.alike halike.adapters
  sound := halike.sound h.sound
  lineup := h.lineup
  resolved := h.resolved
  contents name := by rw [halike.container, h.contents]

theorem later (h : Coupled s₀ past timeline w es line) (move : SystemMove) :
    Coupled s₀ (past ++ [move]) timeline w es line :=
  { h with
    roster := { h.roster with
      wired := fun e he => by
        obtain ⟨react, hwired, hadmitted⟩ := h.roster.wired e he
        exact ⟨react, hwired, hadmitted.later move⟩ } }

theorem still (h : Coupled s₀ past timeline w es line) :
    Coupled s₀ past (timeline ++ [es]) w es line :=
  { h with lineup := h.lineup.still }

/-- A container that knows a listener is the one its endpoint runs with. -/
theorem active_of_listener (h : Coupled s₀ past timeline w es line) (he : e ∈ es) {b : Binding}
    (hb : e.lifecycle.binding? = some b) {name : ContainerId} {s : Subscription}
    (hs : s ∈ (w.container name).subscriptions) (hlistener : s.listener = b.listener) :
    e.active? = some b ∧ b.container = name := by
  rw [h.contents, List.mem_filterMap] at hs
  obtain ⟨x, hx, hs⟩ := hs
  obtain ⟨bx, hactive, hcontainer, rfl⟩ := Endpoint.subscription?_eq_some.mp hs
  dsimp only at hlistener
  have hsame : x.listener? = e.listener? := by
    rw [Endpoint.listener?_of_active hactive, Endpoint.listener?, hb, Option.map_some, hlistener]
  obtain rfl := h.roster.eq_of_listener he ((h.lineup.mem_iff x).mp hx).1 hsame
  obtain rfl := Option.some.inj (hb.symm.trans (Endpoint.binding?_of_active hactive))
  exact ⟨hactive, hcontainer⟩

/-- To take an endpoint out of the line is to take its listener out of the container. -/
theorem filterMap_filter_ne (h : Coupled s₀ past timeline w es line) (he : e ∈ es) {b : Binding}
    (hactive : e.active? = some b) (name : ContainerId) :
    (line.filter (· ≠ e)).filterMap (·.subscription? name) =
      (line.filterMap (·.subscription? name)).filter (·.listener != b.listener) := by
  rw [List.filterMap_filter, List.filter_filterMap]
  apply List.filterMap_congr
  intro x hx
  cases hs : x.subscription? name with
  | none => simp
  | some s =>
      obtain ⟨bx, hbx, -, rfl⟩ := Endpoint.subscription?_eq_some.mp hs
      -- listeners tell endpoints apart
      have hiff : x = e ↔ bx.listener = b.listener := by
        constructor
        · rintro rfl
          rw [Option.some.inj (hbx.symm.trans hactive)]
        · intro hlistener
          refine h.roster.eq_of_listener he ((h.lineup.mem_iff x).mp hx).1 ?_
          rw [Endpoint.listener?_of_active hbx, Endpoint.listener?_of_active hactive, hlistener]
      by_cases hxe : x = e
      · simp [Option.filter_some, hxe, hiff.mp hxe]
      · simp [Option.filter_some, hxe, mt hiff.mpr hxe]

/-- An endpoint that did not run is subscribed, and goes to the end of the line. -/
theorem started (h : Coupled s₀ past timeline w (done ++ e :: rest) line) {b : Binding}
    (hb : e.lifecycle.binding? = some b) (hidle : e.active? = none)
    (htopic : Topic.ofDestination e.topic = .ok (.named e.topic)) (hsame : e.Same e')
    (htruthful : e'.Truthful) (hactive : e'.active? = some b)
    (hamended : w.Amended b.container (·.add b.listener (.named e.topic)) w') :
    Coupled s₀ past (timeline ++ [done ++ e' :: rest]) w' (done ++ e' :: rest) (line ++ [e']) := by
  have hroster := (h.roster.replace hsame htruthful).alike hamended.adapters
  have hlineup := h.lineup.started hroster.nodup hidle (by rw [hactive]; rfl)
  refine ⟨hroster, hamended.sound h.sound, hlineup, fun x hx => ?_, fun name => ?_⟩
  · rcases List.mem_append.mp hx with hx | hx
    · exact h.resolved x hx
    · rw [List.mem_singleton.mp hx, hsame.topic]
      exact htopic
  · rw [List.filterMap_append, ← h.contents, hamended.container, List.filterMap_cons,
      Endpoint.subscription?_of_active hactive, List.filterMap_nil, hsame.topic]
    by_cases hname : name = b.container
    · subst hname
      -- were the listener there already, its endpoint would run
      have hfree : ⟨b.listener, .named e.topic⟩ ∉ (w.container b.container).subscriptions := by
        intro hs
        rw [(h.active_of_listener (by simp) hb hs rfl).1] at hidle
        exact absurd hidle (by simp)
      rw [if_pos rfl, if_pos rfl, Container.add, if_neg hfree]
    · rw [if_neg hname, if_neg (Ne.symm hname), List.append_nil]

/-- An endpoint that ran leaves the line, and its listener the container. -/
theorem stopped (h : Coupled s₀ past timeline w (done ++ e :: rest) line) {b : Binding}
    (hactive : e.active? = some b) (hsame : e.Same e') (htruthful : e'.Truthful)
    (hidle : e'.active? = none) (hamended : w.Amended b.container (·.remove b.listener) w') :
    Coupled s₀ past (timeline ++ [done ++ e' :: rest]) w' (done ++ e' :: rest)
      (line.filter (· ≠ e)) := by
  have he : e ∈ done ++ e :: rest := by simp
  have hroster := (h.roster.replace hsame htruthful).alike hamended.adapters
  refine ⟨hroster, hamended.sound h.sound, h.lineup.stopped h.roster.nodup hidle,
    fun x hx => h.resolved x (List.mem_filter.mp hx).1, fun name => ?_⟩
  rw [h.filterMap_filter_ne he hactive, ← h.contents, hamended.container]
  by_cases hname : name = b.container
  · rw [if_pos hname]
    rfl
  · -- in any other container there is nothing of this listener to take out
    rw [if_neg hname, eq_comm, List.filter_eq_self]
    intro s hs
    rw [bne_iff_ne]
    intro hlistener
    have hb := Endpoint.binding?_of_active hactive
    exact hname (h.active_of_listener he hb hs hlistener).2.symm

/-- **A start or a stop of one endpoint keeps all coupled**, whether it succeeds or not. -/
theorem call (h : Coupled s₀ past timeline w (done ++ e :: rest) line) {call : EndpointCall}
    {result : Except ListenerError Unit}
    (hstep : Endpoint.Step World.environment e w call result e' w')
    (hcall : ∀ container, call ≠ .register container) :
    ∃ line', Coupled s₀ past (timeline ++ [done ++ e' :: rest]) w' (done ++ e' :: rest) line' := by
  have hsame := hstep.same hcall
  rcases hstep.in_world hcall h.sound with ⟨rfl, halike⟩ |
    ⟨b, hb, hidle, htopic, rfl, hamended⟩ | ⟨b, hactive, rfl, hamended⟩
  · exact ⟨line, (h.alike halike).still⟩
  · exact ⟨_, h.started hb hidle htopic hsame rfl rfl hamended⟩
  · exact ⟨_, h.stopped hactive hsame rfl rfl hamended⟩

end Coupled

end KeyRelay
