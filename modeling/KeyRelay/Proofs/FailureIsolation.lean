import KeyRelay.Proofs.Lineup
import KeyRelay.Proofs.Oblivious
import KeyRelay.Proofs.PlainHandlers

/-!
# Failures of handlers stay with the handlers

Two systems are twins if they differ in nothing but what their handlers make of an
envelope: what they note, whether they fail, and how. A handler may decide that anew at
each invocation. Twins that are asked the same give the same answers and are twins again,
so they cannot be told apart by any history, however long.

There are two halves to it. Registering, starting and stopping see the world through the
environment of endpoints, and that environment does not look into handlers
(`World.oblivious_environment`); `Oblivious` does the rest. Publishing does run the
handlers, but who is invoked, and with which envelope, is settled before the first of
them, and what the handlers leave behind goes to the log only (`System.publish_plain`).
So the invocations of twins are the same, and with them the past that handlers remember.
-/

namespace KeyRelay

/-! ## Twins -/

namespace HandlerTable

/-- Tables with handlers for the same methods. The handlers do not act on the system, and may do
different things otherwise. -/
structure Twin (t t' : HandlerTable Handler) : Prop where
  keys : ∀ key, (t.get? key).isSome = (t'.get? key).isSome
  plain : t.Plain
  plain' : t'.Plain

theorem Twin.refl {t : HandlerTable Handler} (h : t.Plain) : t.Twin t := ⟨fun _ => rfl, h, h⟩

end HandlerTable

/-- Worlds that differ in what their handlers do, and in what was written down. Their handlers were
invoked in the same way. -/
structure World.Twin (w w' : World) : Prop where
  handlers : w.handlers.Twin w'.handlers
  stations : w'.stations = w.stations
  resolvers : w'.resolvers = w.resolvers
  /-- The adapters are for the same methods. -/
  methods : w'.adapters.map (fun a => (a.bean, a.method)) =
    w.adapters.map fun a => (a.bean, a.method)
  plain : w.Plain
  plain' : w'.Plain
  invoked : w'.invoked = w.invoked

structure System.Twin (s s' : System) : Prop where
  world : s.world.Twin s'.world
  registry : s'.registry = s.registry
  registrar : s'.registrar = s.registrar

namespace World

variable {w w' : World}

theorem Plain.push (h : w.Plain) (a : Adapter) (ha : ∃ react, a.handler = .plain react) :
    ∀ b ∈ w.adapters.push a, ∃ react, b.handler = .plain react := by
  intro b hb
  rcases Array.mem_push.mp hb with hold | rfl
  · exact h b hold
  · exact ha

namespace Twin

theorem container (h : w.Twin w') (name : ContainerId) : w'.container name = w.container name := by
  unfold World.container
  rw [h.stations]

theorem size (h : w.Twin w') : w'.adapters.size = w.adapters.size := by
  simpa using congrArg Array.size h.methods

/-- What is written down does not matter, if it is said of the same invocations. -/
theorem extend (h : w.Twin w') (invoked : List Invocation) (entries entries' : List LogEntry)
    (events events' : List Event) :
    (w.extend invoked entries events).Twin (w'.extend invoked entries' events') :=
  { h with invoked := congrArg (invoked.reverse ++ ·) h.invoked }

theorem report (h : w.Twin w') (events events' : List Event) :
    (w.report events).Twin (w'.report events') := { h with }

theorem note (h : w.Twin w') (entry : LogEntry) : (w.note entry).Twin (w'.note entry) :=
  { h with }

/-- Both get handlers for the same methods. -/
theorem give (h : w.Twin w') {t t' : HandlerTable Handler} (ht : t.Twin t') :
    World.Twin { w with handlers := t } { w' with handlers := t' } :=
  { h with handlers := ht }

theorem create (h : w.Twin w') (bean method : String) :
    (w.create bean method).1 = (w'.create bean method).1 ∧
      (w.create bean method).2.Twin (w'.create bean method).2 := by
  have hnoted := h.note (.created bean method)
  have hkeys := h.handlers.keys (bean, method)
  unfold World.create HandlerTable.create
  dsimp only [World.note] at hnoted ⊢
  cases hfound : w.handlers.get? (bean, method) with
  | none =>
      cases hfound' : w'.handlers.get? (bean, method) with
      | none => exact ⟨rfl, hnoted⟩
      | some _ => simp [hfound, hfound'] at hkeys
  | some handler =>
      cases hfound' : w'.handlers.get? (bean, method) with
      | none => simp [hfound, hfound'] at hkeys
      | some handler' =>
          -- the new adapters have different handlers and one number
          exact ⟨by simp only [h.size], { hnoted with
            methods := by simp only [Array.map_push, h.methods]
            plain := h.plain.push _ (h.handlers.plain _ _ hfound)
            plain' := h.plain'.push _ (h.handlers.plain' _ _ hfound') }⟩

theorem resolve (h : w.Twin w') (id : ResolverId) (destination : String) :
    (w.resolve id destination).1 = (w'.resolve id destination).1 ∧
      (w.resolve id destination).2.Twin (w'.resolve id destination).2 := by
  unfold World.resolve
  rw [h.resolvers]
  cases w.resolvers[id]? with
  | none => exact ⟨rfl, h⟩
  | some r => exact ⟨rfl, { h with resolvers := rfl }⟩

theorem atStation (h : w.Twin w') (container : ContainerId)
    (call : Station → Except ListenerError Unit × Station) :
    (w.atStation container call).1 = (w'.atStation container call).1 ∧
      (w.atStation container call).2.Twin (w'.atStation container call).2 := by
  unfold World.atStation
  rw [h.stations]
  cases w.stations.get? container with
  | none => exact ⟨rfl, h⟩
  | some station => exact ⟨rfl, { h with stations := rfl }⟩

end Twin

/-- **The environment of endpoints does not look into handlers.** -/
theorem oblivious_environment : environment.Oblivious World.Twin where
  create bean method _ _ h := h.create bean method
  resolve id destination _ _ h := h.resolve id destination
  subscribe container listener topic _ _ h := h.atStation container (·.subscribe listener topic)
  unsubscribe container listener _ _ h := h.atStation container (·.unsubscribe listener)

end World

/-! ## What systems are asked and answer -/

/-- What a system can be asked to do. The handlers to choose from come along with what is to be
registered. -/
inductive SystemCall where
  | move (m : SystemMove)
  /-- Registers what a definition describes. -/
  | define (d : Definition) (handlers : HandlerTable Handler)
  | defineAll (ds : List Definition) (handlers : HandlerTable Handler)

inductive SystemAnswer where
  | registered (result : Except ListenerError Endpoint)
  | registeredAll (result : Except ListenerError (List Endpoint))
  | switched (result : Except ListenerError Unit)
  /-- Nothing if there is no endpoint of the id. -/
  | switchedOne (result : Option (Except ListenerError Unit))
  | delivered (count : Nat)

namespace System

/-- The system with other handlers to choose from. -/
def give (s : System) (handlers : HandlerTable Handler) : System :=
  { s with world := { s.world with handlers } }

def answer (s : System) : SystemMove → SystemAnswer
  | .register e container handlers =>
    .registered ((s.give handlers).registerListener e container).1
  | .start => .switched s.start.1
  | .stop => .switched s.stop.1
  | .startOne id => .switchedOne (s.control true id).1
  | .stopOne id => .switchedOne (s.control false id).1
  | .publish container channel payload => .delivered (s.publish container channel payload).1

def ask (s : System) : SystemCall → SystemAnswer × System
  | .move m => (s.answer m, s.play m)
  | .define d handlers => ((s.give handlers).define d).map .registered id
  | .defineAll ds handlers => ((s.give handlers).defineAll ds).map .registeredAll id

/-- How a call makes the system invoke handlers, in order: what the call adds to the record. -/
def invocations (s : System) (call : SystemCall) : List Invocation :=
  let invoked := (s.ask call).2.world.invoked
  (invoked.take (invoked.length - s.world.invoked.length)).reverse

end System

/-- What can be seen of a call: what was answered, the endpoints and the subscriptions after it, and
how handlers were invoked. -/
structure Observation where
  answer : SystemAnswer
  registry : Registry
  stations : Table ContainerId Station
  invocations : List Invocation

namespace System

/-- What can be seen of a history, call by call. -/
def transcript (s : System) : List SystemCall → List Observation
  | [] => []
  | call :: rest =>
    let (answer, s') := s.ask call
    ⟨answer, s'.registry, s'.world.stations, s.invocations call⟩ :: s'.transcript rest

def after (s : System) (calls : List SystemCall) : System :=
  calls.foldl (fun s call => (s.ask call).2) s

end System

/-- One and the same call, but for what the handlers do that come along. -/
inductive SystemCall.Twin : SystemCall → SystemCall → Prop
  | register (e : Endpoint) (container : ContainerId) {t t' : HandlerTable Handler}
      (h : t.Twin t') :
      Twin (.move (.register e container t)) (.move (.register e container t'))
  | define (d : Definition) {t t' : HandlerTable Handler} (h : t.Twin t') :
      Twin (.define d t) (.define d t')
  | defineAll (ds : List Definition) {t t' : HandlerTable Handler} (h : t.Twin t') :
      Twin (.defineAll ds t) (.defineAll ds t')
  | start : Twin (.move .start) (.move .start)
  | stop : Twin (.move .stop) (.move .stop)
  | startOne (id : String) : Twin (.move (.startOne id)) (.move (.startOne id))
  | stopOne (id : String) : Twin (.move (.stopOne id)) (.move (.stopOne id))
  | publish (container : ContainerId) (channel : String) (payload : Bytes) :
      Twin (.move (.publish container channel payload))
        (.move (.publish container channel payload))

/-! ## Twins stay twins -/

theorem World.Twin.invocation? {w w' : World} (h : w.Twin w') :
    w'.invocation? = w.invocation? := by
  funext d
  obtain ⟨listener, message, pattern⟩ := d
  cases listener with
  | raw _ => rfl
  | adapter number =>
      have hmethods := congrArg (·[number]?) h.methods
      simp only [Array.getElem?_map] at hmethods
      unfold World.invocation?
      dsimp only
      cases hadapter : w.adapters[number]? with
      | none =>
          rw [hadapter] at hmethods
          rw [Option.map_eq_none_iff.mp hmethods]
      | some a =>
          rw [hadapter] at hmethods
          obtain ⟨a', hadapter', hsame⟩ := Option.map_eq_some_iff.mp hmethods
          obtain ⟨hbean, hmethod⟩ := Prod.mk.inj hsame
          rw [hadapter', Option.map_some, Option.map_some, hbean, hmethod]

/-- **A handler that is invoked reacts to the envelope it is given** and to the invocations before,
and to nothing else. -/
theorem World.Plain.reacts {w : World} (h : w.Plain) {d : Delivery} {i : Invocation}
    (hi : w.invocation? d = some i) :
    ∃ number a react, i.listener = .adapter number ∧ w.adapters[number]? = some a ∧
      a.handler = .plain react ∧ ∀ past,
        w.entries past d = (react past i.envelope).notes.map (.noted i.bean i.method) ∧
        w.failures past d = a.report d.message (react past i.envelope).outcome := by
  obtain ⟨listener, message, pattern⟩ := d
  cases listener with
  | raw _ => exact absurd hi (by simp [invocation?])
  | adapter number =>
      obtain ⟨a, hadapter, rfl⟩ := Option.map_eq_some_iff.mp hi
      obtain ⟨react, hreact⟩ := h a (Array.mem_of_getElem? hadapter)
      refine ⟨number, a, react, rfl, hadapter, hreact, fun past => ?_⟩
      simp only [entries, failures, reaction?, hadapter, hreact, and_self]

namespace System.Twin

variable {s s' : System}

theorem give (h : s.Twin s') {t t' : HandlerTable Handler} (ht : t.Twin t') :
    (s.give t).Twin (s'.give t') :=
  ⟨h.world.give ht, h.registry, h.registrar⟩

theorem registerListener (h : s.Twin s') (e : Endpoint) (container : ContainerId) :
    (s.registerListener e container).1 = (s'.registerListener e container).1 ∧
      (s.registerListener e container).2.Twin (s'.registerListener e container).2 := by
  obtain ⟨hanswer, hworld⟩ := s.registry.oblivious_registerListener World.oblivious_environment
    e container s.world s'.world h.world
  have hresult := congrArg Prod.fst hanswer
  unfold System.registerListener
  rw [h.registry]
  exact ⟨hresult, hworld, (congrArg Prod.snd hanswer).symm, h.registrar⟩

theorem define (h : s.Twin s') (d : Definition) :
    (s.define d).1 = (s'.define d).1 ∧ (s.define d).2.Twin (s'.define d).2 := by
  obtain ⟨hanswer, hworld⟩ := s.registrar.oblivious_register World.oblivious_environment
    s.registry d s.world s'.world h.world
  have hresult := congrArg Prod.fst hanswer
  unfold System.define
  rw [h.registry, h.registrar]
  exact ⟨hresult, hworld, (congrArg (·.2.2) hanswer).symm,
    (congrArg (·.2.1) hanswer).symm⟩

theorem defineAll (h : s.Twin s') (ds : List Definition) :
    (s.defineAll ds).1 = (s'.defineAll ds).1 ∧ (s.defineAll ds).2.Twin (s'.defineAll ds).2 := by
  obtain ⟨hanswer, hworld⟩ := s.registrar.oblivious_registerAll World.oblivious_environment
    s.registry ds s.world s'.world h.world
  have hresult := congrArg Prod.fst hanswer
  unfold System.defineAll
  rw [h.registry, h.registrar]
  exact ⟨hresult, hworld, (congrArg (·.2.2) hanswer).symm,
    (congrArg (·.2.1) hanswer).symm⟩

theorem start (h : s.Twin s') : s.start.1 = s'.start.1 ∧ s.start.2.Twin s'.start.2 := by
  obtain ⟨hanswer, hworld⟩ := s.registry.oblivious_switch World.oblivious_environment true
    s.world s'.world h.world
  rw [← Registry.start_eq] at hanswer hworld
  unfold System.start
  rw [h.registry]
  exact ⟨congrArg (EndpointFailure.verdict ·.1) hanswer, hworld.report _ _,
    (congrArg Prod.snd hanswer).symm, h.registrar⟩

theorem stop (h : s.Twin s') : s.stop.1 = s'.stop.1 ∧ s.stop.2.Twin s'.stop.2 := by
  obtain ⟨hanswer, hworld⟩ := s.registry.oblivious_switch World.oblivious_environment false
    s.world s'.world h.world
  rw [← Registry.stop_eq] at hanswer hworld
  unfold System.stop
  rw [h.registry]
  exact ⟨congrArg (EndpointFailure.verdict ·.1) hanswer, hworld.report _ _,
    (congrArg Prod.snd hanswer).symm, h.registrar⟩

theorem control (h : s.Twin s') (start : Bool) (id : String) :
    (s.control start id).1 = (s'.control start id).1 ∧
      (s.control start id).2.Twin (s'.control start id).2 := by
  obtain ⟨hanswer, hworld⟩ := s.registry.oblivious_callOne World.oblivious_environment id
    (if start then .start else .stop) s.world s'.world h.world
  have hrun : ∀ s : System, (s.control start id).1 = ((s.registry.callOne World.environment id
      (if start then .start else .stop)).run s.world).1.1 := fun s => by cases start <;> rfl
  rw [hrun, hrun, System.control_eq, System.control_eq, h.registry]
  exact ⟨congrArg Prod.fst hanswer, hworld, (congrArg Prod.snd hanswer).symm, h.registrar⟩

theorem publish (h : s.Twin s') (container : ContainerId) (channel : String) (payload : Bytes) :
    (s.publish container channel payload).1 = (s'.publish container channel payload).1 ∧
      (s.publish container channel payload).2.Twin (s'.publish container channel payload).2 := by
  -- who is invoked with what is settled before anybody reacts
  rw [System.publish_plain h.world.plain, System.publish_plain h.world.plain', h.world.container]
  refine ⟨rfl, ?_, h.registry, h.registrar⟩
  unfold System.delivered
  rw [h.world.invocation?]
  exact h.world.extend _ _ _ _ _

/-- **Twins that are asked the same answer the same and stay twins.** -/
theorem ask (h : s.Twin s') {call call' : SystemCall} (hcall : call.Twin call') :
    (s.ask call).1 = (s'.ask call').1 ∧ (s.ask call).2.Twin (s'.ask call').2 := by
  cases hcall with
  | register e container ht =>
      obtain ⟨hanswer, htwin⟩ := (h.give ht).registerListener e container
      exact ⟨congrArg SystemAnswer.registered hanswer, htwin⟩
  | define d ht =>
      obtain ⟨hanswer, htwin⟩ := (h.give ht).define d
      exact ⟨congrArg SystemAnswer.registered hanswer, htwin⟩
  | defineAll ds ht =>
      obtain ⟨hanswer, htwin⟩ := (h.give ht).defineAll ds
      exact ⟨congrArg SystemAnswer.registeredAll hanswer, htwin⟩
  | start => exact ⟨congrArg SystemAnswer.switched h.start.1, h.start.2⟩
  | stop => exact ⟨congrArg SystemAnswer.switched h.stop.1, h.stop.2⟩
  | startOne id =>
      obtain ⟨hanswer, htwin⟩ := h.control true id
      exact ⟨congrArg SystemAnswer.switchedOne hanswer, htwin⟩
  | stopOne id =>
      obtain ⟨hanswer, htwin⟩ := h.control false id
      exact ⟨congrArg SystemAnswer.switchedOne hanswer, htwin⟩
  | publish container channel payload =>
      obtain ⟨hanswer, htwin⟩ := h.publish container channel payload
      exact ⟨congrArg SystemAnswer.delivered hanswer, htwin⟩

theorem invocations (h : s.Twin s') {call call' : SystemCall} (hcall : call.Twin call') :
    s.invocations call = s'.invocations call' := by
  unfold System.invocations
  rw [(h.ask hcall).2.world.invoked, h.world.invoked]

/-- **Twins cannot be told apart by any history**, and are twins at its end. -/
theorem run (h : s.Twin s') {calls calls' : List SystemCall}
    (hcalls : List.Forall₂ SystemCall.Twin calls calls') :
    s.transcript calls = s'.transcript calls' ∧ (s.after calls).Twin (s'.after calls') := by
  induction hcalls generalizing s s' with
  | nil => exact ⟨rfl, h⟩
  | cons hcall _ ih =>
      obtain ⟨hanswer, htwin⟩ := h.ask hcall
      obtain ⟨hrest, hend⟩ := ih htwin
      refine ⟨?_, hend⟩
      unfold System.transcript
      dsimp only
      rw [hanswer, htwin.registry, htwin.world.stations, h.invocations hcall, hrest]

end System.Twin

/-- What publishing adds to the record are the invocations of its deliveries. -/
theorem System.invocations_publish {s : System} (hplain : s.world.Plain) (container : ContainerId)
    (channel : String) (payload : Bytes) :
    s.invocations (.move (.publish container channel payload)) =
      ((s.world.container container).deliveries ⟨Utf8.encode channel, payload⟩).filterMap
        s.world.invocation? := by
  have hinvoked : (s.ask (.move (.publish container channel payload))).2.world.invoked =
      (((s.world.container container).deliveries ⟨Utf8.encode channel, payload⟩).filterMap
        s.world.invocation?).reverse ++ s.world.invoked := by
    show (s.publish container channel payload).2.world.invoked = _
    rw [System.publish_plain hplain]
    rfl
  unfold System.invocations
  rw [hinvoked]
  simp

/--
**What handlers do wrong stays with them.** Two systems may have different handlers for the same
methods: handlers that note other things, that fail on other messages or in other ways, or never.
They may remember how handlers were invoked before, and so fail at one time and not at another. No
handler acts on the system. Let both be asked the same, call by call: to register endpoints or what
definitions describe, to start and stop all or one, to publish.

* Each call is answered the same in both, so that every message is delivered to as many. After each
  call both have the same endpoints in the same stages, registries that run or do not run, and the
  same subscriptions. And each call invokes the same handlers with the same envelopes, in the same
  order.
* At any time in either, a message that is published is delivered to every subscription that
  matches, in order, and nothing changes but what is written down. Each handler that is invoked
  reacts to its envelope and to the invocations before it, and what it notes and what is reported of
  its failure are all that is left of that.
-/
theorem failures_stay_apart {s s' : System} (h : s.Twin s') {calls calls' : List SystemCall}
    (hcalls : List.Forall₂ SystemCall.Twin calls calls') :
    s.transcript calls = s'.transcript calls' ∧
    ∀ now ∈ [s.after calls, s'.after calls'],
      (∀ (container : ContainerId) (channel : String) (payload : Bytes),
        let deliveries := (now.world.container container).deliveries ⟨Utf8.encode channel, payload⟩
        now.invocations (.move (.publish container channel payload)) =
          deliveries.filterMap now.world.invocation? ∧
        now.publish container channel payload =
          (deliveries.length, now.extend (deliveries.filterMap now.world.invocation?)
            (flatMapInTurn now.world.invocation? now.world.entries now.world.invoked deliveries)
            (flatMapInTurn now.world.invocation? now.world.failures now.world.invoked
              deliveries))) ∧
      ∀ d i, now.world.invocation? d = some i →
        ∃ number a react, i.listener = .adapter number ∧ now.world.adapters[number]? = some a ∧
          a.handler = .plain react ∧ ∀ past,
            now.world.entries past d =
              (react past i.envelope).notes.map (.noted i.bean i.method) ∧
            now.world.failures past d = a.report d.message (react past i.envelope).outcome := by
  obtain ⟨hsame, htwin⟩ := h.run hcalls
  refine ⟨hsame, fun now hnow => ?_⟩
  have hplain : now.world.Plain := by
    simp only [List.mem_cons, List.not_mem_nil, or_false] at hnow
    rcases hnow with rfl | rfl
    · exact htwin.world.plain
    · exact htwin.world.plain'
  refine ⟨fun container channel payload => ⟨?_, ?_⟩, fun _ _ => hplain.reacts⟩
  · exact System.invocations_publish hplain container channel payload
  · exact System.publish_plain hplain container channel payload

/-- A handler that fails when it is invoked for the first time, and one that cannot convert any
payload, beside handlers that note all they are given. The same message is published twice. What
fails is reported, and both endpoints hear every message that they would have heard anyway. -/
theorem failures_stay_apart_unconverted :
    let unready : Handler := .stateful (·.bean = "orders") false (fun _ _ => true) fun ready e =>
      if ready then ⟨[.envelope e], .ok ()⟩ else ⟨[], .error (.invocation "not ready")⟩
    let broken : Handler := .converting (fun _ => (none : Option Unit)) fun _ _ _ => ⟨[], .ok ()⟩
    let handlers (h h' : Handler) : HandlerTable Handler :=
      (Table.empty.insert ("orders", "take") h).insert ("audit", "see") h'
    let calls (h h' : Handler) : List SystemCall :=
      [.move (.register ⟨"a", "orders.*", "orders", "take", 0, .unregistered⟩ "main"
        (handlers h h')),
       .define { topic := "orders.new", bean := "audit", method := "see" } (handlers h h'),
       .move .start, .move (.publish "main" "orders.new" [0x31]),
       .move (.publish "main" "orders.new" [0x31]), .move (.stopOne "a"),
       .move (.publish "main" "orders.new" [0x31])]
    let sound := calls .record .record
    let faulty := calls unready broken
    let s : System :=
      { world := { stations := Table.empty.insert "main" {} },
        registrar := { default := some "main" } }
    s.Twin s ∧ List.Forall₂ SystemCall.Twin sound faulty ∧
      s.transcript sound = s.transcript faulty ∧
      (s.transcript faulty).map (fun seen => seen.invocations.map (·.bean)) =
        [[], [], [], ["orders", "audit"], ["orders", "audit"], [], ["audit"]] ∧
      (s.after sound).world.events = [] ∧
      (s.after faulty).world.events =
        [.handlerFailed "orders" "take" "orders.new" (.invocation "not ready"),
         .handlerFailed "audit" "see" "orders.new" (.conversion "unexpected payload"),
         .handlerFailed "audit" "see" "orders.new" (.conversion "unexpected payload"),
         .handlerFailed "audit" "see" "orders.new" (.conversion "unexpected payload")] := by
  intro unready broken handlers calls sound faulty s
  have hplain : ∀ react react' : Behaviour,
      HandlerTable.Plain (handlers (.plain react) (.plain react')) := fun react react' =>
    (HandlerTable.plain_empty.insert _ react).insert _ react'
  have htwin : HandlerTable.Twin (handlers .record .record) (handlers unready broken) := by
    refine ⟨fun key => ?_, hplain _ _, hplain _ _⟩
    simp only [handlers, Table.get?_insert, Table.get?_empty]
    split
    · rfl
    · split <;> rfl
  have hempty : s.world.Plain := fun a ha => absurd ha (by simp [s])
  have hs : s.Twin s := ⟨⟨.refl HandlerTable.plain_empty, rfl, rfl, rfl, hempty, hempty, rfl⟩, rfl,
    rfl⟩
  have hcalls : List.Forall₂ SystemCall.Twin sound faulty :=
    .cons (.register _ _ htwin) <| .cons (.define _ htwin) <| .cons .start <|
      .cons (.publish _ _ _) <| .cons (.publish _ _ _) <| .cons (.stopOne _) <|
      .cons (.publish _ _ _) .nil
  exact ⟨hs, hcalls, (failures_stay_apart hs hcalls).1, by decide +kernel, by decide +kernel,
    by decide +kernel⟩

end KeyRelay
