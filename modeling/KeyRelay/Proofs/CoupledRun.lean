import KeyRelay.Proofs.Deliveries
import KeyRelay.Proofs.RegistryStep
import Mathlib.Data.List.Induction

/-!
# Every history keeps containers and endpoints coupled

`Coupled` speaks of one moment. Here a history is gone through move by move: a
registration brings in an endpoint with a listener that nobody had (`Coupled.join`), a
start or a stop of all endpoints is a walk along them (`Coupled.walk`), and a message
changes nothing but the log and the record of invocations. So after any history a
container holds exactly the subscriptions of the endpoints that run with it, in the order
in which they last came to run, and that is what decides who hears a message
(`containers_hold_running`).
-/

namespace KeyRelay

/-! ## Walks -/

namespace Coupled

variable {s₀ : System} {past : List SystemMove} {timeline : List (List Endpoint)} {w w' : World}
  {es line : List Endpoint} {e e' : Endpoint}

/-- **A walk along the endpoints keeps all coupled at every step**; the induction is on the
endpoints that are still to come. -/
theorem walk {each : List Endpoint → StateM World (List EndpointFailure × List Endpoint)}
    {call : EndpointCall} (hwalks : Walks each call)
    (hcall : ∀ container, call ≠ .register container) (todo done : List Endpoint)
    (h : Coupled s₀ past timeline w (done ++ todo) line) :
    ∃ line', Coupled s₀ past (timeline ++ (System.attempts each w todo).map (done ++ ·))
      ((each todo).run w).2 (done ++ ((each todo).run w).1.2) line' := by
  induction todo generalizing done timeline w line with
  | nil =>
      rw [hwalks.nil]
      exact ⟨line, by simpa [System.attempts] using h⟩
  | cons e rest ih =>
      obtain ⟨react, hwired, -⟩ := h.roster.wired e (by simp)
      obtain ⟨result, e', w₁, hstep, hcons⟩ := hwalks.cons e w hwired.truthful
      -- the call on the first endpoint is one snapshot, and the rest goes on from there
      obtain ⟨line₁, hfirst⟩ := h.call hstep hcall
      obtain ⟨line', hrest⟩ := ih (done ++ [e']) (by simpa using hfirst)
      refine ⟨line', ?_⟩
      rw [System.attempts_cons hwalks.nil fun rest => (hcons rest).1, (hcons rest).1,
        (hcons rest).2, List.map_cons, List.map_map]
      simpa [Function.comp_def] using hrest

end Coupled

/-! ## Registration -/

/-- An endpoint whose listener is the newest joins the others. -/
theorem Roster.join {s₀ : System} {past : List SystemMove} {move : SystemMove} {w w' : World}
    {es : List Endpoint} {e : Endpoint} {react : Behaviour}
    (h : Roster s₀ past w es) (hids : ∀ x ∈ es, x.id ≠ e.id)
    (hlistener : e.listener? = some (.adapter w.adapters.size))
    (hadapters : w'.adapters = w.adapters.push ⟨e.bean, e.method, .plain react⟩)
    (htruthful : e.Truthful) (hadmitted : Admitted s₀ (past ++ [move]) e react) :
    Roster s₀ (past ++ [move]) w' (es ++ [e]) where
  ids := nodup_ids_concat h.ids hids
  listeners := by
    rw [List.map_append, List.map_singleton, List.nodup_append]
    refine ⟨h.listeners, List.nodup_singleton _, ?_⟩
    rintro listener hold listener' hnew rfl
    obtain ⟨x, hx, rfl⟩ := List.mem_map.mp hold
    obtain ⟨_, ⟨-, number, hnumber, hadapter⟩, -⟩ := h.wired x hx
    -- a listener that is in use has an adapter, and the next free number has none yet
    rw [List.mem_singleton, hlistener, hnumber] at hnew
    obtain rfl := ListenerId.adapter.inj (Option.some.inj hnew)
    rw [Array.getElem?_size] at hadapter
    exact absurd hadapter (by simp)
  wired x hx := by
    rcases List.mem_append.mp hx with hx | hx
    · obtain ⟨react', ⟨htruthful', number, hnumber, hadapter⟩, hadmitted'⟩ := h.wired x hx
      obtain ⟨hlt, -⟩ := Array.getElem?_eq_some_iff.mp hadapter
      refine ⟨react', ⟨htruthful', number, hnumber, ?_⟩, hadmitted'.later move⟩
      rw [hadapters, Array.getElem?_push, if_neg (Nat.ne_of_lt hlt)]
      exact hadapter
    · obtain rfl := List.mem_singleton.mp hx
      exact ⟨react, ⟨htruthful, _, hlistener, by rw [hadapters, Array.getElem?_push_size]⟩,
        hadmitted⟩

/-- Before its registration an endpoint is all that it was made to be. -/
theorem Endpoint.Truthful.sheet {e : Endpoint} (h : e.Truthful) (hstage : e.stage = .unregistered) :
    e.sheet = e := by
  have hflag : e.lifecycle.running = false := by
    rw [Truthful, active?_of_not_running (by simp [hstage])] at h
    exact h
  have hlifecycle : e.lifecycle = .unregistered := by
    show e.lifecycle = ⟨.unregistered, false⟩
    rw [← hstage, ← hflag]
    rfl
  rw [Endpoint.sheet, ← hlifecycle]

namespace Coupled

variable {s₀ : System} {past : List SystemMove} {timeline : List (List Endpoint)} {w w' : World}
  {es line : List Endpoint} {e e' : Endpoint}

/-- **A registered endpoint joins the others** with a listener of its own, and does not run. -/
theorem join {container : ContainerId} (h : Coupled s₀ past timeline w es line)
    (hes : (s₀.run past).registry.endpoints = es)
    (hfirst : (s₀.run past).registry.find? e.id = none) (htruthful : e.Truthful)
    (hplain : w.handlers.Plain)
    (hstep : Endpoint.Step World.environment e w (.register container) (.ok ()) e' w') :
    Coupled s₀ (past ++ [.register e container w.handlers]) timeline w' (es ++ [e']) line := by
  obtain ⟨hstage, listener, hcreate, he'⟩ : e.stage = .unregistered ∧ ∃ listener,
      w.create e.bean e.method = (.ok listener, w') ∧
        e' = e.reach (.registered ⟨container, listener⟩) := by
    cases hstep with
    | registered hstage hcreate => exact ⟨hstage, _, hcreate, rfl⟩
  obtain ⟨handler, hhandler, rfl, hadapters, hcontainers, hsound⟩ := World.create_ok hcreate
  obtain ⟨react, rfl⟩ := hplain _ _ hhandler
  have hids : ∀ x ∈ es, x.id ≠ e'.id := by
    rw [Registry.find?, List.find?_eq_none, hes] at hfirst
    intro x hx hid
    rw [he'] at hid
    exact hfirst x hx (beq_iff_eq.mpr hid)
  have hidle : e'.active? = none := by
    rw [he']
    rfl
  have htruthful' : e'.Truthful := by
    rw [Endpoint.Truthful, hidle, he']
    rw [Endpoint.Truthful, Endpoint.active?_of_not_running (by simp [hstage])] at htruthful
    exact htruthful
  have hsheet : e'.sheet = e := by
    rw [he']
    exact htruthful.sheet hstage
  have hadmitted : Admitted s₀ (past ++ [.register e container w.handlers]) e' react := by
    refine ⟨past, [], container, w.handlers, by rw [hsheet], ?_, ?_, ?_⟩ <;> rw [he']
    · exact hfirst
    · rfl
    · exact hhandler
  have hroster : Roster s₀ (past ++ [.register e container w.handlers]) w' (es ++ [e']) := by
    refine h.roster.join hids ?_ ?_ htruthful' hadmitted <;> rw [he']
    · rfl
    · exact hadapters
  -- the newcomer does not run, so the line stays as it is
  have hlineup : Lineup timeline (es ++ [e']) line := h.lineup.congr fun x hx => by
    rw [List.mem_append, List.mem_singleton, or_iff_left]
    rintro rfl
    rw [hidle] at hx
    exact Bool.false_ne_true hx
  exact ⟨hroster, hsound h.sound, hlineup, h.resolved, fun name => by rw [hcontainers, h.contents]⟩

end Coupled

/-! ## Histories -/

/-- What a history may be made of: any endpoint that was only ever called on, with handlers that do
not act on the system that calls them. -/
def SystemMove.Allowed : SystemMove → Prop
  | .register e _ handlers => e.Truthful ∧ handlers.Plain
  | _ => True

/-- A system before anything was registered in it. -/
structure System.Fresh (s : System) : Prop where
  endpoints : s.registry.endpoints = []
  contents : ∀ name, (s.world.container name).subscriptions = []
  sound : s.world.Sound

namespace System

variable (s : System)

theorem play_register (e : Endpoint) (container : ContainerId) (handlers : HandlerTable Handler) :
    s.play (.register e container handlers) =
      { s with
        registry := ((s.registry.registerListener World.environment e container).run
          { s.world with handlers }).1.2
        world := ((s.registry.registerListener World.environment e container).run
          { s.world with handlers }).2 } := rfl

theorem alike_start :
    ((Registry.startEach World.environment s.registry.endpoints).run s.world).2.Alike
      (s.play .start).world := ⟨rfl, fun _ => rfl, id⟩

theorem alike_stop :
    ((Registry.stopEach World.environment s.registry.endpoints).run s.world).2.Alike
      (s.play .stop).world := ⟨rfl, fun _ => rfl, id⟩

end System

namespace Coupled

variable {s₀ s : System} {past : List SystemMove} {timeline : List (List Endpoint)} {w : World}
  {es line : List Endpoint}

theorem start (hfresh : s₀.Fresh) : Coupled s₀ [] [] s₀.world s₀.registry.endpoints [] := by
  rw [hfresh.endpoints]
  exact ⟨⟨List.nodup_nil, List.nodup_nil, by simp⟩, hfresh.sound, .nil, by simp, hfresh.contents⟩

/-- What each endpoint's handler does, for all endpoints at once. -/
theorem exists_react (h : Coupled s₀ past timeline w es line) :
    ∃ react : Endpoint → Behaviour,
      ∀ e ∈ es, e.Wired w (react e) ∧ Admitted s₀ past e (react e) := by
  have : Nonempty Behaviour := ⟨fun _ _ => ⟨[], .ok ()⟩⟩
  choose! react hreact using h.roster.wired
  exact ⟨react, hreact⟩

/-- A registration keeps all coupled, be it refused, made, or made and followed by a start. -/
theorem play_register (hs : s₀.run past = s)
    (h : Coupled s₀ past timeline s.world s.registry.endpoints line) (e : Endpoint)
    (container : ContainerId) (handlers : HandlerTable Handler)
    (hallowed : (SystemMove.register e container handlers).Allowed) :
    let s' := s.play (.register e container handlers)
    ∃ line', Coupled s₀ (past ++ [.register e container handlers])
      (timeline ++ [s'.registry.endpoints]) s'.world s'.registry.endpoints line' := by
  obtain ⟨htruthful, hplain⟩ := hallowed
  have hready : Coupled s₀ past timeline { s.world with handlers } s.registry.endpoints line :=
    h.alike ⟨rfl, fun _ => rfl, id⟩
  rw [System.play_register]
  rcases hrun : (s.registry.registerListener World.environment e container).run
    { s.world with handlers } with ⟨⟨result, r'⟩, w'⟩
  rcases Registry.registerListener_cases _ _ _ hrun with
    ⟨hsame, hworld⟩ | ⟨hfirst, e₁, w₁, hregister, hnext⟩
  · -- nobody came in, and at most a failed creation was noted
    dsimp only
    rw [hsame]
    refine ⟨line, Coupled.later (Coupled.still ?_) _⟩
    rcases hworld with rfl | ⟨failure, hfailed⟩
    · exact hready
    · cases hfailed with
      | unmade _ hcreate => exact hready.alike (World.create_error hcreate)
      | again _ => exact hready
  · -- the endpoint came in, and if the registry runs it was called once more
    have hjoined := hready.join (by rw [hs]) (by rw [hs, hfirst]) htruthful hplain hregister
    dsimp only
    rcases hnext with ⟨hendpoints, rfl⟩ | ⟨started, e₂, hstart, hendpoints⟩
    · rw [hendpoints]
      exact ⟨line, hjoined.still⟩
    · rw [hendpoints, map_replace hjoined.roster.ids (hstart.same (by simp)).id]
      exact hjoined.call hstart (by simp)

/-- A call on one of the endpoints keeps all coupled. -/
theorem control (h : Coupled s₀ past timeline s.world s.registry.endpoints line) (start : Bool)
    (id : String) :
    let s' := (s.control start id).2
    ∃ line', Coupled s₀ past (timeline ++ [s'.registry.endpoints]) s'.world s'.registry.endpoints
      line' := by
  have hcall : ∀ container,
      (if start then EndpointCall.start else .stop) ≠ .register container := by
    cases start <;> simp
  rw [System.control_eq]
  generalize (if start then EndpointCall.start else .stop) = call at hcall
  rcases hrun : (s.registry.callOne World.environment id call).run s.world with
    ⟨⟨result, r'⟩, w'⟩
  dsimp only
  rcases Registry.callOne_cases _ _ _ hrun with
    ⟨rfl, rfl⟩ | ⟨e, called, e', hfind, hstep, hendpoints⟩
  · exact ⟨line, h.still⟩
  · obtain ⟨-, done, rest, hes, -⟩ := List.find?_eq_some_iff_append.mp hfind
    rw [hes] at h
    rw [hendpoints, hes, map_replace h.roster.ids (hstep.same hcall).id]
    exact h.call hstep hcall

/-- **Every move keeps all coupled.** -/
theorem play (hs : s₀.run past = s) (h : Coupled s₀ past timeline s.world s.registry.endpoints line)
    {move : SystemMove} (hallowed : move.Allowed) :
    ∃ line', Coupled s₀ (past ++ [move]) (timeline ++ s.snapshots move) (s.play move).world
      (s.play move).registry.endpoints line' := by
  cases move with
  | register e container handlers => exact h.play_register hs e container handlers hallowed
  | start =>
      obtain ⟨line', hwalk⟩ := walk walks_startEach (by simp) s.registry.endpoints [] h
      simp only [List.nil_append, List.map_id'] at hwalk
      exact ⟨line', (hwalk.alike s.alike_start).later _⟩
  | stop =>
      obtain ⟨line', hwalk⟩ := walk walks_stopEach (by simp) s.registry.endpoints [] h
      simp only [List.nil_append, List.map_id'] at hwalk
      exact ⟨line', (hwalk.alike s.alike_stop).later _⟩
  | startOne id =>
      obtain ⟨line', hcalled⟩ := h.control true id
      exact ⟨line', hcalled.later _⟩
  | stopOne id =>
      obtain ⟨line', hcalled⟩ := h.control false id
      exact ⟨line', hcalled.later _⟩
  | publish container channel payload =>
      obtain ⟨react, hreact⟩ := h.exists_react
      -- a message changes neither who runs nor what the containers hold
      have hpublish := h.publish_eq (fun e he => (hreact e he).1) container channel payload
      have hplay : s.play (.publish container channel payload) = _ := congrArg Prod.snd hpublish
      rw [System.snapshots, hplay]
      · exact ⟨line, ((h.alike (World.alike_extend _ _ _ _)).still).later _⟩
      all_goals simp

/-- **Every history keeps all coupled.** -/
theorem run (hfresh : s₀.Fresh) (moves : List SystemMove)
    (hallowed : ∀ move ∈ moves, move.Allowed) :
    ∃ line, Coupled s₀ moves (s₀.timeline moves) (s₀.run moves).world
      (s₀.run moves).registry.endpoints line := by
  induction moves using List.reverseRecOn with
  | nil => exact ⟨[], .start hfresh⟩
  | append_singleton moves move ih =>
      obtain ⟨line, h⟩ := ih fun m hm => hallowed m (List.mem_append_left _ hm)
      obtain ⟨line', hplay⟩ := h.play rfl (hallowed move (by simp))
      have htimeline : s₀.timeline (moves ++ [move]) =
          s₀.timeline moves ++ (s₀.run moves).snapshots move := by
        rw [System.timeline_append, System.timeline, System.timeline, List.append_nil]
      rw [htimeline, System.run_append]
      exact ⟨line', hplay⟩

end Coupled

/-! ## What containers hold, and who hears a message -/

/--
**Containers hold the endpoints that run.** Let a history be played in a system whose containers are
empty at first and are changed by nobody but the endpoints of its registry.

* There is a line of the endpoints that run, in the order in which they last came to run, and what a
  container holds is that line: for each endpoint that runs with it the one subscription of that
  endpoint's listener to the topic of its expression, and nothing else.
* No two endpoints have one listener, and each has the handler that was there for it when it was
  registered.
* A message goes to those of the line who run with the container it is published in and whose topic
  matches the channel, once to each of them and in the order of the line. Each of their handlers is
  given the payload as it is, with the channel and the topic through which it came, and reacts to
  that and to the invocations before it. The answer is their number, and nothing changes but the log
  and the record of invocations.
-/
theorem containers_hold_running (s₀ : System) (hfresh : s₀.Fresh) (moves : List SystemMove)
    (hallowed : ∀ move ∈ moves, move.Allowed) :
    let s := s₀.run moves
    let timeline := s₀.timeline moves
    let endpoints := s.registry.endpoints
    ∃ (line : List Endpoint) (react : Endpoint → Behaviour),
      line.Nodup ∧
      (∀ e, e ∈ line ↔ e ∈ endpoints ∧ ∃ b, e.stage = .running b) ∧
      (line.Pairwise fun a b => tenure timeline b < tenure timeline a) ∧
      (∀ name, (s.world.container name).subscriptions = line.filterMap (·.subscription? name)) ∧
      (∀ e ∈ line, Topic.ofDestination e.topic = .ok (.named e.topic) ∧
        (Topic.named e.topic).isPattern = Glob.isPattern e.topic) ∧
      (endpoints.map (·.id)).Nodup ∧
      (endpoints.map (·.listener?)).Nodup ∧
      (∀ e ∈ endpoints, Admitted s₀ moves e (react e)) ∧
      ∀ container channel payload,
        let hearers := line.filter (·.Hears container channel)
        s.publish container channel payload =
          (hearers.length,
            s.extend (hearers.filterMap (·.invocation? channel payload))
              (flatMapInTurn (·.invocation? channel payload)
                (fun past e => e.entries (react e past (e.envelope channel payload)))
                s.world.invoked hearers)
              (flatMapInTurn (·.invocation? channel payload)
                (fun past e => e.failures channel (react e past (e.envelope channel payload)))
                s.world.invoked hearers)) := by
  obtain ⟨line, h⟩ := Coupled.run hfresh moves hallowed
  obtain ⟨react, hreact⟩ := h.exists_react
  refine ⟨line, react, h.lineup.nodup, fun e => ?_, h.lineup.ranked, h.contents,
    fun e he => ⟨h.resolved e he, ?_⟩, h.roster.ids, h.roster.listeners,
    fun e he => (hreact e he).2, h.publish_eq fun e he => (hreact e he).1⟩
  · rw [h.lineup.mem_iff, Endpoint.isSome_active?]
  · unfold Topic.named
    split
    · exact (‹Glob.isPattern e.topic = true›).symm
    · exact (Bool.eq_false_iff.mpr ‹_›).symm

/-- Two containers. An endpoint that was stopped and started again has gone to the end of the line,
and one that names nothing was never in it. A message in the one container reaches both of those in
the line that run with it, the one through its channel and the other through its pattern, and not
the one that runs with the other container. Their handler fails when it is invoked for the first
time. -/
theorem containers_hold_running_restarted :
    let unready : Behaviour := fun past e =>
      ⟨[.envelope e], if past.isEmpty then .error (.invocation "not ready") else .ok ()⟩
    let handlers := Table.empty.insert ("orders", "take") (Handler.plain unready)
    let s₀ : System :=
      { world := { stations := (Table.empty.insert "main" {}).insert "spare" {} } }
    let endpoint (id topic : String) (lifecycle : Lifecycle) : Endpoint :=
      { id, topic, bean := "orders", method := "take", resolver := 0, lifecycle }
    let moves : List SystemMove :=
      [.register (endpoint "a" "orders.*" .unregistered) "main" handlers, .start,
       .register (endpoint "b" "orders.new" .unregistered) "main" handlers,
       .register (endpoint "c" " " .unregistered) "main" handlers,
       .register (endpoint "d" "orders.*" .unregistered) "spare" handlers, .stopOne "a", .start]
    let s := s₀.run moves
    let a := endpoint "a" "orders.*" ⟨.running ⟨"main", .adapter 0⟩, true⟩
    let b := endpoint "b" "orders.new" ⟨.running ⟨"main", .adapter 1⟩, true⟩
    let d := endpoint "d" "orders.*" ⟨.running ⟨"spare", .adapter 3⟩, true⟩
    let toA : Envelope :=
      ⟨[0x31], ⟨.channel "orders.new", .pattern "orders.*", some (.pattern "orders.*")⟩⟩
    let toB : Envelope := ⟨[0x31], ⟨.channel "orders.new", .channel "orders.new", none⟩⟩
    s₀.Fresh ∧ (∀ move ∈ moves, move.Allowed) ∧
      (s.world.container "main").subscriptions = [b, d, a].filterMap (·.subscription? "main") ∧
      (s.world.container "spare").subscriptions = [b, d, a].filterMap (·.subscription? "spare") ∧
      s.publish "main" "orders.new" [0x31] =
        (2, s.extend
          [⟨.adapter 1, "orders", "take", toB⟩, ⟨.adapter 0, "orders", "take", toA⟩]
          [.noted "orders" "take" (.envelope toB), .noted "orders" "take" (.envelope toA)]
          [.handlerFailed "orders" "take" "orders.new" (.invocation "not ready")]) := by
  intro unready handlers s₀ endpoint moves s a b d toA toB
  have hfresh : s₀.Fresh := by
    refine ⟨rfl, fun name => ?_, fun r hr => ?_⟩
    · unfold World.container
      rw [Table.get?_insert, Table.get?_insert]
      split
      · rfl
      · split <;> rfl
    · obtain rfl := List.mem_singleton.mp hr
      exact Resolver.sound_ofCapacity _
  have hplain : HandlerTable.Plain handlers := HandlerTable.plain_empty.insert _ unready
  have hallowed : ∀ move ∈ moves, move.Allowed := by
    simp only [moves, List.forall_mem_cons, SystemMove.Allowed]
    exact ⟨⟨rfl, hplain⟩, trivial, ⟨rfl, hplain⟩, ⟨rfl, hplain⟩, ⟨rfl, hplain⟩, trivial, trivial,
      fun _ h => absurd h List.not_mem_nil⟩
  obtain ⟨line, react, -, hmem, hranked, hcontents, -, -, -, hadmitted, hpublish⟩ :=
    containers_hold_running s₀ hfresh moves hallowed
  have hendpoints : s.registry.endpoints = [a, b,
      endpoint "c" " " ⟨.registered ⟨"main", .adapter 2⟩, false⟩, d] := by decide +kernel
  have hline : line = [b, d, a] := by
    refine eq_of_ranked hranked (by decide +kernel) fun e => ?_
    rw [hmem, hendpoints]
    simp only [List.mem_cons, List.not_mem_nil, or_false]
    constructor
    · rintro ⟨rfl | rfl | rfl | rfl, binding, hstage⟩
      · exact .inr (.inr rfl)
      · exact .inl rfl
      · exact absurd hstage (by simp [endpoint, Endpoint.stage])
      · exact .inr (.inl rfl)
    · rintro (rfl | rfl | rfl)
      · exact ⟨.inr (.inl rfl), _, rfl⟩
      · exact ⟨.inr (.inr (.inr rfl)), _, rfl⟩
      · exact ⟨.inl rfl, _, rfl⟩
  -- all that was registered was registered with this handler
  have hreact : ∀ e ∈ s.registry.endpoints, (e.bean, e.method) = ("orders", "take") →
      react e = unready := by
    intro e he hmethod
    simp only [s] at he
    obtain ⟨before, after, container, handlers', hmoves, -, -, hhandler⟩ := hadmitted e he
    have hmove : SystemMove.register e.sheet container handlers' ∈ moves := by
      rw [hmoves]
      simp
    have hsame : handlers' = handlers := by
      simp only [moves, List.mem_cons, List.not_mem_nil, or_false, SystemMove.register.injEq,
        reduceCtorEq, false_or] at hmove
      rcases hmove with ⟨-, -, h⟩ | ⟨-, -, h⟩ | ⟨-, -, h⟩ | ⟨-, -, h⟩ <;> exact h
    rw [hsame, hmethod] at hhandler
    exact (Handler.plain.inj (Option.some.inj hhandler)).symm
  have ha : react a = unready := hreact a (by rw [hendpoints]; simp) rfl
  have hb : react b = unready := hreact b (by rw [hendpoints]; simp) rfl
  refine ⟨hfresh, hallowed, hline ▸ hcontents "main", hline ▸ hcontents "spare", ?_⟩
  have hhearers : [b, d, a].filter (·.Hears "main" "orders.new") = [b, a] := by decide +kernel
  have hpast : s.world.invoked = [] := by decide +kernel
  have hpublished := hpublish "main" "orders.new" [0x31]
  simp only [s] at hpast ⊢
  rw [hline, hhearers, hpast] at hpublished
  rw [hpublished]
  simp only [flatMapInTurn, ha, hb]
  rfl

end KeyRelay
