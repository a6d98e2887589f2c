import KeyRelay.Proofs.Coupling
import KeyRelay.Proofs.LossyText

/-!
# What publishing to a line comes to

A plain handler acts on nothing, so a delivery to one adds to the log what the handler
notes and what its adapter reports, and to the record that the handler was invoked, and
changes nothing else (`System.deliverTo_plain`). A container that holds a line of running
endpoints then delivers a message to those of them whose topic matches, one after the
other (`Coupled.publish_eq`), and each is given the envelope that `Endpoint.envelope`
describes.

Handlers remember, so the reaction to a delivery depends on the deliveries before it. But
only on these: who is invoked with what does not depend on any reaction. So the past that
each of a row of deliveries finds can be told beforehand (`flatMapInTurn_eq`).
-/

namespace KeyRelay

/-! ## Additions to the log -/

/-- A world in which handlers were invoked, and with more in the log. -/
def World.extend (w : World) (invoked : List Invocation) (entries : List LogEntry)
    (events : List Event) : World :=
  { w with
    written := entries.reverse ++ w.written
    reported := events.reverse ++ w.reported
    invoked := invoked.reverse ++ w.invoked }

namespace World

variable (w : World) (invoked invoked' : List Invocation) (entries entries' : List LogEntry)
  (events events' : List Event)

@[simp] theorem log_extend : (w.extend invoked entries events).log = w.log ++ entries := by
  simp [extend, log]

@[simp] theorem events_extend :
    (w.extend invoked entries events).events = w.events ++ events := by
  simp [extend, World.events]

@[simp] theorem invoked_extend :
    (w.extend invoked entries events).invoked = invoked.reverse ++ w.invoked := rfl

theorem extend_extend :
    (w.extend invoked entries events).extend invoked' entries' events' =
      w.extend (invoked ++ invoked') (entries ++ entries') (events ++ events') := by
  simp [extend]

theorem alike_extend : w.Alike (w.extend invoked entries events) := ⟨rfl, fun _ => rfl, id⟩

end World

/-- A system in which handlers were invoked, and with more in the log. -/
def System.extend (s : System) (invoked : List Invocation) (entries : List LogEntry)
    (events : List Event) : System :=
  { s with world := s.world.extend invoked entries events }

@[simp] theorem System.extend_nil (s : System) : s.extend [] [] [] = s := rfl

theorem System.extend_extend (s : System) (invoked invoked' : List Invocation)
    (entries entries' : List LogEntry) (events events' : List Event) :
    (s.extend invoked entries events).extend invoked' entries' events' =
      s.extend (invoked ++ invoked') (entries ++ entries') (events ++ events') := by
  simp [extend, World.extend_extend]

/-! ## One after the other -/

/-- What things leave that are done one after the other. Each is given the past that it finds, where
the latest comes first, and may add something to the past of those after it. -/
def flatMapInTurn {A B C : Type} (adds : A → Option B) (leaves : List B → A → List C) :
    List B → List A → List C
  | _, [] => []
  | past, a :: rest =>
    leaves past a ++ flatMapInTurn adds leaves ((adds a).toList ++ past) rest

/-- **Each finds what was added before the first of them and by those before it.** -/
theorem flatMapInTurn_eq {A B C : Type} (adds : A → Option B) (leaves : List B → A → List C)
    (past : List B) (as : List A) :
    flatMapInTurn adds leaves past as = (as.mapIdx fun k a =>
      leaves (((as.take k).filterMap adds).reverse ++ past) a).flatten := by
  induction as generalizing past with
  | nil => rfl
  | cons a rest ih =>
      -- what the first adds comes next to the old past, after all that is added later
      have hpast : ∀ k, ((rest.take k).filterMap adds).reverse ++ ((adds a).toList ++ past) =
          ((a :: rest.take k).filterMap adds).reverse ++ past := fun k => by
        cases hadds : adds a <;> simp [hadds]
      rw [flatMapInTurn, ih, List.mapIdx_cons, List.flatten_cons]
      simp only [List.take_zero, List.take_succ_cons, hpast, List.filterMap_nil, List.reverse_nil,
        List.nil_append]

/-! ## One delivery -/

namespace HandlerTable

/-- No handler of a table acts on the system that calls it. Each may remember what it likes. -/
def Plain (t : HandlerTable Handler) : Prop :=
  ∀ key handler, t.get? key = some handler → ∃ react, handler = .plain react

theorem plain_empty : HandlerTable.Plain .empty := by
  intro key handler hfound
  rw [Table.get?_empty] at hfound
  exact absurd hfound (by simp)

theorem Plain.insert {t : HandlerTable Handler} (h : t.Plain) (key : String × String)
    (react : Behaviour) : HandlerTable.Plain (Table.insert t key (.plain react)) := by
  intro other handler hfound
  rw [Table.get?_insert] at hfound
  split at hfound
  · exact ⟨react, (Option.some.inj hfound).symm⟩
  · exact h other handler hfound

end HandlerTable

theorem System.foldl_noteFor (s : System) (a : Adapter) (notes : List Note) :
    notes.foldl (fun s note => s.noteFor a note) s =
      s.extend [] (notes.map (.noted a.bean a.method)) [] := by
  induction notes generalizing s with
  | nil => rfl
  | cons note rest ih =>
      rw [List.foldl_cons, ih]
      show (s.extend [] [.noted a.bean a.method note] []).extend _ _ _ = _
      rw [extend_extend]
      rfl

/-- **A delivery to a plain handler** invokes it, and is what the handler notes and what its adapter
reports. -/
theorem System.deliverTo_plain {s : System} {number : Nat} {a : Adapter}
    {react : Behaviour}
    (hadapter : s.world.adapters[number]? = some a) (hplain : a.handler = .plain react)
    (message : Message) (pattern : Option Bytes) (depth : Nat) :
    let reaction := react s.world.invoked (message.envelope pattern)
    deliverTo depth ⟨.adapter number, message, pattern⟩ s =
      s.extend [⟨.adapter number, a.bean, a.method, message.envelope pattern⟩]
        (reaction.notes.map (.noted a.bean a.method)) (a.report message reaction.outcome) := by
  intro reaction
  -- whatever publishing in its turn would come to, a plain handler does not publish
  have key : ∀ publish, deliverWith publish ⟨.adapter number, message, pattern⟩ s =
      s.extend [⟨.adapter number, a.bean, a.method, message.envelope pattern⟩]
        (reaction.notes.map (.noted a.bean a.method)) (a.report message reaction.outcome) := by
    intro publish
    simp only [deliverWith, hadapter, hplain, foldl_noteFor]
    rfl
  cases depth with
  | zero => exact key _
  | succ depth => exact key _

/-! ## A line of deliveries -/

namespace Endpoint

/-- What the handler of an endpoint is given of a message: the payload as it is, the channel, and
the topic through which it came, which is the pattern or else the channel itself. -/
def envelope (e : Endpoint) (channel : String) (payload : Bytes) : Envelope where
  payload := payload
  headers :=
    if Glob.isPattern e.topic then ⟨.channel channel, .pattern e.topic, some (.pattern e.topic)⟩
    else ⟨.channel channel, .channel channel, none⟩

/-- How the handler of an endpoint is invoked for a message. -/
def invocation? (e : Endpoint) (channel : String) (payload : Bytes) : Option Invocation :=
  e.listener?.map fun listener => ⟨listener, e.bean, e.method, e.envelope channel payload⟩

/-- What a handler's reaction leaves in the log. -/
def entries (e : Endpoint) (reaction : Reaction) : List LogEntry :=
  reaction.notes.map (.noted e.bean e.method)

/-- What a handler's reaction to a message on a channel leaves for a person's attention. -/
def failures (e : Endpoint) (channel : String) (reaction : Reaction) : List Event :=
  match reaction.outcome with
  | .ok () => []
  | .error failure => [.handlerFailed e.bean e.method channel failure]

/-- Whether an endpoint is bound to a container and its topic matches a channel. -/
def Hears (e : Endpoint) (container : ContainerId) (channel : String) : Prop :=
  e.container? = some container ∧ (Topic.named e.topic).isMatch (Utf8.encode channel)

instance (e : Endpoint) (container : ContainerId) (channel : String) :
    Decidable (e.Hears container channel) := inferInstanceAs (Decidable (_ ∧ _))

theorem envelope_delivery (e : Endpoint) (listener : ListenerId) (channel : String)
    (payload : Bytes) :
    (⟨Utf8.encode channel, payload⟩ : Message).envelope
        (Subscription.delivery ⟨listener, .named e.topic⟩ ⟨Utf8.encode channel, payload⟩).pattern =
      e.envelope channel payload := by
  unfold Message.envelope Message.channelName Subscription.delivery envelope Topic.named
  by_cases h : Glob.isPattern e.topic
  · simp [h, Topic.isPattern, Topic.name, Headers.ofDelivery, Utf8.lossy_encode]
  · simp [h, Topic.isPattern, Headers.ofDelivery, Utf8.lossy_encode]

theorem report_eq (e : Endpoint) (react : Behaviour) (channel : String)
    (payload : Bytes) (reaction : Reaction) :
    (⟨e.bean, e.method, .plain react⟩ : Adapter).report ⟨Utf8.encode channel, payload⟩
        reaction.outcome = e.failures channel reaction := by
  unfold Adapter.report failures Message.channelName
  cases reaction.outcome with
  | ok _ => rfl
  | error failure =>
      exact congrArg (fun name => [Event.handlerFailed e.bean e.method name failure])
        (Utf8.lossy_encode channel)

/-- The container's part of a line, from its first endpoint on. -/
theorem targets_cons {e : Endpoint} {b : Binding} (hactive : e.active? = some b)
    (line : List Endpoint) (container : ContainerId) (channel : String) :
    ((e :: line).filterMap (·.subscription? container)).filter
        (·.topic.isMatch (Utf8.encode channel)) =
      (if e.Hears container channel then [⟨b.listener, .named e.topic⟩] else []) ++
        (line.filterMap (·.subscription? container)).filter
          (·.topic.isMatch (Utf8.encode channel)) := by
  have hcontainer : e.container? = some b.container := by
    rw [container?, binding?_of_active hactive, Option.map_some]
  rw [List.filterMap_cons, subscription?_of_active hactive]
  by_cases hname : b.container = container
  · rw [if_pos hname, List.filter_cons]
    simp only [Hears, hcontainer, hname, true_and]
    by_cases hmatch : (Topic.named e.topic).isMatch (Utf8.encode channel)
    · rw [if_pos hmatch, if_pos hmatch, List.singleton_append]
    · rw [if_neg hmatch, if_neg hmatch, List.nil_append]
  · rw [if_neg hname, if_neg fun h => hname (Option.some.inj (hcontainer.symm.trans h.1)),
      List.nil_append]

end Endpoint

/-- A delivery to an endpoint that runs. -/
theorem System.deliver_active {s : System} {e : Endpoint} {b : Binding}
    {react : Behaviour} (hactive : e.active? = some b)
    (hwired : e.Wired s.world react) (channel : String) (payload : Bytes) :
    let reaction := react s.world.invoked (e.envelope channel payload)
    deliver (Subscription.delivery ⟨b.listener, .named e.topic⟩ ⟨Utf8.encode channel, payload⟩) s =
      s.extend (e.invocation? channel payload).toList (e.entries reaction)
        (e.failures channel reaction) := by
  intro reaction
  obtain ⟨number, hlistener, hadapter⟩ := hwired.listener
  have hnumber : b.listener = .adapter number :=
    Option.some.inj ((Endpoint.listener?_of_active hactive).symm.trans hlistener)
  have hinvocation : (e.invocation? channel payload).toList =
      [⟨.adapter number, e.bean, e.method, e.envelope channel payload⟩] := by
    rw [Endpoint.invocation?, hlistener]
    rfl
  rw [hinvocation, hnumber, ← e.report_eq react channel payload]
  have hdelivered := deliverTo_plain hadapter rfl ⟨Utf8.encode channel, payload⟩
    (Subscription.delivery ⟨.adapter number, .named e.topic⟩ ⟨Utf8.encode channel, payload⟩).pattern
    nestingLimit
  rw [e.envelope_delivery (.adapter number)] at hdelivered
  exact hdelivered

/-- Publishing to a line of running endpoints, told from those who hear the message. -/
theorem System.deliver_line (react : Endpoint → Behaviour)
    (container : ContainerId) (channel : String) (payload : Bytes) (line : List Endpoint)
    (s : System) (hactive : ∀ e ∈ line, e.active?.isSome)
    (hwired : ∀ e ∈ line, e.Wired s.world (react e)) :
    let subscriptions := (line.filterMap (·.subscription? container)).filter
      (·.topic.isMatch (Utf8.encode channel))
    let hearers := line.filter (·.Hears container channel)
    subscriptions.length = hearers.length ∧
      (subscriptions.map (·.delivery ⟨Utf8.encode channel, payload⟩)).foldl
          (fun s d => deliver d s) s =
        s.extend (hearers.filterMap (·.invocation? channel payload))
          (flatMapInTurn (·.invocation? channel payload)
            (fun past e => e.entries (react e past (e.envelope channel payload)))
            s.world.invoked hearers)
          (flatMapInTurn (·.invocation? channel payload)
            (fun past e => e.failures channel (react e past (e.envelope channel payload)))
            s.world.invoked hearers) := by
  induction line generalizing s with
  | nil => exact ⟨rfl, rfl⟩
  | cons e line ih =>
      obtain ⟨b, hb⟩ := Option.isSome_iff_exists.mp (hactive e List.mem_cons_self)
      have hactive' : ∀ x ∈ line, x.active?.isSome := fun x hx =>
        hactive x (List.mem_cons_of_mem _ hx)
      have hwired' : ∀ x ∈ line, x.Wired s.world (react x) := fun x hx =>
        hwired x (List.mem_cons_of_mem _ hx)
      simp only [Endpoint.targets_cons hb]
      by_cases hears : e.Hears container channel
      · rw [List.filter_cons_of_pos (by simpa using hears), if_pos hears]
        have hfirst := deliver_active hb (hwired e List.mem_cons_self) channel payload
        -- what was added unwires nobody, and is the past that the next one finds
        obtain ⟨hlength, hrest⟩ := ih (s.extend _ _ _) hactive' fun x hx => (hwired' x hx).alike rfl
        simp only [List.singleton_append, List.length_cons, List.map_cons, List.foldl_cons]
        refine ⟨congrArg (· + 1) hlength, ?_⟩
        rw [hfirst, hrest, extend_extend, flatMapInTurn, flatMapInTurn]
        cases hinvoked : e.invocation? channel payload <;>
          simp [System.extend, hinvoked]
      · rw [List.filter_cons_of_neg (by simpa using hears), if_neg hears, List.nil_append]
        exact ih s hactive' hwired'

/-- **Publishing in a container** delivers to those of the line who hear the message, once each and
in the order of the line, answers how many they are, and changes nothing but the log and the record
of invocations. -/
theorem Coupled.publish_eq {s₀ s : System} {past : List SystemMove}
    {timeline : List (List Endpoint)} {es line : List Endpoint}
    (h : Coupled s₀ past timeline s.world es line)
    {react : Endpoint → Behaviour}
    (hwired : ∀ e ∈ es, e.Wired s.world (react e)) (container : ContainerId) (channel : String)
    (payload : Bytes) :
    let hearers := line.filter (·.Hears container channel)
    s.publish container channel payload =
      (hearers.length,
        s.extend (hearers.filterMap (·.invocation? channel payload))
          (flatMapInTurn (·.invocation? channel payload)
            (fun past e => e.entries (react e past (e.envelope channel payload)))
            s.world.invoked hearers)
          (flatMapInTurn (·.invocation? channel payload)
            (fun past e => e.failures channel (react e past (e.envelope channel payload)))
            s.world.invoked hearers)) := by
  obtain ⟨hlength, hrest⟩ := System.deliver_line react container channel payload line s
    (fun e he => ((h.lineup.mem_iff e).mp he).2)
    (fun e he => hwired e ((h.lineup.mem_iff e).mp he).1)
  simp only [System.publish, System.publishWith, Container.publish, Container.deliveries,
    Container.targets, h.contents, List.length_map]
  rw [hlength, hrest]

end KeyRelay
