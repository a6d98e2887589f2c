import KeyRelay.Proofs.Deliveries

/-!
# Deliveries where no handler acts on the system

In a world of plain handlers a delivery cannot be told from the outside by anything but
what is written down. A listener from outside is noted with what it was given. An
adapter's handler is given the envelope of the delivery, and leaves what it notes and
what its adapter reports of its failure, both of which may depend on the invocations
before. So publishing adds to the log and to the record of invocations, delivery by
delivery, and changes nothing else (`System.publish_plain`). That holds of any container
and any system, however the subscriptions in it came about.
-/

namespace KeyRelay

namespace World

/-- No handler acts on the system that calls it. -/
def Plain (w : World) : Prop := ∀ a ∈ w.adapters, ∃ react, a.handler = .plain react

/-- The handler that a delivery reaches, and what it is given. -/
def invocation? (w : World) (d : Delivery) : Option Invocation :=
  match d.listener with
  | .raw _ => none
  | .adapter number =>
    w.adapters[number]?.map fun a => ⟨d.listener, a.bean, a.method, d.message.envelope d.pattern⟩

/-- What an adapter's handler makes of an envelope after some invocations, beside the adapter. -/
def reaction? (w : World) (past : List Invocation) (number : Nat) (e : Envelope) :
    Option (Adapter × Reaction) :=
  match w.adapters[number]? with
  | some a =>
    match a.handler with
    | .plain react => some (a, react past e)
    | .control _ => none
  | none => none

/-- What a delivery leaves in the log after some invocations. -/
def entries (w : World) (past : List Invocation) (d : Delivery) : List LogEntry :=
  match d.listener with
  | .raw name => [.raw name d.message d.pattern]
  | .adapter number =>
    match w.reaction? past number (d.message.envelope d.pattern) with
    | some (a, reaction) => reaction.notes.map (.noted a.bean a.method)
    | none => []

/-- What a delivery leaves for a person's attention after some invocations. -/
def failures (w : World) (past : List Invocation) (d : Delivery) : List Event :=
  match d.listener with
  | .raw _ => []
  | .adapter number =>
    match w.reaction? past number (d.message.envelope d.pattern) with
    | some (a, reaction) => a.report d.message reaction.outcome
    | none => []

section

variable {w w' : World}

theorem invocation?_congr (h : w'.adapters = w.adapters) : w'.invocation? = w.invocation? := by
  funext d
  unfold invocation?
  rw [h]

theorem entries_congr (h : w'.adapters = w.adapters) : w'.entries = w.entries := by
  funext past d
  unfold entries reaction?
  rw [h]

theorem failures_congr (h : w'.adapters = w.adapters) : w'.failures = w.failures := by
  funext past d
  unfold failures reaction?
  rw [h]

theorem Plain.congr (h : w.Plain) (hadapters : w'.adapters = w.adapters) : w'.Plain := by
  unfold Plain
  rw [hadapters]
  exact h

end

end World

/-- A system after a row of deliveries: handlers were invoked, and each of the deliveries has left
what it leaves. -/
def System.delivered (s : System) (deliveries : List Delivery) : System :=
  s.extend (deliveries.filterMap s.world.invocation?)
    (flatMapInTurn s.world.invocation? s.world.entries s.world.invoked deliveries)
    (flatMapInTurn s.world.invocation? s.world.failures s.world.invoked deliveries)

namespace System

variable {s : System}

/-- **A delivery adds to the log and to the record of invocations, and changes nothing else.** -/
theorem deliverTo_eq_delivered (hplain : s.world.Plain) (d : Delivery) (depth : Nat) :
    deliverTo depth d s = s.delivered [d] := by
  obtain ⟨listener, message, pattern⟩ := d
  cases listener with
  | raw name => cases depth <;> rfl
  | adapter number =>
      cases hadapter : s.world.adapters[number]? with
      | none =>
          -- a number that no adapter has
          have hidle : ∀ publish, deliverWith publish ⟨.adapter number, message, pattern⟩ s = s :=
            fun publish => by simp only [deliverWith, hadapter]
          have hnothing : s.delivered [⟨.adapter number, message, pattern⟩] = s := by
            simp [delivered, flatMapInTurn, World.invocation?, World.entries, World.failures,
              World.reaction?, hadapter]
          rw [hnothing]
          cases depth with
          | zero => exact hidle _
          | succ depth => exact hidle _
      | some a =>
          obtain ⟨react, hreact⟩ := hplain a (Array.mem_of_getElem? hadapter)
          rw [deliverTo_plain hadapter hreact message pattern depth]
          simp [delivered, flatMapInTurn, World.invocation?, World.entries, World.failures,
            World.reaction?, hadapter, hreact]

/-- A first delivery, and the others after it. -/
theorem delivered_cons (d : Delivery) (rest : List Delivery) :
    s.delivered (d :: rest) = (s.delivered [d]).delivered rest := by
  -- the adapters stay, so the rest makes of its deliveries what it would have made before
  have hstays : (s.delivered [d]).world.adapters = s.world.adapters := rfl
  have hinvoked : (s.delivered [d]).world.invoked =
      (s.world.invocation? d).toList ++ s.world.invoked := by
    cases h : s.world.invocation? d <;> simp [delivered, extend, h]
  rw [delivered, delivered, World.invocation?_congr hstays, World.entries_congr hstays,
    World.failures_congr hstays, hinvoked, delivered, extend_extend]
  cases h : s.world.invocation? d <;> simp [flatMapInTurn, h]

/-- A row of deliveries, one after the other. -/
theorem deliver_each (hplain : s.world.Plain) (deliveries : List Delivery) :
    deliveries.foldl (fun s d => deliver d s) s = s.delivered deliveries := by
  induction deliveries generalizing s with
  | nil => rfl
  | cons d rest ih =>
      have hstays : (s.delivered [d]).world.adapters = s.world.adapters := rfl
      have hfirst : deliver d s = s.delivered [d] := deliverTo_eq_delivered hplain d nestingLimit
      rw [List.foldl_cons, hfirst, ih (hplain.congr hstays), ← delivered_cons]

/-- **Publishing makes the container's deliveries**, answers how many they are, and changes nothing
but the log and the record of invocations. -/
theorem publish_plain (hplain : s.world.Plain) (container : ContainerId) (channel : String)
    (payload : Bytes) :
    let deliveries := (s.world.container container).deliveries ⟨Utf8.encode channel, payload⟩
    s.publish container channel payload = (deliveries.length, s.delivered deliveries) := by
  intro deliveries
  rw [← deliver_each hplain]
  rfl

end System

end KeyRelay
