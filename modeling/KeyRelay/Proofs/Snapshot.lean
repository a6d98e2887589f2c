import KeyRelay.Proofs.RegistryStep
import KeyRelay.Proofs.Subscriptions

/-!
# A message goes to a snapshot

A listener that is called may do anything, also to the container that is just delivering
to it. Who is called is settled before: by the subscriptions that match when the message
is published. So two things come apart that seem to be tangled. The calls do not depend on
what the listeners do (`Container.foldl_noting`). And the container, which takes no part in
the delivery any more, has afterwards what the changes that the listeners made, one after
the other, make of what it had before (`Container.view_foldl`).

Listeners are taken as they come, as functions on states of any kind from which the
container can be read. The second half says that the listeners of a system are such: what
a delivery changes in a container is what the handler's control of an endpoint adds or
removes there, or what comes of a message that it publishes in its turn
(`System.container_deliverTo`).
-/

namespace KeyRelay

namespace Container

/-! ## A row of calls -/

theorem changeAll_append (c : Container) (changes more : List ContainerChange) :
    c.changeAll (changes ++ more) = (c.changeAll changes).changeAll more :=
  List.foldl_append

section

variable {S : Type} (deliver : Delivery → S → S)

/-- A listener is called, and the call is noted. -/
def noting (d : Delivery) (s : S × List Delivery) : S × List Delivery := (deliver d s.1, s.2 ++ [d])

/-- What a row of calls changes, in order, given what each of them changes in the state that it
finds. -/
def changesOf (changes : Delivery → S → List ContainerChange) :
    List Delivery → S → List ContainerChange
  | [], _ => []
  | d :: rest, s => changes d s ++ changesOf changes rest (deliver d s)

/-- **Exactly the calls of the row are made**, whatever the listeners do. -/
theorem foldl_noting (calls noted : List Delivery) (s : S) :
    calls.foldl (fun s d => noting deliver d s) (s, noted) =
      (calls.foldl (fun s d => deliver d s) s, noted ++ calls) := by
  induction calls generalizing s noted with
  | nil => rw [List.append_nil]; rfl
  | cons d rest ih =>
      rw [List.foldl_cons, List.foldl_cons, noting, ih, List.append_assoc]
      rfl

/-- **The container has what the changes make of it**, if each call changes it by some. -/
theorem view_foldl (view : S → Container) {changes : Delivery → S → List ContainerChange}
    {calls : List Delivery}
    (h : ∀ d ∈ calls, ∀ s, view (deliver d s) = (view s).changeAll (changes d s)) (s : S) :
    view (calls.foldl (fun s d => deliver d s) s) =
      (view s).changeAll (changesOf deliver changes calls s) := by
  induction calls generalizing s with
  | nil => rfl
  | cons d rest ih =>
      -- the rest of the calls find what the first has left
      obtain ⟨hfirst, hrest⟩ := List.forall_mem_cons.mp h
      rw [List.foldl_cons, ih hrest, hfirst, changesOf, changeAll_append]

end

end Container

/-! ## What the control of an endpoint changes -/

namespace Endpoint

/-- What it changes in a container that an endpoint became another: it subscribes its listener to
its topic when it begins to run, and removes it when it no longer does. -/
def changesIn (name : ContainerId) (topic : Except ListenerError Topic) (e e' : Endpoint) :
    List ContainerChange :=
  match e.active?, e'.active?, topic with
  | none, some b, .ok topic => if b.container = name then [.add b.listener topic] else []
  | some b, none, _ => if b.container = name then [.remove b.listener] else []
  | _, _, _ => []

theorem changesIn_self (name : ContainerId) (topic : Except ListenerError Topic) (e : Endpoint) :
    e.changesIn name topic e = [] := by
  unfold changesIn
  cases e.active? <;> rfl

end Endpoint

namespace World

variable {w w' : World}

/-- To resolve a destination is nothing to the containers. -/
theorem container_resolve {id : ResolverId} {destination : String}
    {found : Except ListenerError Topic} (h : w.resolve id destination = (found, w'))
    (name : ContainerId) : w'.container name = w.container name := by
  unfold resolve at h
  split at h
  · obtain ⟨-, rfl⟩ := Prod.mk.inj h
    rfl
  · obtain ⟨-, rfl⟩ := Prod.mk.inj h
    rfl

theorem Amended.container_eq_changeAll {other : ContainerId} {change : ContainerChange}
    (h : w.Amended other (·.change change) w') (name : ContainerId) :
    w'.container name =
      (w.container name).changeAll (if other = name then [change] else []) := by
  rw [h.container]
  by_cases hname : other = name
  · rw [if_pos hname, if_pos hname.symm]
    rfl
  · rw [if_neg hname, if_neg (Ne.symm hname)]
    rfl

end World

/-- **What a start or a stop changes in a container** is told by the endpoint before and after. -/
theorem Endpoint.Step.container_eq {e e' : Endpoint} {w w' : World} {call : EndpointCall}
    {result : Except ListenerError Unit} (h : Step World.environment e w call result e' w')
    (hcall : ∀ container, call ≠ .register container) (name : ContainerId) :
    w'.container name = (w.container name).changeAll
      (e.changesIn name (w.resolve e.resolver e.topic).1 e') := by
  -- without a change of the endpoint, there is none of the containers
  have hkept : w'.container name = w.container name → e' = e → w'.container name =
      (w.container name).changeAll (e.changesIn name (w.resolve e.resolver e.topic).1 e') := by
    rintro hsame rfl
    rw [changesIn_self]
    exact hsame
  cases h with
  | unmade => exact absurd rfl (hcall _)
  | registered => exact absurd rfl (hcall _)
  | again => exact absurd rfl (hcall _)
  | early => exact hkept rfl rfl
  | running => exact hkept rfl rfl
  | unresolved _ hresolve => exact hkept (World.container_resolve hresolve name) rfl
  | refused _ hresolve hsubscribe =>
      rw [World.subscribe_eq] at hsubscribe
      refine hkept ?_ rfl
      rw [(World.alike_of_refused hsubscribe).container, World.container_resolve hresolve]
  | @started b topic _ _ hb hresolve hsubscribe =>
      rw [World.subscribe_eq] at hsubscribe
      have hidle : e.active? = none := active?_of_not_running (Stage.binding?_of_startable hb).2
      have hactive : ((e.reach (.running b)).tell true).active? = some b := active?_of_running rfl
      have hfound : (w.resolve e.resolver e.topic).1 = .ok topic := congrArg Prod.fst hresolve
      have hamended : World.Amended _ b.container (·.change (.add b.listener topic)) w' :=
        World.amended_of_done hsubscribe
      unfold changesIn
      rw [hidle, hactive, hfound, hamended.container_eq_changeAll,
        World.container_resolve hresolve]
  | idle => exact hkept rfl rfl
  | kept _ hunsubscribe =>
      rw [World.unsubscribe_eq] at hunsubscribe
      exact hkept ((World.alike_of_refused hunsubscribe).container name) rfl
  | @stopped b _ hstage hunsubscribe =>
      rw [World.unsubscribe_eq] at hunsubscribe
      have hactive : e.active? = some b := active?_of_running hstage
      have hidle : ((e.reach (.stopped b)).tell false).active? = none :=
        active?_of_not_running fun _ => nofun
      have hamended : World.Amended w b.container (·.change (.remove b.listener)) w' :=
        World.amended_of_done hunsubscribe
      unfold changesIn
      rw [hactive, hidle, hamended.container_eq_changeAll]

namespace System

/-! ## What a delivery changes -/

/-- What it changes in a container to start or stop the endpoint of an id. -/
def changesOfControl (name : ContainerId) (start : Bool) (id : String) (s : System) :
    List ContainerChange :=
  match s.registry.find? id with
  | none => []
  | some e =>
    let e' := ((e.call World.environment (.switch start)).run s.world).1.2
    e.changesIn name (s.world.resolve e.resolver e.topic).1 e'

/-- What a delivery changes in a container: what its handler does there itself, or what comes of a
message that the handler publishes in its turn. -/
def changesWith (name : ContainerId)
    (published : ContainerId → Message → System → List ContainerChange) (d : Delivery)
    (s : System) : List ContainerChange :=
  match d.listener with
  | .raw _ => []
  | .adapter number =>
    match s.world.adapters[number]? with
    | none => []
    | some a =>
      let s := s.invoke ⟨d.listener, a.bean, a.method, d.message.envelope d.pattern⟩
      match a.handler with
      | .plain _ => []
      | .control (.start id) => s.changesOfControl name true id
      | .control (.stop id) => s.changesOfControl name false id
      | .control (.publish container channel) =>
        published container ⟨Utf8.encode channel, d.message.body⟩ (s.noteFor a .publishing)

/-- What a delivery changes in a container, with the messages that it causes down to a depth. -/
def changesTo (name : ContainerId) : Nat → Delivery → System → List ContainerChange
  | 0 => changesWith name fun _ _ _ => []
  | depth + 1 => changesWith name fun container message s =>
    Container.changesOf (deliverTo depth) (changesTo name depth)
      ((s.world.container container).deliveries message) s

theorem container_control (s : System) (start : Bool) (id : String) (name : ContainerId) :
    (s.control start id).2.world.container name =
      (s.world.container name).changeAll (s.changesOfControl name start id) := by
  have hcall : ∀ container, EndpointCall.switch start ≠ .register container := by
    cases start <;> exact fun _ => nofun
  rw [control_eq]
  show World.container ((s.registry.callOne World.environment id (.switch start)).run s.world).2
    name = _
  unfold Registry.callOne changesOfControl
  cases hfind : s.registry.find? id with
  | none => rfl
  | some e =>
      rcases hrun : (e.call World.environment (.switch start)).run s.world with ⟨⟨result, e'⟩, w'⟩
      dsimp only
      rw [run_bind_of hrun, hrun]
      exact (Endpoint.Step.of_run hrun).container_eq hcall name

theorem container_deliverWith {publish : ContainerId → Message → System → Nat × System}
    {published : ContainerId → Message → System → List ContainerChange} {name : ContainerId}
    (h : ∀ container message s, (publish container message s).2.world.container name =
      (s.world.container name).changeAll (published container message s))
    (d : Delivery) (s : System) :
    (deliverWith publish d s).world.container name =
      (s.world.container name).changeAll (changesWith name published d s) := by
  obtain ⟨listener, message, pattern⟩ := d
  cases listener with
  | raw _ => rfl
  | adapter number =>
      cases hadapter : s.world.adapters[number]? with
      | none =>
          simp only [deliverWith, changesWith, hadapter]
          rfl
      | some a =>
          obtain ⟨bean, method, handler⟩ := a
          simp only [deliverWith, changesWith, hadapter]
          -- a plain handler changes no container, and of one that publishes the assumption speaks
          cases handler with
          | plain react =>
              dsimp only
              rw [foldl_noteFor]
              rfl
          | control act =>
              cases act with
              | start id => exact (s.invoke _).container_control true id name
              | stop id => exact (s.invoke _).container_control false id name
              | publish container channel => exact h container _ _

/-- **A delivery changes a container by additions and removals.** -/
theorem container_deliverTo (name : ContainerId) (depth : Nat) (d : Delivery) (s : System) :
    (deliverTo depth d s).world.container name =
      (s.world.container name).changeAll (changesTo name depth d s) := by
  induction depth generalizing d s with
  | zero => exact container_deliverWith (fun _ _ _ => rfl) d s
  | succ depth ih =>
      -- what is published is a row of deliveries, each of which goes one step less deep
      exact container_deliverWith
        (fun _ _ s => Container.view_foldl _ (·.world.container name) (fun d _ => ih d) s) d s

end System

/--
**A message goes to a snapshot.** Let a container be read from states of any kind, and let listeners
be called that may make another state of any, as they like.

* As many calls are made as there are subscriptions that match when the message is published. Noted
  one by one, the calls are those of the listeners of these subscriptions, once for each and in that
  order, with the message, and with the name of the topic if that is a pattern. To note them changes
  nothing.
* If each of these calls changes the container by additions and removals, whatever they are in the
  state that it finds, then the container has afterwards what all of these, one after the other,
  make of what it had before.

The listeners of a system are such, with the endpoints that handlers start and stop and with the
messages that they publish in their turn.
-/
theorem message_goes_to_snapshot :
    (∀ {S : Type} (view : S → Container) (deliver : Delivery → S → S) (s : S) (message : Message),
      let present := (view s).subscriptions.filter (·.topic.isMatch message.channel)
      let calls : List Delivery := present.map fun x =>
        ⟨x.listener, message, if x.topic.isPattern then some (Utf8.encode x.topic.name) else none⟩
      let after := ((view s).publish message deliver s).2
      ((view s).publish message deliver s).1 = present.length ∧
      (view s).publish message (Container.noting deliver) (s, []) =
        (present.length, after, calls) ∧
      ∀ changes : Delivery → S → List ContainerChange,
        (∀ d ∈ calls, ∀ s, view (deliver d s) = (view s).changeAll (changes d s)) →
        view after = (view s).changeAll (Container.changesOf deliver changes calls s)) ∧
    ∀ (s : System) (name : ContainerId) (channel : String) (payload : Bytes),
      let message : Message := ⟨Utf8.encode channel, payload⟩
      let container := s.world.container name
      s.publish name channel payload = container.publish message System.deliver s ∧
      (s.publish name channel payload).2.world.container name =
        container.changeAll (Container.changesOf System.deliver
          (System.changesTo name System.nestingLimit) (container.deliveries message) s) := by
  refine ⟨fun view deliver s message => ?_, fun s name channel payload => ?_⟩
  · intro present calls after
    have hcount : calls.length = present.length := List.length_map _
    refine ⟨hcount, ?_, fun changes h => Container.view_foldl deliver view h s⟩
    have hnoted := Container.foldl_noting deliver calls [] s
    rw [← hcount]
    exact congrArg (calls.length, ·) hnoted
  · intro message container
    refine ⟨rfl, Container.view_foldl System.deliver (·.world.container name) ?_ s⟩
    exact fun d _ s => System.container_deliverTo name System.nestingLimit d s

/-- A listener that is called removes the one that comes after it and brings in another: the one
that it removed is called, the newcomer is not, and the newcomer is there afterwards. -/
theorem message_goes_to_snapshot_amid_changes :
    let before : Container :=
      ⟨[⟨.raw "a", .pattern "?"⟩, ⟨.raw "b", .channel "x"⟩, ⟨.raw "d", .channel "y"⟩]⟩
    let changes : Delivery → Container → List ContainerChange := fun d _ =>
      if d.listener = .raw "a" then [.remove (.raw "b"), .add (.raw "c") (.channel "x")] else []
    let deliver : Delivery → Container → Container := fun d c => c.changeAll (changes d c)
    let message : Message := ⟨Utf8.encode "x", [1]⟩
    let after := (before.publish message deliver before).2
    before.publish message (Container.noting deliver) (before, []) =
        (2, after, [⟨.raw "a", message, some (Utf8.encode "?")⟩, ⟨.raw "b", message, none⟩]) ∧
      after.subscriptions =
        [⟨.raw "a", .pattern "?"⟩, ⟨.raw "d", .channel "y"⟩, ⟨.raw "c", .channel "x"⟩] := by
  intro before changes deliver message after
  obtain ⟨-, hnoted, hchanged⟩ := message_goes_to_snapshot.1 id deliver before message
  have hpresent : before.subscriptions.filter (·.topic.isMatch message.channel) =
      [⟨.raw "a", .pattern "?"⟩, ⟨.raw "b", .channel "x"⟩] := by decide +kernel
  rw [id_eq, hpresent] at hnoted
  have hafter : after = before.changeAll
      (Container.changesOf deliver changes (before.deliveries message) before) :=
    hchanged changes fun _ _ _ => rfl
  refine ⟨hnoted, ?_⟩
  rw [hafter]
  decide +kernel

end KeyRelay
