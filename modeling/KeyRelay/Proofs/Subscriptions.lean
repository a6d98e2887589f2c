import KeyRelay.Proofs.FirstOccurrences
import KeyRelay.Proofs.PlainHandlers

/-!
# What a container holds after a history

A container is told to subscribe listeners to topics and to let go of listeners. It
never adds a subscription that it has, and a removal takes all subscriptions of one
listener at once. What it holds in the end can be read off the history without it: of
all that was asked for, what was not undone since still stands
(`ContainerChange.standing`), and the container holds each of these once, where it was
first asked for.

Two equations carry this. To ask for one more subscription lengthens what stands at its
end, and to remove a listener filters it. Keeping first occurrences commutes with both
(`eraseDups_concat`, `eraseDups_filter`), so it need not be known when a subscription was
refused as one that was there already.
-/

namespace KeyRelay

/-- A change of what a container holds. -/
inductive ContainerChange where
  | add (listener : ListenerId) (topic : Topic)
  /-- To let go of a listener. -/
  | remove (listener : ListenerId)
deriving DecidableEq, Repr

namespace Container

def change (c : Container) : ContainerChange → Container
  | .add listener topic => c.add listener topic
  | .remove listener => c.remove listener

def changeAll (c : Container) (changes : List ContainerChange) : Container := changes.foldl change c

theorem changeAll_concat (c : Container) (changes : List ContainerChange) (last : ContainerChange) :
    c.changeAll (changes ++ [last]) = (c.changeAll changes).change last := by
  rw [changeAll, List.foldl_append]
  rfl

end Container

/-! ## What stands -/

namespace ContainerChange

/-- The subscriptions that were asked for and whose listeners were not removed since, in the order
in which they were asked for, and each as often as it was. -/
def standing : List ContainerChange → List Subscription
  | [] => []
  | .add listener topic :: rest =>
    if .remove listener ∈ rest then standing rest else ⟨listener, topic⟩ :: standing rest
  | .remove _ :: rest => standing rest

theorem standing_concat_add (changes : List ContainerChange) (listener : ListenerId)
    (topic : Topic) :
    standing (changes ++ [.add listener topic]) = standing changes ++ [⟨listener, topic⟩] := by
  induction changes with
  | nil => rfl
  | cons first rest ih =>
      cases first with
      | remove _ => exact ih
      | add listener' topic' =>
          -- one more addition undoes nothing
          have hsame : .remove listener' ∈ rest ++ [.add listener topic] ↔
              .remove listener' ∈ rest := by simp
          simp only [List.cons_append, standing, hsame, ih]
          split <;> rfl

theorem standing_concat_remove (changes : List ContainerChange) (listener : ListenerId) :
    standing (changes ++ [.remove listener]) =
      (standing changes).filter (·.listener != listener) := by
  induction changes with
  | nil => rfl
  | cons first rest ih =>
      cases first with
      | remove _ => exact ih
      | add listener' topic =>
          have hmore : .remove listener' ∈ rest ++ [.remove listener] ↔
              .remove listener' ∈ rest ∨ listener' = listener := by simp
          simp only [List.cons_append, standing, hmore, ih]
          by_cases hgone : .remove listener' ∈ rest
          · rw [if_pos hgone, if_pos (.inl hgone)]
          · by_cases hsame : listener' = listener
            · rw [if_neg hgone, if_pos (.inr hsame), List.filter_cons_of_neg (by simp [hsame])]
            · rw [if_neg hgone, if_neg (by simp [hgone, hsame]),
                List.filter_cons_of_pos (by simp [hsame])]

/-- A history that begins with some change holds a given one, at its beginning or later. -/
theorem split_cons {first change : ContainerChange} {rest : List ContainerChange}
    {P : List ContainerChange → Prop} :
    (∃ before after, first :: rest = before ++ change :: after ∧ P after) ↔
      (first = change ∧ P rest) ∨ ∃ before after, rest = before ++ change :: after ∧ P after := by
  constructor
  · rintro ⟨before, after, hsplit, hafter⟩
    cases before with
    | nil =>
        obtain ⟨rfl, rfl⟩ := List.cons.inj hsplit
        exact .inl ⟨rfl, hafter⟩
    | cons _ before =>
        obtain ⟨rfl, rfl⟩ := List.cons.inj hsplit
        exact .inr ⟨before, after, rfl, hafter⟩
  · rintro (⟨rfl, hrest⟩ | ⟨before, after, rfl, hafter⟩)
    · exact ⟨[], rest, rfl, hrest⟩
    · exact ⟨first :: before, after, rfl, hafter⟩

/-- **What stands was asked for after its listener was last removed.** -/
theorem mem_standing {changes : List ContainerChange} {listener : ListenerId} {topic : Topic} :
    ⟨listener, topic⟩ ∈ standing changes ↔
      ∃ before after, changes = before ++ .add listener topic :: after ∧
        .remove listener ∉ after := by
  induction changes with
  | nil => simp [standing]
  | cons first rest ih =>
      rw [split_cons, ← ih]
      cases first with
      | remove _ => simp [standing]
      | add listener' topic' =>
          by_cases hgone : .remove listener' ∈ rest
          · rw [standing, if_pos hgone, or_iff_right]
            rintro ⟨hsame, hkept⟩
            obtain ⟨rfl, -⟩ := ContainerChange.add.inj hsame
            exact hkept hgone
          · rw [standing, if_neg hgone, List.mem_cons]
            refine or_congr_left ⟨?_, ?_⟩
            · rintro hsame
              obtain ⟨rfl, rfl⟩ := Subscription.mk.inj hsame
              exact ⟨rfl, hgone⟩
            · rintro ⟨hsame, -⟩
              obtain ⟨rfl, rfl⟩ := ContainerChange.add.inj hsame
              rfl

end ContainerChange

/-! ## What a container holds -/

/-- **A container holds what stands, each where it was first asked for.** The changes are undone one
by one from the end. -/
theorem Container.subscriptions_changeAll (changes : List ContainerChange) :
    (({} : Container).changeAll changes).subscriptions =
      (ContainerChange.standing changes).eraseDups := by
  induction changes using List.reverseRecOn with
  | nil => rfl
  | append_singleton changes last ih =>
      rw [changeAll_concat]
      cases last with
      | add listener topic =>
          rw [ContainerChange.standing_concat_add, eraseDups_concat, change, add, ih]
          simp only [List.mem_eraseDups]
          split
          · exact ih
          · rfl
      | remove listener =>
          rw [ContainerChange.standing_concat_remove, eraseDups_filter, change, remove, ih]

/--
**What a container holds, and who is called.** Let any listeners be subscribed to any topics of a
new container, and let go of, in any order.

* The container holds no listener twice under one topic. It holds a listener under a topic exactly
  if that was asked for after the listener was last let go of. A channel and a pattern of one name
  are two topics.
* What it holds is in the order in which it was asked for, where of several times only the first
  since the listener was last let go of counts.
* To publish is to call the listeners of the subscriptions that match the channel, once for each and
  in that order, with the message, and with the name of the topic if that is a pattern. The answer
  is the number of calls.
* If the container belongs to a system in which no handler acts on the system, the calls are noted
  in the log and in the record of invocations and nothing else happens, so the container holds
  afterwards what it held before.
-/
theorem subscriptions_follow_changes (changes : List ContainerChange) :
    let c := ({} : Container).changeAll changes
    c.subscriptions.Nodup ∧
    (∀ listener topic, ⟨listener, topic⟩ ∈ c.subscriptions ↔
      ∃ before after, changes = before ++ .add listener topic :: after ∧
        .remove listener ∉ after) ∧
    (∀ listener name,
      (⟨listener, .channel name⟩ : Subscription) ≠ ⟨listener, .pattern name⟩) ∧
    c.subscriptions = (ContainerChange.standing changes).eraseDups ∧
    ∀ (channel : String) (payload : Bytes),
      let message : Message := ⟨Utf8.encode channel, payload⟩
      let matching := c.subscriptions.filter (·.topic.isMatch (Utf8.encode channel))
      let calls : List Delivery := matching.map fun s =>
        ⟨s.listener, message, if s.topic.isPattern then some (Utf8.encode s.topic.name) else none⟩
      (∀ (S : Type) (call : Delivery → S → S) (state : S),
        c.publish message call state =
          (matching.length, calls.foldl (fun state d => call d state) state)) ∧
      ∀ (s : System) (name : ContainerId), s.world.Plain → s.world.container name = c →
        s.publish name channel payload =
          (matching.length, s.extend (calls.filterMap s.world.invocation?)
            (flatMapInTurn s.world.invocation? s.world.entries s.world.invoked calls)
            (flatMapInTurn s.world.invocation? s.world.failures s.world.invoked calls)) ∧
        (s.publish name channel payload).2.world.container name = c := by
  intro c
  have hholds : c.subscriptions = (ContainerChange.standing changes).eraseDups :=
    Container.subscriptions_changeAll changes
  refine ⟨?_, fun listener topic => ?_, fun listener name => by simp, hholds,
    fun channel payload => ?_⟩
  · rw [hholds]
    exact nodup_eraseDups _
  · rw [hholds, List.mem_eraseDups, ContainerChange.mem_standing]
  · intro message matching calls
    have hlength : calls.length = matching.length := List.length_map _
    refine ⟨fun S call state => ?_, fun s name hplain hcontainer => ?_⟩
    · rw [← hlength]
      rfl
    · have hpublish := System.publish_plain hplain name channel payload
      rw [hcontainer] at hpublish
      rw [← hlength]
      exact ⟨hpublish, by rw [hpublish]; exact hcontainer⟩

/-- A listener that was let go of and came back under a channel and a pattern of one name, which was
asked for twice, is called for both, after one that stayed. -/
theorem subscriptions_follow_changes_returned :
    let changes : List ContainerChange :=
      [.add (.raw "a") (.channel "x*"), .add (.raw "b") (.pattern "x?"), .remove (.raw "a"),
       .add (.raw "a") (.pattern "x*"), .add (.raw "a") (.channel "x*"),
       .add (.raw "a") (.pattern "x*")]
    let c := ({} : Container).changeAll changes
    let s : System := { world := { stations := Table.empty.insert "main" { container := c } } }
    let message : Message := ⟨Utf8.encode "x*", [0x31]⟩
    s.world.Plain ∧ s.world.container "main" = c ∧
      (s.publish "main" "x*" [0x31]).1 = 3 ∧
      (s.publish "main" "x*" [0x31]).2.world.log =
        [.raw "b" message (some (Utf8.encode "x?")), .raw "a" message (some (Utf8.encode "x*")),
         .raw "a" message none] ∧
      (s.publish "main" "x*" [0x31]).2.world.container "main" = c := by
  intro changes c s message
  have hplain : s.world.Plain := by
    intro a ha
    exact absurd ha (by simp [s])
  have hcontainer : s.world.container "main" = c := rfl
  have hmatching : c.subscriptions.filter (·.topic.isMatch (Utf8.encode "x*")) =
      [⟨.raw "b", .pattern "x?"⟩, ⟨.raw "a", .pattern "x*"⟩, ⟨.raw "a", .channel "x*"⟩] := by
    decide +kernel
  obtain ⟨-, -, -, -, hpublish⟩ := subscriptions_follow_changes changes
  obtain ⟨hcalls, hsame⟩ := (hpublish "x*" [0x31]).2 s "main" hplain hcontainer
  rw [hmatching] at hcalls
  refine ⟨hplain, hcontainer, ?_, ?_, hsame⟩
  · rw [hcalls]
    rfl
  · rw [hcalls]
    rfl

end KeyRelay
