import KeyRelay.Proofs.RecentKeys
import KeyRelay.Proofs.ResolverAnswers

/-!
# What a resolver answers and what it keeps

A resolver has a cache for channels and another for patterns, and which of the two a
destination goes to depends on the destination alone. So each cache sees its own part
of the destinations, in order, and holds what was requested last in that part
(`Resolver.Recalls`): patterns come and go without a trace in the cache of channels,
channels without a trace in the cache of patterns, and blank destinations without a
trace in either. What is cached has no part in the answers.
-/

namespace KeyRelay

/-- Whether a destination is one of a pattern. -/
def namesPattern (destination : String) : Bool :=
  !isBlank destination && Glob.isPattern destination

/-- Whether a destination is one of a channel. -/
def namesChannel (destination : String) : Bool :=
  !isBlank destination && !Glob.isPattern destination

namespace LruCache.Recalls

variable {V : Type} {factory : String → V} {requests : List String} {c : LruCache V}

theorem made (h : c.Recalls factory requests) : c.Made factory := by
  intro e he
  rw [h] at he
  obtain ⟨key, -, rfl⟩ := List.mem_map.mp he
  rfl

/-- A request keeps what is requested last, also with a factory that keeps no record. -/
theorem get (h : c.Recalls factory requests) (key : String) :
    (c.get (m := Id) factory key).2.capacity = c.capacity ∧
      (c.get (m := Id) factory key).2.Recalls factory (requests ++ [key]) := by
  rw [h.get_eq]
  by_cases hkey : key ∈ recent c.capacity requests
  · rw [if_pos hkey]
    exact ⟨rfl, h.promote hkey⟩
  · rw [if_neg hkey]
    exact ⟨rfl, h.push hkey⟩

end LruCache.Recalls

namespace Resolver

/-- A resolver whose caches have this capacity, and hold what was requested of each of them last
among these destinations. -/
structure Recalls (capacity : Nat) (destinations : List String) (r : Resolver) : Prop where
  roomForChannels : r.channels.capacity = capacity
  roomForPatterns : r.patterns.capacity = capacity
  channels : r.channels.Recalls .channel (destinations.filter namesChannel)
  patterns : r.patterns.Recalls .pattern (destinations.filter namesPattern)

theorem recalls_ofCapacity (capacity : Nat) :
    (ofCapacity capacity).Recalls (max capacity 1) [] :=
  ⟨rfl, rfl, LruCache.recalls_ofCapacity _ _, LruCache.recalls_ofCapacity _ _⟩

theorem resolve_of_blank (r : Resolver) {destination : String} (h : isBlank destination = true) :
    r.resolve destination = (.error (.blankDestination destination), r) := by
  rw [Resolver.resolve, lookup, if_pos h]
  rfl

theorem resolve_of_pattern (r : Resolver) {destination : String}
    (h : namesPattern destination = true) :
    r.resolve destination =
      let out := r.patterns.get (m := Id) .pattern destination
      (.ok out.1.value, { r with patterns := out.2 }) := by
  obtain ⟨hblank, hpattern⟩ := by simpa [namesPattern] using h
  rw [Resolver.resolve, lookup, if_neg (by simp [hblank]), if_pos hpattern]
  rfl

theorem resolve_of_channel (r : Resolver) {destination : String}
    (h : namesChannel destination = true) :
    r.resolve destination =
      let out := r.channels.get (m := Id) .channel destination
      (.ok out.1.value, { r with channels := out.2 }) := by
  obtain ⟨hblank, hpattern⟩ := by simpa [namesChannel] using h
  rw [Resolver.resolve, lookup, if_neg (by simp [hblank]), if_neg (by simp [hpattern])]
  rfl

theorem destination_cases (destination : String) :
    isBlank destination = true ∧ namesPattern destination = false ∧
      namesChannel destination = false ∨
    namesPattern destination = true ∧ namesChannel destination = false ∨
    namesPattern destination = false ∧ namesChannel destination = true := by
  unfold namesPattern namesChannel
  cases isBlank destination <;> cases Glob.isPattern destination <;> simp

theorem Recalls.sound {capacity : Nat} {destinations : List String} {r : Resolver}
    (h : r.Recalls capacity destinations) : r.Sound := ⟨h.channels.made, h.patterns.made⟩

/-- **One destination** is of concern to one cache, or to none. -/
theorem Recalls.resolve {capacity : Nat} {destinations : List String} {r : Resolver}
    (h : r.Recalls capacity destinations) (destination : String) :
    (r.resolve destination).2.Recalls capacity (destinations ++ [destination]) := by
  rcases destination_cases destination with ⟨hblank, hpattern, hchannel⟩ |
    ⟨hpattern, hchannel⟩ | ⟨hpattern, hchannel⟩
  · rw [resolve_of_blank r hblank]
    exact ⟨h.roomForChannels, h.roomForPatterns, by simpa [hchannel] using h.channels,
      by simpa [hpattern] using h.patterns⟩
  · obtain ⟨hcapacity, hrecalls⟩ := h.patterns.get destination
    rw [resolve_of_pattern r hpattern]
    exact ⟨h.roomForChannels, hcapacity.trans h.roomForPatterns,
      by simpa [hchannel] using h.channels, by simpa [hpattern] using hrecalls⟩
  · obtain ⟨hcapacity, hrecalls⟩ := h.channels.get destination
    rw [resolve_of_channel r hchannel]
    exact ⟨hcapacity.trans h.roomForChannels, h.roomForPatterns,
      by simpa [hchannel] using hrecalls, by simpa [hpattern] using h.patterns⟩

/-- Resolves one destination after the other. -/
def resolveAll (r : Resolver) : List String → List (Except ListenerError Topic) × Resolver
  | [] => ([], r)
  | destination :: rest =>
    let (found, r) := r.resolve destination
    let (others, r) := r.resolveAll rest
    (found :: others, r)

/-- **All destinations**, by induction on them. -/
theorem Recalls.resolveAll {capacity : Nat} {before : List String} {r : Resolver}
    (h : r.Recalls capacity before) (destinations : List String) :
    (r.resolveAll destinations).1 = destinations.map Topic.ofDestination ∧
      (r.resolveAll destinations).2.Recalls capacity (before ++ destinations) := by
  induction destinations generalizing r before with
  | nil => exact ⟨rfl, by simpa [Resolver.resolveAll] using h⟩
  | cons destination rest ih =>
      obtain ⟨hanswer, -⟩ := h.sound.resolve destination
      obtain ⟨hanswers, hrecalls⟩ := ih (h.resolve destination)
      rw [Resolver.resolveAll, List.map_cons, ← hanswer, ← hanswers]
      exact ⟨rfl, by simpa using hrecalls⟩

end Resolver

/--
**The caches of a resolver are seen in nothing but what is cached.** Let a new resolver of any
capacity resolve any destinations.

* A blank destination is refused, by the name it was given. Any other names the pattern or the
  channel that is called exactly so: a pattern if that is what the name is, and a channel if not.
  What was resolved before does not matter.
* In the end the cache of channels holds those channels that were resolved last, in that order and
  as many as there is room for, and the cache of patterns those patterns.
* To resolve a pattern leaves the channels as they are, to resolve a channel the patterns, and to
  try a blank destination leaves both.
-/
theorem caches_hold_most_recent (capacity : Nat) (destinations : List String) :
    let r : Resolver := ((Resolver.ofCapacity capacity).resolveAll destinations).2
    let answers := ((Resolver.ofCapacity capacity).resolveAll destinations).1
    let room := max capacity 1
    answers = destinations.map (fun d =>
      if isBlank d then .error (.invalidTopic d "destination must not be blank")
      else if Glob.isPattern d then .ok (.pattern d)
      else .ok (.channel d)) ∧
    r.channels.entries =
      (recent room (destinations.filter fun d => !isBlank d && !Glob.isPattern d)).map
        (fun d => (d, .channel d)) ∧
    r.patterns.entries =
      (recent room (destinations.filter fun d => !isBlank d && Glob.isPattern d)).map
        (fun d => (d, .pattern d)) ∧
    ∀ d,
      (isBlank d = true → (r.resolve d).2 = r) ∧
      (isBlank d = false → Glob.isPattern d = true →
        (r.resolve d).2.channels = r.channels) ∧
      (isBlank d = false → Glob.isPattern d = false →
        (r.resolve d).2.patterns = r.patterns) := by
  intro r answers room
  obtain ⟨hanswers, hrecalls⟩ := (Resolver.recalls_ofCapacity capacity).resolveAll destinations
  have hchannels := hrecalls.channels
  have hpatterns := hrecalls.patterns
  unfold LruCache.Recalls at hchannels hpatterns
  rw [hrecalls.roomForChannels] at hchannels
  rw [hrecalls.roomForPatterns] at hpatterns
  have hplain : ∀ d, Topic.ofDestination d =
      if isBlank d then .error (.invalidTopic d "destination must not be blank")
      else if Glob.isPattern d then .ok (.pattern d)
      else .ok (.channel d) := by
    intro d
    rw [Topic.ofDestination, Topic.named, ListenerError.blankDestination, apply_ite Except.ok]
  refine ⟨hanswers.trans (List.map_congr_left fun d _ => hplain d), hchannels, hpatterns,
    fun d => ⟨fun hblank => ?_, fun hblank hglob => ?_, fun hblank hglob => ?_⟩⟩
  · rw [Resolver.resolve_of_blank r hblank]
  · rw [Resolver.resolve_of_pattern r (by simp [namesPattern, hblank, hglob])]
  · rw [Resolver.resolve_of_channel r (by simp [namesChannel, hblank, hglob])]

end KeyRelay
