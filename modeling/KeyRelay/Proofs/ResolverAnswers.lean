import KeyRelay.Listener.Resolver

/-!
# A resolver answers as if it had no cache

A cache holds what its factory made, so it answers what the factory would have made
again (`LruCache.Made`). A resolver puts its channels and its patterns into two such
caches. Whatever it was asked before, its answer is `Topic.ofDestination`.
-/

namespace KeyRelay

namespace LruCache

variable {V : Type} {factory : String → V} {c : LruCache V}

/-- Every entry is what the factory makes of its key. -/
def Made (factory : String → V) (c : LruCache V) : Prop := ∀ e ∈ c.entries, e.2 = factory e.1

theorem made_ofCapacity (factory : String → V) (capacity : Nat) :
    (ofCapacity capacity).Made factory := by
  intro e he
  exact absurd he List.not_mem_nil

theorem Made.eq_of_find? (h : c.Made factory) {key : String} {v : V} (hfind : c.find? key = some v) :
    v = factory key := by
  obtain ⟨before, after, hentries, -⟩ := List.lookup_eq_some_iff.mp hfind
  exact h (key, v) (by rw [hentries]; simp)

theorem Made.promote (h : c.Made factory) (key : String) :
    (c.promote key (factory key)).Made factory := by
  intro e he
  rcases List.mem_cons.mp he with rfl | he
  · rfl
  · exact h e (List.mem_filter.mp he).1

theorem Made.push (h : c.Made factory) (key : String) :
    (c.push key (factory key)).Made factory := by
  intro e he
  rcases List.mem_cons.mp he with rfl | he
  · rfl
  · exact h e (List.mem_of_mem_take he)

/-- **What is cached makes no difference to the answer.** -/
theorem Made.get (h : c.Made factory) (key : String) :
    (c.get (m := Id) factory key).1.value = factory key ∧
      (c.get (m := Id) factory key).2.Made factory := by
  unfold LruCache.get
  cases hfind : c.find? key with
  | some v =>
      obtain rfl := h.eq_of_find? hfind
      exact ⟨rfl, h.promote key⟩
  | none => exact ⟨rfl, h.push key⟩

end LruCache

namespace Resolver

/-- Every cached topic is the topic of its destination. -/
structure Sound (r : Resolver) : Prop where
  channels : r.channels.Made .channel
  patterns : r.patterns.Made .pattern

theorem sound_ofCapacity (capacity : Nat) : (ofCapacity capacity).Sound :=
  ⟨LruCache.made_ofCapacity _ _, LruCache.made_ofCapacity _ _⟩

/-- **A resolver's answer does not depend on what it was asked before.** -/
theorem Sound.resolve {r : Resolver} (h : r.Sound) (destination : String) :
    (r.resolve destination).1 = Topic.ofDestination destination ∧
      (r.resolve destination).2.Sound := by
  unfold Resolver.resolve lookup Topic.ofDestination Topic.named
  by_cases hblank : isBlank destination = true
  · simp only [if_pos hblank]
    exact ⟨rfl, h⟩
  · simp only [if_neg hblank]
    by_cases hpattern : Glob.isPattern destination = true
    · simp only [if_pos hpattern]
      obtain ⟨hvalue, hmade⟩ := h.patterns.get destination
      exact ⟨congrArg Except.ok hvalue, h.channels, hmade⟩
    · simp only [if_neg hpattern]
      obtain ⟨hvalue, hmade⟩ := h.channels.get destination
      exact ⟨congrArg Except.ok hvalue, hmade, h.patterns⟩

end Resolver

end KeyRelay
