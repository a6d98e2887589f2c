import KeyRelay.LruCache
import KeyRelay.Proofs.FirstOccurrences

/-!
# A cache holds what was requested last

A cache never sees more than the request at hand: it moves an entry to the front, or
puts a new one there and drops the last. Yet what it holds is a function of everything
it was ever asked for: `recent`, the distinct keys that were requested last, each with
what the factory makes of it (`LruCache.Recalls`). The two are tied together by what
one request does to `recent`, which is either of the same two things.

`holds_most_recent` follows a cache through any history of requests and of questions
whether a key is held.
-/

namespace KeyRelay

/-! ## The keys requested last -/

/-- The `n` distinct keys that were requested last, the latest of them first. -/
def recent (n : Nat) (requests : List String) : List String :=
  requests.reverse.eraseDups.take n

theorem length_recent (n : Nat) (requests : List String) :
    (recent n requests).length = min n requests.toFinset.card := by
  rw [recent, List.length_take, length_eraseDups, List.toFinset_reverse]

theorem recent_concat (n : Nat) (requests : List String) (key : String) :
    recent (n + 1) (requests ++ [key]) =
      key :: (requests.reverse.eraseDups.filter (· != key)).take n := by
  rw [recent, List.reverse_append, List.reverse_singleton, List.singleton_append,
    List.eraseDups_cons, eraseDups_filter, List.take_succ_cons]
  rfl

example : recent 2 ["a", "b", "a", "c"] = ["c", "a"] := by decide

/-- What is left without one of the first `n + 1` keys begins with the other ones of these. -/
theorem take_filter_of_mem {keys : List String} (hnodup : keys.Nodup) {n : Nat} {key : String}
    (h : key ∈ keys.take (n + 1)) :
    (keys.filter (· != key)).take n = (keys.take (n + 1)).filter (· != key) := by
  induction keys generalizing n with
  | nil => exact absurd h List.not_mem_nil
  | cons first rest ih =>
      obtain ⟨hfirst, hrest⟩ := List.nodup_cons.mp hnodup
      rw [List.take_succ_cons] at h ⊢
      by_cases hkey : first = key
      · subst hkey
        have hothers : ∀ keys : List String, first ∉ keys → keys.filter (· != first) = keys :=
          fun keys hnot => List.filter_eq_self.mpr fun other hother =>
            bne_iff_ne.mpr (ne_of_mem_of_not_mem hother hnot)
        simp only [List.filter_cons, bne_self_eq_false, Bool.false_eq_true, if_false]
        rw [hothers rest hfirst, hothers _ fun hin => hfirst (List.mem_of_mem_take hin)]
      · have hin : key ∈ rest.take n := (List.mem_cons.mp h).resolve_left (Ne.symm hkey)
        cases n with
        | zero => exact absurd hin (by simp)
        | succ n =>
            rw [List.filter_cons_of_pos (by simpa using hkey), List.take_succ_cons, ih hrest hin,
              List.filter_cons_of_pos (by simpa using hkey)]

/-- Keys that come after the first `n + 1` do not matter to the first `n`. -/
theorem take_filter_of_notMem {keys : List String} {n : Nat} {key : String}
    (h : key ∉ keys.take (n + 1)) :
    (keys.filter (· != key)).take n = keys.take n := by
  induction keys generalizing n with
  | nil => rfl
  | cons first rest ih =>
      rw [List.take_succ_cons, List.mem_cons, not_or] at h
      rw [List.filter_cons_of_pos (by simpa using Ne.symm h.1)]
      cases n with
      | zero => rfl
      | succ n => rw [List.take_succ_cons, List.take_succ_cons, ih h.2]

/-- A recent key that is requested again goes to the front. -/
theorem recent_concat_of_mem {n : Nat} {requests : List String} {key : String}
    (h : key ∈ recent n requests) :
    recent n (requests ++ [key]) = key :: (recent n requests).filter (· != key) := by
  cases n with
  | zero => exact absurd h (by simp [recent])
  | succ n => rw [recent_concat, take_filter_of_mem (nodup_eraseDups _) h, recent]

/-- Any other key comes to the front too, and where there is no room the last one goes. -/
theorem recent_concat_of_notMem {n : Nat} {requests : List String} {key : String} (hn : 0 < n)
    (h : key ∉ recent n requests) :
    recent n (requests ++ [key]) = key :: (recent n requests).take (n - 1) := by
  obtain ⟨n, rfl⟩ := Nat.exists_eq_succ_of_ne_zero (Nat.ne_of_gt hn)
  rw [Nat.succ_eq_add_one, recent_concat, take_filter_of_notMem h, recent, List.take_take]
  congr 2
  omega

/-! ## One request -/

namespace LruCache

variable {V : Type} {factory : String → V} {requests : List String} {c : LruCache V}

/-- A cache that holds what the factory makes of the keys requested last, and nothing else. -/
def Recalls (factory : String → V) (requests : List String) (c : LruCache V) : Prop :=
  c.entries = (recent c.capacity requests).map fun key => (key, factory key)

theorem recalls_ofCapacity (factory : String → V) (capacity : Nat) :
    (ofCapacity capacity).Recalls factory [] := by
  simp [Recalls, ofCapacity, recent]

namespace Recalls

theorem find? (h : c.Recalls factory requests) (key : String) :
    c.find? key = if key ∈ recent c.capacity requests then some (factory key) else none := by
  rw [LruCache.find?, h]
  induction recent c.capacity requests with
  | nil => rfl
  | cons first rest ih =>
      rw [List.map_cons, List.lookup_cons, ih]
      by_cases hkey : key = first
      · subst hkey
        simp
      · simp [hkey, beq_false_of_ne hkey]

theorem contains (h : c.Recalls factory requests) (key : String) :
    c.contains key = true ↔ key ∈ recent c.capacity requests := by
  rw [LruCache.contains, h.find?]
  split <;> simp [*]

theorem size (h : c.Recalls factory requests) :
    c.size = min c.capacity requests.toFinset.card := by
  rw [LruCache.size, h, List.length_map, length_recent]

theorem promote (h : c.Recalls factory requests) {key : String}
    (hkey : key ∈ recent c.capacity requests) :
    (c.promote key (factory key)).Recalls factory (requests ++ [key]) := by
  show (key, factory key) :: c.entries.filter (·.1 != key) = _
  rw [h, List.filter_map]
  show _ = (recent c.capacity (requests ++ [key])).map _
  rw [recent_concat_of_mem hkey]
  rfl

theorem push (h : c.Recalls factory requests) {key : String}
    (hkey : key ∉ recent c.capacity requests) :
    (c.push key (factory key)).Recalls factory (requests ++ [key]) := by
  show (key, factory key) :: c.entries.take (c.capacity - 1) = _
  rw [h, ← List.map_take]
  show _ = (recent c.capacity (requests ++ [key])).map _
  rw [recent_concat_of_notMem c.capacity_pos hkey]
  rfl

/-- **What a request comes to**: the entry that is held, or one that is made. -/
theorem get_eq (h : c.Recalls factory requests) {m : Type → Type} [Monad m]
    (make : String → m V) (key : String) :
    c.get make key =
      if key ∈ recent c.capacity requests then
        pure (.held (factory key), c.promote key (factory key))
      else do
        let v ← make key
        return (.made v, c.push key v) := by
  rw [LruCache.get, h.find?]
  by_cases hkey : key ∈ recent c.capacity requests
  · simp only [if_pos hkey]
  · simp only [if_neg hkey]

end Recalls

end LruCache

/-! ## Histories -/

/-- A use of a cache. -/
inductive CacheUse where
  | get (key : String)
  /-- Asks whether a key has an entry. -/
  | contains (key : String)
deriving DecidableEq, Repr

/-- What a use of a cache is answered. -/
inductive CacheAnswer (V : Type) where
  | value (v : V)
  | held (answer : Bool)
deriving DecidableEq, Repr

/-- A use of a cache, its answer, and the keys for which the factory was called meanwhile. -/
structure CacheTurn (V : Type) where
  use : CacheUse
  answer : CacheAnswer V
  made : List String
deriving DecidableEq, Repr

def CacheUse.request? : CacheUse → Option String
  | .get key => some key
  | .contains _ => none

/-- The keys that were requested. To ask whether a key has an entry is not to request it. -/
def requested (uses : List CacheUse) : List String := uses.filterMap CacheUse.request?

/-- What a use should come to after these requests, where there is room for `n` entries. -/
def CacheUse.turn {V : Type} (n : Nat) (factory : String → V) (requests : List String)
    (use : CacheUse) : CacheTurn V :=
  match use with
  | .get key => ⟨use, .value (factory key), if key ∈ recent n requests then [] else [key]⟩
  | .contains key => ⟨use, .held (key ∈ recent n requests), []⟩

namespace LruCache

variable {V : Type} (factory : String → V)

/-- The factory, with a record of the keys for which it was called. -/
def tally (key : String) : StateM (List String) V := do
  modify (· ++ [key])
  return factory key

def serve (c : LruCache V) : CacheUse → CacheTurn V × LruCache V
  | .get key =>
    let ((found, c), made) := (c.get (tally factory) key).run []
    (⟨.get key, .value found.value, made⟩, c)
  | .contains key => (⟨.contains key, .held (c.contains key), []⟩, c)

/-- Serves one use after the other. -/
def serveAll (c : LruCache V) : List CacheUse → List (CacheTurn V) × LruCache V
  | [] => ([], c)
  | use :: rest =>
    let (turn, c) := c.serve factory use
    let (turns, c) := c.serveAll rest
    (turn :: turns, c)

variable {factory} {requests : List String} {c : LruCache V}

/-- **One use of a cache**: it is answered as it should be, and the cache goes on to hold what was
requested last. -/
theorem Recalls.serve (h : c.Recalls factory requests) (use : CacheUse) :
    (c.serve factory use).1 = use.turn c.capacity factory requests ∧
      (c.serve factory use).2.capacity = c.capacity ∧
      (c.serve factory use).2.Recalls factory (requests ++ requested [use]) := by
  cases use with
  | get key =>
      rw [LruCache.serve, h.get_eq, CacheUse.turn]
      by_cases hkey : key ∈ recent c.capacity requests
      · rw [if_pos hkey, if_pos hkey]
        exact ⟨rfl, rfl, h.promote hkey⟩
      · rw [if_neg hkey, if_neg hkey]
        exact ⟨rfl, rfl, h.push hkey⟩
  | contains key =>
      have hanswer : c.contains key = decide (key ∈ recent c.capacity requests) := by
        rw [Bool.eq_iff_iff, h.contains, decide_eq_true_iff]
      refine ⟨?_, rfl, ?_⟩
      · rw [LruCache.serve, CacheUse.turn, hanswer]
      · rw [requested, List.filterMap_cons_none rfl, List.filterMap_nil, List.append_nil]
        exact h

/-- **All uses**, by induction on them. -/
theorem Recalls.serveAll (h : c.Recalls factory requests) (uses : List CacheUse) :
    (∀ i : Nat, (c.serveAll factory uses).1[i]? = uses[i]?.map fun use =>
      use.turn c.capacity factory (requests ++ requested (uses.take i))) ∧
      (c.serveAll factory uses).2.capacity = c.capacity ∧
      (c.serveAll factory uses).2.Recalls factory (requests ++ requested uses) := by
  induction uses generalizing c requests with
  | nil => exact ⟨fun i => rfl, rfl, by simpa [requested, LruCache.serveAll] using h⟩
  | cons use rest ih =>
      obtain ⟨hturn, hcapacity, hrecalls⟩ := h.serve use
      obtain ⟨hturns, hcapacity', hrecalls'⟩ := ih hrecalls
      have hsplit : ∀ uses, requests ++ requested (use :: uses) =
          requests ++ requested [use] ++ requested uses := by
        intro uses
        rw [List.append_assoc, requested, requested, requested, ← List.filterMap_append,
          List.singleton_append]
      rw [LruCache.serveAll]
      refine ⟨fun i => ?_, hcapacity'.trans hcapacity, hsplit rest ▸ hrecalls'⟩
      cases i with
      | zero =>
          rw [List.getElem?_cons_zero, List.getElem?_cons_zero, hturn]
          simp [requested]
      | succ i =>
          rw [List.getElem?_cons_succ, List.getElem?_cons_succ, hturns, hcapacity,
            List.take_succ_cons, hsplit (rest.take i)]

end LruCache

/--
**A cache holds what was requested last.** Let a new cache with room for `capacity` entries (or for
one, if that is zero) be used in any way.

* A request is answered with what the factory makes of the key, and the factory is called for it
  exactly if the key is not among those requested last. A question whether a key has an entry is
  answered by whether it is one of these, and calls for nothing.
* In the end there are entries for the keys requested last and for no others, in the order of their
  last requests. Questions have no part in that.
* So the number of entries is the number of keys requested, or the capacity if that is less.
-/
theorem holds_most_recent {V : Type} (capacity : Nat) (factory : String → V)
    (uses : List CacheUse) :
    let room := max capacity 1
    let turns := ((LruCache.ofCapacity capacity).serveAll factory uses).1
    let cache := ((LruCache.ofCapacity capacity).serveAll factory uses).2
    (∀ i : Nat, turns[i]? = uses[i]?.map fun use =>
      use.turn room factory (requested (uses.take i))) ∧
    cache.entries = (recent room (requested uses)).map (fun key => (key, factory key)) ∧
    (∀ key, cache.contains key = true ↔ key ∈ recent room (requested uses)) ∧
    cache.capacity = room ∧
    cache.size = min room (requested uses).toFinset.card ∧
    cache.size ≤ cache.capacity := by
  intro room turns cache
  obtain ⟨hturns, hcapacity, hrecalls⟩ :=
    (LruCache.recalls_ofCapacity factory capacity).serveAll uses
  have hroom : cache.capacity = room := hcapacity
  rw [List.nil_append] at hrecalls
  have hsize := hrecalls.size
  have hcontains := hrecalls.contains
  unfold LruCache.Recalls at hrecalls
  rw [hcapacity] at hrecalls hsize hcontains
  refine ⟨hturns, hrecalls, hcontains, hroom, hsize, ?_⟩
  rw [hroom]
  exact hsize.le.trans (Nat.min_le_left _ _)

end KeyRelay
