import KeyRelay.Keys.Store
import Mathlib.Data.Finset.Card

/-!
# What a store holds, its dead entries left out

An entry whose deadline has come stays in the table until some operation comes
across it. So the table is not what a store means. `Store.entryAt` is: the entry
of a key, unless its deadline has come. Every operation is described through it
here, and eviction turns out to change nothing at all.

The view at a later time follows from the view now, because a deadline that has
come does not go away again (`filter_later`). That is what lets an invariant speak
of the present only and still survive the clock.
-/

namespace KeyRelay

/-! ## Deadlines and time -/

def Entry.lives (now : Instant) (e : Entry) : Bool := !e.isExpired now

theorem Entry.lives_iff {now : Instant} {e : Entry} :
    e.lives now = true ↔ ∀ deadline, e.deadline = some deadline → now < deadline := by
  unfold Entry.lives Entry.isExpired
  cases e.deadline with
  | none => simp
  | some deadline => simp

theorem Entry.lives_earlier {now later : Instant} (h : now ≤ later) {e : Entry}
    (he : e.lives later = true) : e.lives now = true := by
  rw [Entry.lives_iff] at he ⊢
  intro deadline hd
  exact Nat.lt_of_le_of_lt h (he deadline hd)

/-- To see what counts later, it is enough to know what counts now. -/
theorem filter_later {now later : Instant} (h : now ≤ later) (found : Option Entry) :
    (found.filter (Entry.lives now)).filter (Entry.lives later) =
      found.filter (Entry.lives later) := by
  cases found with
  | none => rfl
  | some e =>
      by_cases he : e.lives later = true
      · simp [Option.filter, he, Entry.lives_earlier h he]
      · by_cases hn : e.lives now = true <;> simp [Option.filter, he, hn]

theorem filter_lives_some (now deadline : Instant) (value : Bytes) :
    (some (⟨value, some deadline⟩ : Entry)).filter (Entry.lives now) =
      if now < deadline then some ⟨value, some deadline⟩ else none := by
  by_cases h : now < deadline
  · simp [Option.filter, Entry.lives, Entry.isExpired, h]
  · simp [Option.filter, Entry.lives, Entry.isExpired, h, Nat.not_lt.mp h]

/-! ## The entry of a key -/

namespace Store

/-- The entry of a key, unless its deadline has come. -/
def entryAt (s : Store) (now : Instant) (key : String) : Option Entry :=
  (s.entries.get? key).filter (Entry.lives now)

theorem entryAt_filter (s : Store) (now : Instant) (key : String) :
    (s.entryAt now key).filter (Entry.lives now) = s.entryAt now key :=
  filter_later (Nat.le_refl now) _

theorem entryAt_later {now later : Instant} (h : now ≤ later) (s : Store) (key : String) :
    s.entryAt later key = (s.entryAt now key).filter (Entry.lives later) :=
  (filter_later h _).symm

theorem live?_eq (s : Store) (now : Instant) (key : String) :
    s.live? now key = (s.entryAt now key).map (·.value) := by
  unfold live? entryAt Entry.lives
  cases s.entries.get? key with
  | none => rfl
  | some e => by_cases he : e.isExpired now <;> simp [Option.filter, he]

theorem entryAt_insert (s : Store) (now : Instant) (key other : String) (e : Entry) :
    (⟨s.entries.insert key e⟩ : Store).entryAt now other =
      if key = other then (some e).filter (Entry.lives now) else s.entryAt now other := by
  unfold entryAt
  rw [Table.get?_insert]
  split <;> rfl

theorem entryAt_erase (s : Store) (now : Instant) (key other : String) :
    (⟨s.entries.erase key⟩ : Store).entryAt now other =
      if key = other then none else s.entryAt now other := by
  unfold entryAt
  rw [Table.get?_erase]
  split <;> rfl

/-- **Eviction is not to be seen.** -/
theorem entryAt_evict (s : Store) (now : Instant) (key other : String) :
    (s.evict now key).entryAt now other = s.entryAt now other := by
  unfold evict
  split
  · rename_i e he
    split
    · rename_i hexpired
      rw [entryAt_erase]
      split
      · rename_i hkey
        subst hkey
        simp [entryAt, he, Option.filter, Entry.lives, hexpired]
      · rfl
    · rfl
  · rfl

end Store

/-! ## Writes and deletes -/

/-- The deadline that a write made now would have. -/
def SetOptions.deadline (options : SetOptions) (now : Instant) : Option Instant :=
  options.expiration.map fun d => now + d.nanoseconds

/-- Whether the clock can show that deadline. -/
def SetOptions.fits (options : SetOptions) (now : Instant) : Bool :=
  (options.deadline now).all (· < Instant.limit)

/-- Whether a key with this value, or without one, may be written. -/
def Writable (live : Option Bytes) (condition : Option Condition) : Prop :=
  condition = none ∨
    (∃ c v, condition = some c ∧ live = some v ∧ c.holds v = true) ∨
    ∃ c, condition = some c ∧ live = none ∧ c.operator = .notEquals

/-- Whether a key with this value, or without one, may be deleted. -/
def Deletable (live : Option Bytes) (condition : Option Condition) : Prop :=
  ∃ v, live = some v ∧ (condition = none ∨ ∃ c, condition = some c ∧ c.holds v = true)

namespace Store

theorem allows_iff (s : Store) (now : Instant) (key : String) (condition : Option Condition) :
    s.allows now key condition = true ↔ Writable (s.live? now key) condition := by
  unfold allows Writable
  cases condition with
  | none => simp
  | some c =>
      cases s.live? now key with
      | none => simp [Condition.holdsForMissing]
      | some v => simp

/-- What a write does: nothing, or nothing because it crashes, or what it is meant to. -/
theorem set_eq (s : Store) (now : Instant) (key : String) (value : Bytes) (options : SetOptions) :
    s.set now key value options =
      if s.allows now key options.condition then
        if options.fits now then
          (.answer true, ⟨s.entries.insert key ⟨value, options.deadline now⟩⟩)
        else (.overflow, s)
      else (.answer false, s) := by
  unfold set SetOptions.fits SetOptions.deadline Instant.after?
  cases options.expiration with
  | none => simp
  | some d => by_cases hd : now + d.nanoseconds < Instant.limit <;> simp [hd]

theorem delete_fst (s : Store) (now : Instant) (key : String) (condition : Option Condition) :
    (s.delete now key condition).1 = true ↔ Deletable (s.live? now key) condition := by
  unfold delete Deletable
  cases s.live? now key with
  | none => simp
  | some v =>
      cases condition with
      | none => simp
      | some c => by_cases hc : c.holds v <;> simp [hc]

/-- What a delete does: it takes its key out, or it does nothing. -/
theorem entryAt_delete (s : Store) (now : Instant) (key other : String)
    (condition : Option Condition) :
    (s.delete now key condition).2.entryAt now other =
      if (s.delete now key condition).1 = true ∧ key = other then none else s.entryAt now other := by
  unfold delete
  cases s.live? now key with
  | none => simp [entryAt_evict]
  | some v => by_cases hc : condition.all (·.holds v) <;> simp [hc, entryAt_erase]

end Store

/-! ## Counting -/

/-- Since no key is listed twice, looking a key up finds all there is. -/
theorem Table.get?_eq_some_iff {K V : Type} [DecidableEq K] (t : Table K V) (key : K) (value : V) :
    t.get? key = some value ↔ (key, value) ∈ t.entries := by
  obtain ⟨entries, hnd⟩ := t
  unfold Table.get?
  dsimp only
  induction entries with
  | nil => simp [Table.find]
  | cons e rest ih =>
      obtain ⟨k, v⟩ := e
      obtain ⟨hk, hrest⟩ := List.nodup_cons.mp hnd
      by_cases h : k = key
      · subst h
        have habsent : (k, value) ∉ rest := fun hmem =>
          hk (List.mem_map.mpr ⟨(k, value), hmem, rfl⟩)
        simp [Table.find, habsent, eq_comm]
      · have h' : ¬ key = k := fun he => h he.symm
        simp [Table.find, h, h', ih hrest]

namespace Store

def liveKeys (s : Store) (now : Instant) : List String :=
  (s.entries.entries.filter fun e => !e.2.isExpired now).map Prod.fst

theorem mem_liveKeys (s : Store) (now : Instant) (key : String) :
    key ∈ s.liveKeys now ↔ (s.live? now key).isSome = true := by
  rw [live?_eq, Option.isSome_map]
  unfold liveKeys entryAt
  constructor
  · intro h
    obtain ⟨⟨k, e⟩, hmem, rfl⟩ := List.mem_map.mp h
    obtain ⟨hmem, hlives⟩ := List.mem_filter.mp hmem
    rw [(Table.get?_eq_some_iff s.entries k e).mpr hmem]
    simp [Option.filter, Entry.lives, hlives]
  · intro h
    obtain ⟨e, he⟩ := Option.isSome_iff_exists.mp h
    obtain ⟨hget, hlives⟩ := Option.filter_eq_some_iff.mp he
    exact List.mem_map.mpr ⟨(key, e), List.mem_filter.mpr
      ⟨(Table.get?_eq_some_iff s.entries key e).mp hget, hlives⟩, rfl⟩

theorem nodup_liveKeys (s : Store) (now : Instant) : (s.liveKeys now).Nodup :=
  (List.filter_sublist.map Prod.fst).nodup s.entries.nodup

/-- The size is the number of keys that have a value. -/
theorem size_eq (s : Store) (now : Instant) : s.size now = (s.liveKeys now).toFinset.card := by
  rw [List.toFinset_card_of_nodup (nodup_liveKeys s now)]
  simp [size, liveKeys]

end Store

end KeyRelay
