import KeyRelay.Text.Described
/-!
# A cache that forgets what was not used for longest

A cache holds at most as many entries as its capacity. Asking for a key that it does not hold makes
an entry with a factory; when there is no room, the entry that was not asked for longest goes. The
entries are kept in the order of their last use, the latest first, so the order is all the state
there is.
-/

namespace KeyRelay

/-- A cache by text keys. -/
structure LruCache (V : Type) where
  /-- How many entries there is room for. -/
  capacity : Nat
  /-- The entries, those used latest first. -/
  entries : List (String × V)
  /-- There is room for one at least. -/
  capacity_pos : 0 < capacity

/-- What a cache answers. -/
inductive Lookup (V : Type) where
  | held (v : V)
  | made (v : V)
deriving DecidableEq, Repr

def Lookup.value {V : Type} : Lookup V → V
  | .held v => v
  | .made v => v

namespace LruCache

variable {V : Type}

/-- The capacity of a cache for which none is given. -/
def defaultCapacity : Nat := 32

/-- An empty cache. A capacity of zero counts as one. -/
def ofCapacity (capacity : Nat) : LruCache V := ⟨max capacity 1, [], by omega⟩

def find? (c : LruCache V) (key : String) : Option V := c.entries.lookup key

/-- Whether a key has an entry. To ask this is not to use the entry. -/
def contains (c : LruCache V) (key : String) : Bool := (c.find? key).isSome

def size (c : LruCache V) : Nat := c.entries.length

def isEmpty (c : LruCache V) : Bool := c.entries.isEmpty

/-- Puts an entry first, in place of the one its key had. -/
def promote (c : LruCache V) (key : String) (v : V) : LruCache V :=
  { c with entries := (key, v) :: c.entries.filter (·.1 != key) }

/-- Puts a new entry first, and lets the last one go if there is no room. -/
def push (c : LruCache V) (key : String) (v : V) : LruCache V :=
  { c with entries := (key, v) :: c.entries.take (c.capacity - 1) }

/-- **A hit goes to the front.** The others keep their order, and none goes. -/
theorem entries_promote {c : LruCache V} {key : String} {v : V} {before after : List (String × V)}
    (h : c.entries = before ++ (key, v) :: after) (hothers : ∀ e ∈ before ++ after, e.1 ≠ key) :
    (c.promote key v).entries = (key, v) :: (before ++ after) := by
  have hkept : (before ++ after).filter (·.1 != key) = before ++ after :=
    List.filter_eq_self.mpr fun e he => bne_iff_ne.mpr (hothers e he)
  rw [List.filter_append] at hkept
  rw [promote, h, List.filter_append, List.filter_cons_of_neg (by simp), hkept]

/-- **A new entry comes to the front**, and if there is room, all the others stay. -/
theorem entries_push_of_room {c : LruCache V} (h : c.size < c.capacity) (key : String) (v : V) :
    (c.push key v).entries = (key, v) :: c.entries := by
  rw [push, List.take_of_length_le (Nat.le_sub_one_of_lt h)]

/-- **A new entry comes to the front of a full cache in place of the last one**, which was not asked
for longest. -/
theorem entries_push_of_full {c : LruCache V} {others : List (String × V)} {last : String × V}
    (h : c.entries = others ++ [last]) (hfull : c.size = c.capacity) (key : String) (v : V) :
    (c.push key v).entries = (key, v) :: others := by
  have hothers : c.capacity - 1 = others.length := by
    rw [← hfull, size, h, List.length_append, List.length_singleton, Nat.add_sub_cancel]
  rw [push, h, hothers, List.take_left]

/-- The entry of a key, made by the factory if there is none. -/
def get {m : Type → Type} [Monad m] (factory : String → m V) (c : LruCache V) (key : String) :
    m (Lookup V × LruCache V) :=
  match c.find? key with
  | some v => pure (.held v, c.promote key v)
  | none => do
    let v ← factory key
    return (.made v, c.push key v)

def inspect (c : LruCache V) : String :=
  Described.partialRecord "LruCache"
    [("len", toString c.size), ("capacity", toString c.capacity)]

end LruCache

end KeyRelay
