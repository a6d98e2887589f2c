/-!
# Tables

A table holds at most one value for each key, in the order in which the keys first came. It is a
list of entries together with the fact that no key is listed twice, so counting entries is counting
keys.
-/

namespace KeyRelay

/-- Entries with distinct keys. -/
structure Table (K V : Type) where
  entries : List (K × V)
  nodup : (entries.map Prod.fst).Nodup

namespace Table

variable {K V : Type} [DecidableEq K]

def empty : Table K V := ⟨[], List.nodup_nil⟩

instance : Inhabited (Table K V) := ⟨empty⟩

def keys (t : Table K V) : List K := t.entries.map Prod.fst

def size (t : Table K V) : Nat := t.entries.length

/-- Looks a key up in a list of entries. -/
def find (key : K) : List (K × V) → Option V
  | [] => none
  | (k, v) :: rest => if k = key then some v else find key rest

def get? (t : Table K V) (key : K) : Option V := find key t.entries

/-- Gives a key a value: in its place if it has one, else at the end. -/
def put (key : K) (value : V) : List (K × V) → List (K × V)
  | [] => [(key, value)]
  | (k, v) :: rest => if k = key then (k, value) :: rest else (k, v) :: put key value rest

theorem map_fst_put (key : K) (value : V) (entries : List (K × V)) :
    (put key value entries).map Prod.fst =
      if key ∈ entries.map Prod.fst then entries.map Prod.fst
      else entries.map Prod.fst ++ [key] := by
  induction entries with
  | nil => simp [put]
  | cons e rest ih =>
    obtain ⟨k, v⟩ := e
    by_cases h : k = key
    · simp [put, h]
    · have h' : key ≠ k := fun e => h e.symm
      simp only [put, h, if_false, List.map_cons, ih, List.mem_cons, h', false_or]
      split <;> simp

def insert (t : Table K V) (key : K) (value : V) : Table K V where
  entries := put key value t.entries
  nodup := by
    rw [map_fst_put]
    split
    · exact t.nodup
    · rename_i h
      rw [List.nodup_append]
      refine ⟨t.nodup, by simp, ?_⟩
      intro a ha b hb
      simp only [List.mem_singleton] at hb
      rintro rfl
      exact h (hb ▸ ha)

def erase (t : Table K V) (key : K) : Table K V where
  entries := t.entries.filter (fun e => decide (e.1 ≠ key))
  nodup := (List.filter_sublist.map Prod.fst).nodup t.nodup

/-- The table of these entries; of two entries with one key the later counts. -/
def ofList (entries : List (K × V)) : Table K V :=
  entries.foldl (fun t e => t.insert e.1 e.2) empty

/-! ## Looking up -/

@[simp] theorem get?_empty (key : K) : (empty : Table K V).get? key = none := rfl

theorem find_put (key other : K) (value : V) (entries : List (K × V)) :
    find other (put key value entries) =
      if key = other then some value else find other entries := by
  induction entries with
  | nil => simp [put, find]
  | cons e rest ih => grind [put, find]

/-- An inserted key has its value, and the others keep theirs. -/
@[simp] theorem get?_insert (t : Table K V) (key other : K) (value : V) :
    (t.insert key value).get? other = if key = other then some value else t.get? other :=
  find_put key other value t.entries

theorem find_filter_ne (key other : K) (entries : List (K × V)) :
    find other (entries.filter (fun e => decide (e.1 ≠ key))) =
      if key = other then none else find other entries := by
  induction entries with
  | nil => simp [find]
  | cons e rest ih => grind [find]

/-- An erased key has no value, and the others keep theirs. -/
@[simp] theorem get?_erase (t : Table K V) (key other : K) :
    (t.erase key).get? other = if key = other then none else t.get? other :=
  find_filter_ne key other t.entries

end Table

end KeyRelay
