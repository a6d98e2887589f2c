import KeyRelay.Proofs.StoredValue

/-!
# What comes of later moves

A history can be cut anywhere. What comes of the moves after the cut depends on the
memory at the cut and on nothing else (`Trace.foldl_extend`), so it can be told for
any memory, reached in whatever way.

A key has the same entry after the later moves as at the cut, if none of them changed it
and its deadline has not come (`Memory.entry_afterMoves_of_unchanged`). And two memories that
show the same under the keys that are named cannot be told apart by later moves
(`Memory.SameOn.since`).
-/

namespace KeyRelay

/-! ## The record of later moves -/

namespace Trace

/-- What comes of moves that are made from a memory on, the latest first. -/
def since (m : Memory) (moves : List Move) : List Episode := (moves.foldl extend ⟨[], m⟩).episodes

/-- **What comes of later moves depends on the memory alone.** The record only grows. -/
theorem foldl_extend (t : Trace) (moves : List Move) :
    moves.foldl extend t = ⟨since t.memory moves ++ t.episodes, t.memory.afterMoves moves⟩ := by
  induction moves generalizing t with
  | nil => rfl
  | cons move rest ih =>
      have hsince : since t.memory (move :: rest) =
          since (t.memory.make move).2 rest ++ [t.memory.episode move] := by
        show (rest.foldl extend ⟨[t.memory.episode move], (t.memory.make move).2⟩).episodes = _
        rw [ih]
      show rest.foldl extend (t.extend move) = _
      rw [ih, hsince, List.append_assoc]
      rfl

theorem since_cons (m : Memory) (move : Move) (rest : List Move) :
    since m (move :: rest) = since (m.make move).2 rest ++ [m.episode move] := by
  show (rest.foldl extend ⟨[m.episode move], (m.make move).2⟩).episodes = _
  rw [foldl_extend]

theorem of_append (earlier later : List Move) :
    of (earlier ++ later) =
      ⟨since (of earlier).memory later ++ (of earlier).episodes,
        (of earlier).memory.afterMoves later⟩ := by
  unfold of
  rw [List.foldl_append, foldl_extend]

end Trace

/-! ## The entry of a key -/

namespace Memory

theorem now_le_afterMoves (m : Memory) (moves : List Move) : m.now ≤ (m.afterMoves moves).now := by
  induction moves generalizing m with
  | nil => exact Nat.le_refl _
  | cons move rest ih => exact Nat.le_trans (m.now_le_make move) (ih (m.make move).2)

/-- An entry that nobody changes stays, until its deadline has come. -/
theorem entry_afterMoves_of_unchanged (m : Memory) {moves : List Move} {key : String}
    (h : ∀ e ∈ Trace.since m moves, e.changes key = false) :
    (m.afterMoves moves).entry key =
      (m.entry key).filter (Entry.lives (m.afterMoves moves).now) := by
  induction moves generalizing m with
  | nil => exact (m.entry_filter key).symm
  | cons move rest ih =>
      rw [Trace.since_cons] at h
      have hmove : (m.episode move).changes key = false :=
        h _ (List.mem_append_right _ (List.mem_singleton_self _))
      have hfirst : (m.make move).2.entry key =
          (m.entry key).filter (Entry.lives (m.make move).2.now) := by
        rw [m.entry_make move key, hmove]
        rfl
      have hlater := ih (m.make move).2 fun e he => h e (List.mem_append_left _ he)
      rw [hfirst, filter_later (now_le_afterMoves _ rest)] at hlater
      exact hlater

/-- Moves that leave a key alone do not change it. -/
theorem unchanged_of_spares (m : Memory) {moves : List Move} {key : String}
    (hspare : ∀ move ∈ moves, move.Spares key) :
    ∀ e ∈ Trace.since m moves, e.changes key = false := by
  induction moves generalizing m with
  | nil => exact fun e he => absurd he List.not_mem_nil
  | cons move rest ih =>
      intro e he
      rw [Trace.since_cons] at he
      rcases List.mem_append.mp he with he | he
      · exact ih _ (fun other hother => hspare other (List.mem_cons_of_mem _ hother)) e he
      · rw [List.mem_singleton.mp he]
        exact m.changes_of_spares (hspare move List.mem_cons_self)

/-- An entry that is left alone stays, until its deadline has come. -/
theorem entry_afterMoves (m : Memory) {moves : List Move} {key : String}
    (hspare : ∀ move ∈ moves, move.Spares key) :
    (m.afterMoves moves).entry key =
      (m.entry key).filter (Entry.lives (m.afterMoves moves).now) :=
  m.entry_afterMoves_of_unchanged (m.unchanged_of_spares hspare)

end Memory

/-! ## Memories that cannot be told apart -/

/-- The two show the same under the keys of a kind, and their clocks say the same. -/
structure Memory.SameOn (kind : String → Prop) (m m' : Memory) : Prop where
  now : m'.now = m.now
  entry : ∀ key, kind key → m'.entry key = m.entry key

namespace Memory.SameOn

variable {kind : String → Prop} {m m' : Memory}

theorem live? (h : m.SameOn kind m') {key : String} (hkey : kind key) :
    m'.store.live? m'.now key = m.store.live? m.now key := by
  rw [Store.live?_eq, Store.live?_eq]
  exact congrArg _ (h.entry key hkey)

/-- What a move comes to depends on the keys that it names. -/
theorem outcome (h : m.SameOn kind m') {move : Move}
    (hspare : ∀ key, ¬ kind key → move.Spares key) :
    (m'.make move).1 = (m.make move).1 := by
  cases move with
  | wait d =>
      rw [make_wait, make_wait, h.now]
      split <;> rfl
  | ask request =>
      -- a request names one key, which is of the kind since it is not spared
      cases request with
      | get key =>
          have hkey : kind key := by_contra fun hother => hspare key hother rfl
          rw [make_get, make_get, Memory.live?, Memory.live?, h.live? hkey]
      | digest key =>
          have hkey : kind key := by_contra fun hother => hspare key hother rfl
          rw [make_digest, make_digest, Memory.live?, Memory.live?, h.live? hkey]
      | delete key condition =>
          have hkey : kind key := by_contra fun hother => hspare key hother rfl
          have hdeleted : (m'.store.delete m'.now key condition).1 =
              (m.store.delete m.now key condition).1 := by
            rw [Bool.eq_iff_iff, Store.delete_fst, Store.delete_fst, h.live? hkey]
          rw [make_delete, make_delete, hdeleted]
      | set key value options =>
          have hkey : kind key := by_contra fun hother => hspare key hother rfl
          have hallowed : m'.store.allows m'.now key options.condition =
              m.store.allows m.now key options.condition := by
            rw [Bool.eq_iff_iff, Store.allows_iff, Store.allows_iff, h.live? hkey]
          rw [make_set, make_set, hallowed, h.now]
          split
          · split <;> rfl
          · rfl

theorem episode (h : m.SameOn kind m') {move : Move}
    (hspare : ∀ key, ¬ kind key → move.Spares key) :
    m'.episode move = m.episode move := by
  rw [Memory.episode, Memory.episode, h.now, h.outcome hspare]

theorem now_make (h : m.SameOn kind m') (move : Move) :
    (m'.make move).2.now = (m.make move).2.now := by
  cases move with
  | wait d =>
      rw [make_wait, make_wait, h.now]
      split
      · rfl
      · exact h.now
  | ask request => rw [now_make_ask, now_make_ask, h.now]

theorem make (h : m.SameOn kind m') {move : Move}
    (hspare : ∀ key, ¬ kind key → move.Spares key) :
    (m.make move).2.SameOn kind (m'.make move).2 where
  now := h.now_make move
  entry key hkey := by
    rw [entry_make, entry_make, h.episode hspare, h.now_make move, h.entry key hkey]

/-- **Nothing tells them apart** but what names a key of another kind. -/
theorem since (h : m.SameOn kind m') {moves : List Move}
    (hspare : ∀ move ∈ moves, ∀ key, ¬ kind key → move.Spares key) :
    Trace.since m' moves = Trace.since m moves := by
  -- both memories move on, and what they show under these keys stays the same
  induction moves generalizing m m' with
  | nil => rfl
  | cons move rest ih =>
      have hmove := hspare move List.mem_cons_self
      rw [Trace.since_cons, Trace.since_cons, h.episode hmove,
        ih (h.make hmove) fun other hother => hspare other (List.mem_cons_of_mem _ hother)]

end Memory.SameOn

end KeyRelay
