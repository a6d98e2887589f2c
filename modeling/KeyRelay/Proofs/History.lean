import KeyRelay.Proofs.StoreLive
import KeyRelay.Keys.Memory

/-!
# Histories of a backend

A history is a list of moves: a request to the backend, or the clock going on.
Making the moves of a history one after the other gives a record of what came of
each of them (`Episode`) and the state in which the next move would be made.

The record is all that a client could know, and a state is all that the backend
knows. What ties the two together for the backend in memory is `entry_make`: it
says for every kind of move what becomes of every key, and it says it in terms of
the record of that move. No proof about histories looks at an operation again.
-/

namespace KeyRelay

/-! ## Moves -/

/-- What a backend answers. -/
inductive Answer where
  | value (found : Option Bytes)
  /-- Whether a write or a delete went through. -/
  | applied (yes : Bool)
  /-- The digest of a key's value. -/
  | digest (found : Option String)
deriving DecidableEq, Repr

def KeyCommands.ask {m : Type → Type} [Monad m] (b : KeyCommands m) :
    Request → m (Except CommandError Answer)
  | .get key => do return (← b.get key).map .value
  | .set key value options => do return (← b.set key value options).map .applied
  | .delete key condition => do return (← b.delete key condition).map .applied
  | .digest key => do return (← b.digest key).map .digest

/-- A move in a history. -/
inductive Move where
  | ask (request : Request)
  | wait (d : Duration)
deriving DecidableEq, Repr

/-- What came of a move: an answer if it was a request. -/
abbrev Outcome := Option (Except CommandError Answer)

/-- A backend with its clock. -/
structure Timed (m : Type → Type) where
  commands : KeyCommands m
  advance : Duration → m Unit

def Timed.make {m : Type → Type} [Monad m] (b : Timed m) : Move → m Outcome
  | .ask request => do return some (← b.commands.ask request)
  | .wait d => do
    b.advance d
    return none

def Timed.run {m : Type → Type} [Monad m] (b : Timed m) : List Move → m (List Outcome)
  | [] => return []
  | move :: rest => do
    let outcome ← b.make move
    return outcome :: (← b.run rest)

namespace Memory

/-! ## Moves of the backend in memory -/

/-- The backend in memory with its clock. -/
def timed : Timed MemoryM := ⟨commands, advance⟩

/-- What an operation answers, or that it crashes. -/
def answer {A : Type} (m : Memory) (operation : MemoryM A) : Except ClockOverflow A :=
  (operation.run.run m).1

def make (m : Memory) (move : Move) : Except ClockOverflow Outcome × Memory :=
  (timed.make move).run.run m

/-- The entry of a key, unless its deadline has come. -/
def entry (m : Memory) (key : String) : Option Entry := m.store.entryAt m.now key

/-- The value of a key, unless its deadline has come. -/
def live? (m : Memory) (key : String) : Option Bytes := m.store.live? m.now key

theorem live?_eq (m : Memory) (key : String) : m.live? key = (m.entry key).map (·.value) :=
  m.store.live?_eq m.now key

theorem make_get (m : Memory) (key : String) :
    m.make (.ask (.get key)) =
      (.ok (some (.ok (.value (m.live? key)))), { m with store := m.store.evict m.now key }) := rfl

theorem make_digest (m : Memory) (key : String) :
    m.make (.ask (.digest key)) =
      (.ok (some (.ok (.digest ((m.live? key).map valueDigest)))),
        { m with store := m.store.evict m.now key }) := rfl

theorem make_delete (m : Memory) (key : String) (condition : Option Condition) :
    m.make (.ask (.delete key condition)) =
      (.ok (some (.ok (.applied (m.store.delete m.now key condition).1))),
        { m with store := (m.store.delete m.now key condition).2 }) := rfl

/-- One operation after another: a crash keeps the second from being made. -/
theorem run_bind {A B : Type} (m : Memory) (first : MemoryM A) (next : A → MemoryM B) :
    (first >>= next).run.run m =
      match first.run.run m with
      | (.ok a, after) => (next a).run.run after
      | (.error e, after) => (.error e, after) := by
  rw [ExceptT.run_bind, StateT.run_bind]
  rcases first.run.run m with ⟨e | a, after⟩ <;> rfl

theorem atPresent_run {A : Type} (m : Memory) (operation : Store → Instant → A × Store) :
    (atPresent operation).run.run m =
      (.ok (operation m.store m.now).1, { m with store := (operation m.store m.now).2 }) := rfl

theorem set_run (m : Memory) (key : String) (value : Bytes) (options : SetOptions) :
    (commands.set key value options).run.run m =
      if m.store.allows m.now key options.condition then
        if options.fits m.now then
          (.ok (.ok true),
            { m with store := ⟨m.store.entries.insert key ⟨value, options.deadline m.now⟩⟩ })
        else (.error ⟨⟩, m)
      else (.ok (.ok false), m) := by
  unfold commands
  dsimp only
  rw [run_bind, atPresent_run, Store.set_eq]
  by_cases ha : m.store.allows m.now key options.condition = true
  · rw [if_pos ha, if_pos ha]
    by_cases hf : options.fits m.now = true
    · rw [if_pos hf, if_pos hf]; rfl
    · rw [if_neg hf, if_neg hf]; rfl
  · rw [if_neg ha, if_neg ha]; rfl

theorem make_set (m : Memory) (key : String) (value : Bytes) (options : SetOptions) :
    m.make (.ask (.set key value options)) =
      if m.store.allows m.now key options.condition then
        if options.fits m.now then
          (.ok (some (.ok (.applied true))),
            { m with store := ⟨m.store.entries.insert key ⟨value, options.deadline m.now⟩⟩ })
        else (.error ⟨⟩, m)
      else (.ok (some (.ok (.applied false))), m) := by
  unfold make timed Timed.make KeyCommands.ask
  dsimp only
  rw [run_bind, run_bind, set_run]
  by_cases ha : m.store.allows m.now key options.condition = true
  · rw [if_pos ha, if_pos ha]
    by_cases hf : options.fits m.now = true
    · rw [if_pos hf, if_pos hf]; rfl
    · rw [if_neg hf, if_neg hf]
  · rw [if_neg ha, if_neg ha]; rfl

theorem make_wait (m : Memory) (d : Duration) :
    m.make (.wait d) =
      if m.now + d.nanoseconds < Instant.limit then
        (.ok none, { m with now := m.now + d.nanoseconds })
      else (.error ⟨⟩, m) := by
  have hget : (get : MemoryM Memory).run.run m = (.ok m, m) := rfl
  unfold make timed Timed.make advance Instant.after?
  dsimp only
  rw [run_bind, run_bind, hget]
  dsimp only
  by_cases h : m.now + d.nanoseconds < Instant.limit
  · rw [if_pos h, if_pos h]; rfl
  · rw [if_neg h, if_neg h]; rfl

/-- A history goes on where its first move leaves off, unless that move crashed. -/
theorem answer_run_cons (m : Memory) (move : Move) (rest : List Move) :
    m.answer (timed.run (move :: rest)) =
      match m.make move with
      | (.ok outcome, after) => (after.answer (timed.run rest)).map (outcome :: ·)
      | (.error e, _) => .error e := by
  have hmake : (timed.make move).run.run m = m.make move := rfl
  rw [answer, Timed.run, run_bind, hmake]
  rcases m.make move with ⟨e | outcome, after⟩
  · rfl
  · dsimp only
    rw [run_bind, answer]
    rcases (timed.run rest).run.run after with ⟨e | outcomes, last⟩ <;> rfl

end Memory

/-! ## What came of a move -/

/-- A move that was made. -/
structure Episode where
  time : Instant
  move : Move
  outcome : Except ClockOverflow Outcome
deriving DecidableEq, Repr

namespace Episode

/-- Whether it is a write or a delete of this key that went through. -/
def changes (e : Episode) (key : String) : Bool :=
  match e.move, e.outcome with
  | .ask (.set other _ _), .ok (some (.ok (.applied true))) => other == key
  | .ask (.delete other _), .ok (some (.ok (.applied true))) => other == key
  | _, _ => false

/-- What a write or a delete leaves of its key: after a delete, nothing. -/
def leaves? (e : Episode) : Option Entry :=
  match e.move with
  | .ask (.set _ value options) => some ⟨value, options.deadline e.time⟩
  | _ => none

end Episode

def Memory.episode (m : Memory) (move : Move) : Episode := ⟨m.now, move, (m.make move).1⟩

theorem Memory.entry_filter (m : Memory) (key : String) :
    (m.entry key).filter (Entry.lives m.now) = m.entry key := m.store.entryAt_filter m.now key

/-- A request takes no time. -/
theorem Memory.now_make_ask (m : Memory) (request : Request) :
    (m.make (.ask request)).2.now = m.now := by
  cases request with
  | get key => rfl
  | digest key => rfl
  | delete key condition => rfl
  | set key value options =>
      rw [make_set]
      split
      · split <;> rfl
      · rfl

theorem Memory.now_le_make (m : Memory) (move : Move) : m.now ≤ (m.make move).2.now := by
  cases move with
  | ask request =>
      rw [now_make_ask]
  | wait d =>
      rw [make_wait]
      split
      · exact Nat.le_add_right _ _
      · exact Nat.le_refl _

/-- A delete changes its key if it goes through. -/
theorem Memory.changes_delete (m : Memory) (key other : String) (condition : Option Condition) :
    (m.episode (.ask (.delete key condition))).changes other =
      ((m.store.delete m.now key condition).1 && key == other) := by
  unfold episode Episode.changes
  rw [make_delete]
  cases (m.store.delete m.now key condition).1 <;> rfl

/-- A write changes its key if it is allowed and does not crash. -/
theorem Memory.changes_set (m : Memory) (key other : String) (value : Bytes)
    (options : SetOptions) :
    (m.episode (.ask (.set key value options))).changes other =
      (m.store.allows m.now key options.condition && options.fits m.now && key == other) := by
  unfold episode Episode.changes
  rw [make_set]
  cases m.store.allows m.now key options.condition with
  | false => rfl
  | true => cases options.fits m.now <;> rfl

/--
**What a move does to a key.** A write or a delete of the key that went through leaves what it
says; every other move leaves the key as it was. And whatever is left counts for as long as its
deadline has not come.
-/
theorem Memory.entry_make (m : Memory) (move : Move) (key : String) :
    (m.make move).2.entry key =
      (if (m.episode move).changes key then (m.episode move).leaves? else m.entry key).filter
        (Entry.lives (m.make move).2.now) := by
  -- every request drops what has expired, and what else it does to the key is its change
  cases move with
  | ask request =>
      cases request with
      | get other =>
          rw [make_get]
          exact (Store.entryAt_evict _ _ _ _).trans (m.entry_filter key).symm
      | digest other =>
          rw [make_digest]
          exact (Store.entryAt_evict _ _ _ _).trans (m.entry_filter key).symm
      | delete other condition =>
          rw [changes_delete, make_delete]
          refine (Store.entryAt_delete _ _ _ _ _).trans ?_
          by_cases h : (m.store.delete m.now other condition).1 = true ∧ other = key
          · obtain ⟨hd, rfl⟩ := h
            rw [if_pos ⟨hd, rfl⟩, if_pos (by simp [hd])]; rfl
          · rw [if_neg h, if_neg (by simpa using h)]; exact (m.entry_filter key).symm
      | set other value options =>
          rw [changes_set, make_set]
          by_cases ha : m.store.allows m.now other options.condition = true
          · rw [if_pos ha]
            by_cases hf : options.fits m.now = true
            · rw [if_pos hf]
              refine (Store.entryAt_insert _ _ _ _ _).trans ?_
              by_cases hk : other = key
              · subst hk
                rw [if_pos rfl, if_pos (by simp [ha, hf])]; rfl
              · rw [if_neg hk, if_neg (by simp [hk])]; exact (m.entry_filter key).symm
            · rw [if_neg hf, if_neg (by simp [hf])]; exact (m.entry_filter key).symm
          · rw [if_neg ha, if_neg (by simp [ha])]; exact (m.entry_filter key).symm
  | wait d =>
      have h : (m.episode (.wait d)).changes key = false := rfl
      rw [h, make_wait]
      split
      · exact m.store.entryAt_later (Nat.le_add_right _ _) key
      · exact (m.entry_filter key).symm

/-! ## Histories -/

/-- Where a history stands. -/
structure Trace where
  /-- What came of its moves, the latest first. -/
  episodes : List Episode
  memory : Memory

namespace Trace

/-- The beginning: nothing was done and nothing is stored. -/
def start : Trace := ⟨[], {}⟩

def extend (t : Trace) (move : Move) : Trace :=
  ⟨t.memory.episode move :: t.episodes, (t.memory.make move).2⟩

def of (moves : List Move) : Trace := moves.foldl extend start

/-- The latest write or delete of a key that went through. -/
def lastChange? (t : Trace) (key : String) : Option Episode :=
  t.episodes.find? (·.changes key)

theorem lastChange?_extend (t : Trace) (move : Move) (key : String) :
    (t.extend move).lastChange? key =
      if (t.memory.episode move).changes key then some (t.memory.episode move)
      else t.lastChange? key := by
  unfold lastChange? extend
  rw [List.find?_cons]
  cases (t.memory.episode move).changes key <;> rfl

/-- What the store holds is what the latest change of each key left, as far as it still counts. -/
def Faithful (t : Trace) : Prop :=
  ∀ key, t.memory.entry key =
    ((t.lastChange? key).bind Episode.leaves?).filter (Entry.lives t.memory.now)

theorem faithful_start : start.Faithful := by intro key; rfl

/-- **Every move keeps the store faithful to the record.** -/
theorem faithful_extend {t : Trace} (h : t.Faithful) (move : Move) : (t.extend move).Faithful := by
  intro key
  rw [lastChange?_extend]
  refine (t.memory.entry_make move key).trans ?_
  by_cases hc : (t.memory.episode move).changes key = true
  · rw [if_pos hc, if_pos hc]; rfl
  · rw [if_neg hc, if_neg hc, h key]
    exact filter_later (t.memory.now_le_make move) _

theorem faithful_of (moves : List Move) : (of moves).Faithful := by
  unfold of
  have key : ∀ t : Trace, t.Faithful → (moves.foldl extend t).Faithful := by
    induction moves with
    | nil => intro t h; exact h
    | cons move rest ih => intro t h; exact ih (t.extend move) (faithful_extend h move)
  exact key start faithful_start

end Trace

end KeyRelay
