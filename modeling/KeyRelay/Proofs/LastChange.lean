import KeyRelay.Proofs.History

/-!
# Every answer follows from the latest change

A client that keeps a record of what it did can work out every answer of the
backend in memory from two things: the latest write or delete of the key that
went through, and what the clock says. Nothing else has a say. Not the moves that
did not go through, not the questions that were asked, not the other keys, and
not whether an entry whose deadline has come is still in the table.
-/

namespace KeyRelay

/-- The value that a change leaves, for as long as it is there: a write leaves its value until its
deadline, a delete leaves none. -/
def Episode.value? (e : Episode) (now : Instant) : Option Bytes :=
  match e.move with
  | .ask (.set _ value options) =>
    match options.expiration with
    | none => some value
    | some d => if now < e.time + d.nanoseconds then some value else none
  | _ => none

theorem Episode.value?_eq (e : Episode) (now : Instant) :
    e.value? now = (e.leaves?.filter (Entry.lives now)).map (·.value) := by
  obtain ⟨time, move, outcome⟩ := e
  unfold value? leaves? SetOptions.deadline
  cases move with
  | wait d => rfl
  | ask request =>
      cases request with
      | get key => rfl
      | digest key => rfl
      | delete key condition => rfl
      | set key value options =>
          dsimp only
          cases options.expiration with
          | none => rfl
          | some d =>
              rw [Option.map_some, filter_lives_some]
              dsimp only
              split <;> rfl

namespace Trace

/-- The value of a key, as far as the record tells. -/
def value? (t : Trace) (key : String) : Option Bytes :=
  (t.lastChange? key).bind (·.value? t.memory.now)

theorem live?_eq {t : Trace} (h : t.Faithful) (key : String) :
    t.memory.live? key = t.value? key := by
  rw [Memory.live?_eq, h key]
  unfold value?
  cases t.lastChange? key with
  | none => rfl
  | some e => exact (e.value?_eq _).symm

end Trace

/-! ## The answers of the backend in memory -/

namespace Memory

theorem answer_delete (m : Memory) (key : String) (condition : Option Condition) :
    ∃ deleted, m.answer (commands.delete key condition) = .ok (.ok deleted) ∧
      (deleted = true ↔ Deletable (m.live? key) condition) :=
  ⟨_, rfl, m.store.delete_fst m.now key condition⟩

theorem answer_set (m : Memory) (key : String) (value : Bytes) (options : SetOptions) :
    ∃ written, m.answer (commands.set key value options) =
        (if written = true ∧ options.fits m.now = false then .error ⟨⟩ else .ok (.ok written)) ∧
      (written = true ↔ Writable (m.live? key) options.condition) := by
  refine ⟨_, ?_, m.store.allows_iff m.now key options.condition⟩
  unfold answer
  rw [set_run]
  by_cases ha : m.store.allows m.now key options.condition = true
  · by_cases hf : options.fits m.now = true
    · simp [ha, hf]
    · simp [ha, hf]
  · simp [ha]

theorem size_eq (m : Memory) :
    ∃ keys : Finset String, (∀ key, key ∈ keys ↔ (m.live? key).isSome = true) ∧
      m.store.size m.now = keys.card := by
  refine ⟨(m.store.liveKeys m.now).toFinset, ?_, m.store.size_eq m.now⟩
  intro key
  rw [List.mem_toFinset]
  exact m.store.mem_liveKeys m.now key

end Memory

/--
**The record answers for the backend.** After any history, every request about a key is answered by
the value that the latest change of that key left. A write that may go through, but whose deadline
the clock cannot show, crashes; no other request does.
-/
theorem answers_follow_latest_change (moves : List Move) :
    let t := Trace.of moves
    (∀ key,
      t.memory.answer (Memory.commands.get key) = .ok (.ok (t.value? key)) ∧
      t.memory.answer (Memory.commands.digest key) = .ok (.ok ((t.value? key).map valueDigest)) ∧
      (∀ condition, ∃ deleted,
        t.memory.answer (Memory.commands.delete key condition) = .ok (.ok deleted) ∧
        (deleted = true ↔ Deletable (t.value? key) condition)) ∧
      (∀ value options, ∃ written,
        t.memory.answer (Memory.commands.set key value options) =
          (if written = true ∧ options.fits t.memory.now = false then .error ⟨⟩
            else .ok (.ok written)) ∧
        (written = true ↔ Writable (t.value? key) options.condition))) ∧
    ∃ keys : Finset String, (∀ key, key ∈ keys ↔ (t.value? key).isSome = true) ∧
      t.memory.store.size t.memory.now = keys.card ∧
      (t.memory.store.isEmpty t.memory.now = true ↔ keys.card = 0) := by
  intro t
  have h : t.Faithful := Trace.faithful_of moves
  refine ⟨?_, ?_⟩
  · intro key
    rw [← Trace.live?_eq h key]
    exact ⟨rfl, rfl, t.memory.answer_delete key, t.memory.answer_set key⟩
  · obtain ⟨keys, hkeys, hsize⟩ := t.memory.size_eq
    refine ⟨keys, ?_, hsize, ?_⟩
    · intro key; rw [← Trace.live?_eq h key]; exact hkeys key
    · rw [Store.isEmpty, hsize]; exact beq_iff_eq

end KeyRelay
