import KeyRelay.Proofs.LaterMoves

/-!
# A write that crashes leaves no trace

A deadline that the clock cannot show makes a write crash, and it does so after the
condition of the write was checked. So one and the same expiration is harmless where
the condition does not hold, and crashes where it does, be the key live, expired or
missing.

What is left after a crash is what was there before it, also the entries that do not
count any more (`Memory.make_of_crash`). What comes of later moves depends on the memory alone. So a
history goes on from a crash as if it had not been tried (`Trace.of_append_crash`).
-/

namespace KeyRelay

/-! ## When a write crashes -/

/-- A deadline that the clock cannot show comes from an expiration. -/
theorem SetOptions.not_fits_iff {options : SetOptions} {now : Instant} :
    options.fits now = false ↔
      ∃ d, options.expiration = some d ∧ Instant.limit ≤ now + d.nanoseconds := by
  unfold fits deadline
  cases options.expiration with
  | none => simp
  | some d => simp

namespace Memory

/-- A write crashes exactly if it is allowed and its deadline does not fit the clock. -/
theorem answer_set_crash_iff (m : Memory) (key : String) (value : Bytes) (options : SetOptions) :
    m.answer (commands.set key value options) = .error ⟨⟩ ↔
      Writable (m.live? key) options.condition ∧ options.fits m.now = false := by
  obtain ⟨written, hanswer, hwritten⟩ := m.answer_set key value options
  rw [hanswer, ← hwritten]
  by_cases hcrash : written = true ∧ options.fits m.now = false
  · rw [if_pos hcrash]
    exact ⟨fun _ => hcrash, fun _ => rfl⟩
  · rw [if_neg hcrash]
    exact ⟨nofun, fun h => absurd h hcrash⟩

/-- A write that is not allowed is answered, whatever its expiration. -/
theorem answer_set_of_not_writable {m : Memory} {key : String} {options : SetOptions}
    (h : ¬ Writable (m.live? key) options.condition) (value : Bytes) :
    m.answer (commands.set key value options) = .ok (.ok false) := by
  obtain ⟨written, hanswer, hwritten⟩ := m.answer_set key value options
  obtain rfl : written = false := by
    cases written with
    | false => rfl
    | true => exact absurd (hwritten.mp rfl) h
  rw [hanswer, if_neg (by simp)]

/-! ## What a crash leaves -/

/-- **A move that crashes changes nothing**, whichever it is. -/
theorem make_of_crash {m : Memory} {move : Move} {crash : ClockOverflow}
    (h : (m.make move).1 = .error crash) : m.make move = (.error ⟨⟩, m) := by
  cases move with
  | ask request =>
      cases request with
      | get key => exact absurd h nofun
      | digest key => exact absurd h nofun
      | delete key condition => exact absurd h nofun
      | set key value options =>
          rw [make_set] at h ⊢
          by_cases hallows : m.store.allows m.now key options.condition = true
          · rw [if_pos hallows] at h ⊢
            by_cases hfits : options.fits m.now = true
            · rw [if_pos hfits] at h
              exact absurd h nofun
            · rw [if_neg hfits]
          · rw [if_neg hallows] at h
            exact absurd h nofun
  | wait d =>
      rw [make_wait] at h ⊢
      by_cases hfits : m.now + d.nanoseconds < Instant.limit
      · rw [if_pos hfits] at h
        exact absurd h nofun
      · rw [if_neg hfits]

/-- A write as a move is the call itself, with its answer put on record. -/
theorem make_set_eq (m : Memory) (key : String) (value : Bytes) (options : SetOptions) :
    m.make (.ask (.set key value options)) =
      ((m.answer (commands.set key value options)).map fun answer => some (answer.map .applied),
        m.after (commands.set key value options)) := by
  unfold answer after
  rw [make_set, set_run]
  split
  · split <;> rfl
  · rfl

end Memory

/-! ## How a history goes on from a crash -/

namespace Trace

/-- A history goes on from a crash as if it had not been tried. -/
theorem of_append_crash {earlier : List Move} {move : Move} {crash : ClockOverflow}
    (h : ((of earlier).memory.make move).1 = .error crash) (later : List Move) :
    of (earlier ++ move :: later) =
      ⟨since (of earlier).memory later ++
          ⟨(of earlier).memory.now, move, .error ⟨⟩⟩ :: (of earlier).episodes,
        (of earlier).memory.afterMoves later⟩ := by
  have hmake := Memory.make_of_crash h
  have hextend : (of earlier).extend move =
      ⟨⟨(of earlier).memory.now, move, .error ⟨⟩⟩ :: (of earlier).episodes,
        (of earlier).memory⟩ := by
    unfold extend Memory.episode
    rw [hmake]
  rw [of, List.foldl_append, ← of]
  show later.foldl extend ((of earlier).extend move) = _
  rw [hextend, foldl_extend]

end Trace

/--
**A write crashes if it may go through and its deadline does not fit the clock, and then it was
never made.** Take any history, and any write after it.

* It crashes exactly if the value that the history left, or that there is none, allows it, and the
  time that it is to live ends later than the clock can show.
* If it is not allowed, it is answered so and does not crash, whatever its expiration.
* After a crash the memory is what it was: every entry with its value and its deadline, and the
  clock. And however the history goes on, every later move comes to what it comes to without the
  write, and leaves the same memory.
-/
theorem crashed_write_leaves_no_trace (moves : List Move) (key : String) (value : Bytes)
    (options : SetOptions) :
    let t := Trace.of moves
    let write := Move.ask (.set key value options)
    let call := Memory.commands.set key value options
    (t.memory.answer call = .error ⟨⟩ ↔
      Writable (t.value? key) options.condition ∧
        ∃ d, options.expiration = some d ∧ Instant.limit ≤ t.memory.now + d.nanoseconds) ∧
    (¬ Writable (t.value? key) options.condition → t.memory.answer call = .ok (.ok false)) ∧
    (t.memory.answer call = .error ⟨⟩ →
      t.memory.after call = t.memory ∧
      ∀ later, ∃ episodes memory,
        Trace.of (moves ++ later) = ⟨episodes ++ t.episodes, memory⟩ ∧
        Trace.of (moves ++ write :: later) =
          ⟨episodes ++ ⟨t.memory.now, write, .error ⟨⟩⟩ :: t.episodes, memory⟩) := by
  intro t write call
  have hlive : t.memory.live? key = t.value? key := Trace.live?_eq (Trace.faithful_of moves) key
  refine ⟨?_, fun hrefused => ?_, fun hcrash => ?_⟩
  · rw [← hlive, ← SetOptions.not_fits_iff]
    exact t.memory.answer_set_crash_iff key value options
  · rw [← hlive] at hrefused
    exact Memory.answer_set_of_not_writable hrefused value
  · have hmake := t.memory.make_set_eq key value options
    rw [hcrash] at hmake
    have hfailed : (t.memory.make write).1 = .error ⟨⟩ := congrArg Prod.fst hmake
    have hsame : t.memory.make write = (.error ⟨⟩, t.memory) := Memory.make_of_crash hfailed
    refine ⟨congrArg Prod.snd (hmake.symm.trans hsame), fun later => ?_⟩
    exact ⟨_, _, Trace.of_append moves later, Trace.of_append_crash hfailed later⟩

/-- The lifetime that crashes a write of the value that was read does nothing to a write that asks
for another value. The crash leaves the key with its old value, up to its old deadline. -/
theorem crashed_write_leaves_no_trace_guarded :
    let moves : List Move := [.ask (.set "k" [1] { expiration := some ⟨5⟩ }), .wait ⟨3⟩]
    let t := Trace.of moves
    let crashing : SetOptions :=
      { condition := some (.ifEquals [1]), expiration := some ⟨Instant.limit⟩ }
    let refused : SetOptions :=
      { condition := some (.ifNotEquals [1]), expiration := some ⟨Instant.limit⟩ }
    t.memory.answer (Memory.commands.set "k" [2] crashing) = .error ⟨⟩ ∧
      ¬ Writable (t.value? "k") refused.condition ∧
      t.memory.answer (Memory.commands.set "k" [2] refused) = .ok (.ok false) ∧
      t.memory.after (Memory.commands.set "k" [2] crashing) = t.memory ∧
      t.memory.entry "k" = some ⟨[1], some 5⟩ := by
  intro moves t crashing refused
  obtain ⟨hcrash, -, hleaves⟩ := crashed_write_leaves_no_trace moves "k" [2] crashing
  obtain ⟨-, hrefused, -⟩ := crashed_write_leaves_no_trace moves "k" [2] refused
  have hvalue : t.value? "k" = some [1] := by rfl
  have hwritable : Writable (t.value? "k") crashing.condition :=
    .inr (.inl ⟨_, [1], rfl, hvalue, by rfl⟩)
  have hbarred : ¬ Writable (t.value? "k") refused.condition := by
    rw [hvalue]
    simp [Writable, refused, Condition.holds, Condition.ifNotEquals, Operator.apply]
  have hcrashed := hcrash.mpr ⟨hwritable, ⟨Instant.limit⟩, rfl, Nat.le_add_left _ _⟩
  exact ⟨hcrashed, hbarred, hrefused hbarred, (hleaves hcrashed).1, by rfl⟩

end KeyRelay
