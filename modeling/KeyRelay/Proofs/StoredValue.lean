import KeyRelay.Keys.Operations
import KeyRelay.Proofs.LastChange

/-!
# A stored value decides the conditions on its key

A value that was written for good stays where it is until its key is written or
deleted again: other keys and the clock have no hold on it (`Keeps.make`). For as
long as it is there, every conditional call on the key is decided by its bytes.

The bytes are those that the serializer made of the value. A condition on another
value is decided by what the same serializer makes of that one. So what is compared
is bytes, whether or not the serializer ever writes two values alike; and a digest
that was asked for holds of the value it was made from.
-/

namespace KeyRelay

/-! ## Operations on a memory -/

namespace Memory

/-- What an operation leaves behind, also if it crashes. -/
def after {A : Type} (m : Memory) (operation : MemoryM A) : Memory := (operation.run.run m).2

def afterMoves (m : Memory) (moves : List Move) : Memory :=
  moves.foldl (fun m move => (m.make move).2) m

/-- These bytes are stored under a key, without a deadline. -/
def Keeps (m : Memory) (key : String) (bytes : Bytes) : Prop := m.entry key = some ⟨bytes, none⟩

theorem Keeps.live? {m : Memory} {key : String} {bytes : Bytes} (h : m.Keeps key bytes) :
    m.live? key = some bytes := by
  rw [Memory.live?_eq, h]
  rfl

end Memory

/-- Whether a move leaves a key alone: the clock going on, and a request about another key. -/
def Move.Spares (key : String) : Move → Prop
  | .wait _ => True
  | .ask (.get other) => other ≠ key
  | .ask (.set other _ _) => other ≠ key
  | .ask (.delete other _) => other ≠ key
  | .ask (.digest other) => other ≠ key

namespace Memory

theorem changes_of_spares (m : Memory) {move : Move} {key : String} (h : move.Spares key) :
    (m.episode move).changes key = false := by
  cases move with
  | wait d => rfl
  | ask request =>
      cases request with
      | get other => rfl
      | digest other => rfl
      | delete other condition =>
          rw [changes_delete, beq_eq_false_iff_ne.mpr h, Bool.and_false]
      | set other value options =>
          rw [changes_set, beq_eq_false_iff_ne.mpr h, Bool.and_false]

/-- What is kept for good is still there after a move that leaves its key alone. -/
theorem Keeps.make {m : Memory} {key : String} {bytes : Bytes} (h : m.Keeps key bytes)
    {move : Move} (hspares : move.Spares key) : (m.make move).2.Keeps key bytes := by
  refine (m.entry_make move key).trans ?_
  rw [changes_of_spares m hspares, h]
  rfl

theorem Keeps.afterMoves {m : Memory} {key : String} {bytes : Bytes} (h : m.Keeps key bytes)
    {moves : List Move} (hspare : ∀ move ∈ moves, move.Spares key) :
    (m.afterMoves moves).Keeps key bytes := by
  induction moves generalizing m with
  | nil => exact h
  | cons move rest ih =>
      have hfirst := h.make (hspare move (List.mem_cons_self ..))
      exact ih hfirst fun other hother => hspare other (List.mem_cons_of_mem _ hother)

/-! ## What the commands do where a value is kept -/

variable {m : Memory} {key : String} {stored : Bytes}

theorem after_delete_live? (m : Memory) (key : String) (condition : Option Condition) :
    (m.after (commands.delete key condition)).live? key =
      if (m.store.delete m.now key condition).1 = true then none else m.live? key := by
  have hentry := m.store.entryAt_delete m.now key key condition
  rw [Memory.live?_eq, Memory.live?_eq]
  refine (congrArg (Option.map _) hentry).trans ?_
  by_cases hd : (m.store.delete m.now key condition).1 = true
  · rw [if_pos ⟨hd, rfl⟩, if_pos hd]; rfl
  · rw [if_neg fun h => hd h.1, if_neg hd]; rfl

theorem Keeps.delete_run (h : m.Keeps key stored) (c : Condition) :
    m.answer (commands.delete key (some c)) = .ok (.ok (c.holds stored)) ∧
      (m.after (commands.delete key (some c))).live? key =
        if c.holds stored = true then none else some stored := by
  have hd : (m.store.delete m.now key (some c)).1 = c.holds stored := by
    rw [Bool.eq_iff_iff, Store.delete_fst, ← Memory.live?.eq_def, h.live?]
    simp [Deletable]
  refine ⟨congrArg (fun yes => Except.ok (Except.ok yes)) hd, ?_⟩
  rw [after_delete_live?, hd, h.live?]

theorem Keeps.set_run (h : m.Keeps key stored) (value : Bytes) (c : Condition) :
    m.answer (commands.set key value ⟨some c, none⟩) = .ok (.ok (c.holds stored)) ∧
      (m.after (commands.set key value ⟨some c, none⟩)).live? key =
        if c.holds stored = true then some value else some stored := by
  have hallows : m.store.allows m.now key (some c) = c.holds stored := by
    rw [Bool.eq_iff_iff, Store.allows_iff, ← Memory.live?.eq_def, h.live?]
    simp [Writable]
  have hrun := Memory.set_run m key value ⟨some c, none⟩
  dsimp only at hrun
  rw [hallows] at hrun
  unfold answer after
  rw [hrun]
  by_cases hc : c.holds stored = true
  · rw [if_pos hc, if_pos hc, hc]
    refine ⟨rfl, ?_⟩
    -- with no expiration the new entry has no deadline that could have come
    rw [if_pos (by rfl), Memory.live?_eq]
    refine (congrArg (Option.map _) (Store.entryAt_insert _ _ _ _ _)).trans ?_
    rw [if_pos rfl]
    rfl
  · rw [if_neg hc, if_neg hc, Bool.eq_false_iff.mpr hc]
    exact ⟨rfl, h.live?⟩

/-- A write in any case and for good is kept. -/
theorem keeps_set (m : Memory) (key : String) (value : Bytes) :
    m.answer (commands.set key value {}) = .ok (.ok true) ∧
      (m.after (commands.set key value {})).Keeps key value := by
  have hrun := Memory.set_run m key value {}
  rw [if_pos (by rfl), if_pos (by rfl)] at hrun
  unfold answer after
  rw [hrun]
  refine ⟨rfl, (Store.entryAt_insert _ _ _ _ _).trans ?_⟩
  rw [if_pos rfl]
  rfl

end Memory

/-! ## Operations on values -/

/-- Operations on values over the backend in memory. -/
def Memory.valued {V : Type} (serializer : Serializer V) : ValueOperations MemoryM V :=
  ⟨Memory.commands, serializer⟩

section

variable {V : Type} {serializer : Serializer V} {m : Memory} {key : String} {stored : Bytes}

theorem Memory.answer_valued_get (serializer : Serializer V) (m : Memory) (key : String) :
    m.answer ((Memory.valued serializer).get key) =
      .ok (match m.live? key with
        | some bytes => (serializer.deserialize bytes).map some
        | none => .ok none) := by
  unfold Memory.answer Memory.valued ValueOperations.get
  dsimp only
  rw [Memory.run_bind]
  have hget : (Memory.commands.get key).run.run m =
      (.ok (.ok (m.live? key)), { m with store := m.store.evict m.now key }) := rfl
  rw [hget]
  cases m.live? key <;> rfl

/--
What a conditional delete and a conditional write of a key come to, where `stored` is kept under it.
They go through if `applies`, and otherwise leave the key as it was. After a delete the key is
missing, and after a write it has what the new value was written as.
-/
structure Decides (serializer : Serializer V) (m : Memory) (key : String) (stored : Bytes)
    (delete : DeleteSpec V) (set : SetSpec V) (applies : Prop) : Prop where
  /-- The delete answers whether it went through. -/
  delete : ∃ yes, m.answer ((Memory.valued serializer).deleteIf key delete) = .ok (.ok yes) ∧
    (yes = true ↔ applies) ∧
    (m.after ((Memory.valued serializer).deleteIf key delete)).answer
        ((Memory.valued serializer).get key) =
      .ok (if yes = true then .ok none else (serializer.deserialize stored).map some)
  /-- So does a write of any value that can be written. -/
  set : ∀ u bytes, serializer.serialize u = .ok bytes →
    ∃ yes, m.answer ((Memory.valued serializer).setIf key u set) = .ok (.ok yes) ∧
      (yes = true ↔ applies) ∧
      (m.after ((Memory.valued serializer).setIf key u set)).answer
          ((Memory.valued serializer).get key) =
        .ok ((serializer.deserialize (if yes = true then bytes else stored)).map some)

/-- **One condition decides.** Once what was staged is a condition, it alone says what a delete and a
write come to. -/
theorem Memory.Keeps.decides (h : m.Keeps key stored) {s : Staging V} {c : Condition}
    (hs : s.condition (m := Id) serializer.serialize = .ok (some c)) :
    Decides serializer m key stored ⟨s⟩ ⟨s, none⟩ (c.holds stored = true) where
  delete := by
    -- what was staged is this condition, and the operation is the command that carries it
    have hspec : Spec.condition (m := Id) (⟨s⟩ : DeleteSpec V) serializer.serialize =
        .ok (some c) := hs
    have hcall : (Memory.valued serializer).deleteIf key ⟨s⟩ =
        Memory.commands.delete key (some c) := by
      unfold ValueOperations.deleteIf Memory.valued
      dsimp only
      rw [hspec]
    obtain ⟨hanswer, hlive⟩ := h.delete_run c
    rw [hcall]
    refine ⟨c.holds stored, hanswer, Iff.rfl, ?_⟩
    rw [Memory.answer_valued_get, hlive]
    by_cases hc : c.holds stored = true
    · rw [if_pos hc, if_pos hc]
    · rw [if_neg hc, if_neg hc]
  set := by
    intro u bytes hu
    have hspec : Spec.condition (m := Id) (⟨s, none⟩ : SetSpec V) serializer.serialize =
        .ok (some c) := hs
    have hoptions : SetSpec.options (m := Id) ⟨s, none⟩ serializer.serialize =
        .ok ⟨some c, none⟩ := by
      unfold SetSpec.options
      rw [hspec]
      rfl
    have hcall : (Memory.valued serializer).setIf key u ⟨s, none⟩ =
        Memory.commands.set key bytes ⟨some c, none⟩ := by
      unfold ValueOperations.setIf Memory.valued
      dsimp only
      rw [hoptions]
      dsimp only
      rw [hu]
    obtain ⟨hanswer, hlive⟩ := h.set_run bytes c
    rw [hcall]
    refine ⟨c.holds stored, hanswer, Iff.rfl, ?_⟩
    rw [Memory.answer_valued_get, hlive]
    by_cases hc : c.holds stored = true
    · rw [if_pos hc, if_pos hc]
    · rw [if_neg hc, if_neg hc]

theorem Decides.of_iff {delete : DeleteSpec V} {set : SetSpec V} {p q : Prop}
    (h : Decides serializer m key stored delete set p) (hpq : p ↔ q) :
    Decides serializer m key stored delete set q := by
  rwa [← propext hpq]

/-- Another value is compared as the bytes that it would be written as. -/
theorem Memory.Keeps.decides_value (h : m.Keeps key stored) {w : V} {bytes : Bytes}
    (hw : serializer.serialize w = .ok bytes) :
    Decides serializer m key stored ((Spec.ifEquals {}).value w) ((Spec.ifEquals {}).value w)
        (bytes = stored) ∧
      Decides serializer m key stored ((Spec.ifNotEquals {}).value w)
        ((Spec.ifNotEquals {}).value w) (bytes ≠ stored) := by
  have hstaged : ∀ operator, Staging.condition (m := Id) ⟨operator, .value w⟩
      serializer.serialize = .ok (some ⟨operator, .value bytes⟩) := by
    intro operator
    unfold Staging.condition
    dsimp only
    rw [hw]
    rfl
  refine ⟨(h.decides (hstaged .equals)).of_iff ?_, (h.decides (hstaged .notEquals)).of_iff ?_⟩
  · simp [Condition.holds, Operator.apply]
  · simp [Condition.holds, Operator.apply]

/-- The digest of what is kept holds of it. -/
theorem Memory.Keeps.decides_digest (h : m.Keeps key stored) :
    Decides serializer m key stored ((Spec.ifEquals {}).digest (valueDigest stored))
        ((Spec.ifEquals {}).digest (valueDigest stored)) True ∧
      Decides serializer m key stored ((Spec.ifNotEquals {}).digest (valueDigest stored))
        ((Spec.ifNotEquals {}).digest (valueDigest stored)) False := by
  have hstaged : ∀ operator, Staging.condition (m := Id) ⟨operator, .digest (valueDigest stored)⟩
      serializer.serialize = .ok (some ⟨operator, .digest (valueDigest stored)⟩) := fun _ => rfl
  refine ⟨(h.decides (hstaged .equals)).of_iff ?_, (h.decides (hstaged .notEquals)).of_iff ?_⟩
  · simp [Condition.holds, Operator.apply, equalUpToCase]
  · simp [Condition.holds, Operator.apply, equalUpToCase]

/-- To ask for the digest of what is kept changes nothing. -/
theorem Memory.Keeps.digest_run (h : m.Keeps key stored) (serializer : Serializer V) :
    m.answer ((Memory.valued serializer).digest key) = .ok (.ok (some (valueDigest stored))) ∧
      (m.after ((Memory.valued serializer).digest key)).Keeps key stored := by
  constructor
  · show Except.ok (Except.ok ((m.live? key).map valueDigest)) = _
    rw [h.live?]
    rfl
  · exact (Store.entryAt_evict _ _ _ _).trans h

/-- A value that has bytes can be written, in any case and for good. -/
theorem Memory.valued_set_run (m : Memory) (key : String) {v : V} {bytes : Bytes}
    (hv : serializer.serialize v = .ok bytes) :
    ((Memory.valued serializer).set key v).run.run m =
      (.ok (.ok ()), m.after (Memory.commands.set key bytes {})) := by
  have hanswer := (Memory.keeps_set m key bytes).1
  unfold Memory.answer at hanswer
  unfold Memory.after Memory.valued ValueOperations.set
  dsimp only
  rw [hv]
  dsimp only
  rw [Memory.run_bind]
  rcases hrun : (Memory.commands.set key bytes {}).run.run m with ⟨result, after⟩
  rw [hrun] at hanswer
  dsimp only at hanswer ⊢
  subst hanswer
  rfl

/-- A value that was written is kept as its bytes. -/
theorem Memory.keeps_of_set {v : V}
    (hset : m.answer ((Memory.valued serializer).set key v) = .ok (.ok ())) :
    ∃ bytes, serializer.serialize v = .ok bytes ∧
      (m.after ((Memory.valued serializer).set key v)).Keeps key bytes := by
  cases hv : serializer.serialize v with
  | error e =>
      unfold Memory.answer Memory.valued ValueOperations.set at hset
      dsimp only at hset
      rw [hv] at hset
      exact absurd (Except.ok.inj hset) (by simp)
  | ok bytes =>
      refine ⟨bytes, rfl, ?_⟩
      rw [Memory.after, Memory.valued_set_run m key hv]
      exact (Memory.keeps_set m key bytes).2

end

/-! ## From the write on -/

/--
**What was written decides.** Take any memory, any serializer, and a value that was written without
a condition; let moves follow that leave its key alone. Then the key has what the value's bytes are
read as. A conditional delete or write goes through by comparing those bytes: with the bytes of
another value, or with a digest, and the digest that was asked for before always holds. Texts come
back as they were.
-/
theorem stored_value_decides :
    (∀ {V : Type} (serializer : Serializer V) (m : Memory) (key : String) (v : V)
        (moves : List Move),
      m.answer ((Memory.valued serializer).set key v) = .ok (.ok ()) →
      (∀ move ∈ moves, move.Spares key) →
      let now := (m.after ((Memory.valued serializer).set key v)).afterMoves moves
      ∃ stored, serializer.serialize v = .ok stored ∧
        now.answer ((Memory.valued serializer).get key) =
          .ok ((serializer.deserialize stored).map some) ∧
        (∀ w bytes, serializer.serialize w = .ok bytes →
          Decides serializer now key stored ((Spec.ifEquals {}).value w)
              ((Spec.ifEquals {}).value w) (bytes = stored) ∧
            Decides serializer now key stored ((Spec.ifNotEquals {}).value w)
              ((Spec.ifNotEquals {}).value w) (bytes ≠ stored)) ∧
        ∃ d, now.answer ((Memory.valued serializer).digest key) = .ok (.ok (some d)) ∧
          let asked := now.after ((Memory.valued serializer).digest key)
          Decides serializer asked key stored ((Spec.ifEquals {}).digest d)
              ((Spec.ifEquals {}).digest d) True ∧
            Decides serializer asked key stored ((Spec.ifNotEquals {}).digest d)
              ((Spec.ifNotEquals {}).digest d) False) ∧
    ∀ (m : Memory) (key text : String) (moves : List Move),
      (∀ move ∈ moves, move.Spares key) →
      ((m.after ((Memory.valued .text).set key text)).afterMoves moves).answer
          ((Memory.valued .text).get key) = .ok (.ok (some text)) := by
  constructor
  · intro V serializer m key v moves hset hspare now
    obtain ⟨stored, hstored, hkeeps⟩ := Memory.keeps_of_set hset
    have hnow : now.Keeps key stored := hkeeps.afterMoves hspare
    obtain ⟨hdigest, hasked⟩ := hnow.digest_run serializer
    refine ⟨stored, hstored, ?_, fun w bytes hw => hnow.decides_value hw, valueDigest stored,
      hdigest, hasked.decides_digest⟩
    rw [Memory.answer_valued_get, hnow.live?]
  · intro m key text moves hspare
    have hset : m.answer ((Memory.valued .text).set key text) = .ok (.ok ()) := by
      have hwritten : Serializer.text.serialize text = .ok (Utf8.encode text) := rfl
      rw [Memory.answer, Memory.valued_set_run m key hwritten]
    obtain ⟨stored, hstored, hkeeps⟩ := Memory.keeps_of_set hset
    obtain rfl : Utf8.encode text = stored := Except.ok.inj hstored
    rw [Memory.answer_valued_get, (hkeeps.afterMoves hspare).live?]
    show Except.ok ((Serializer.readText (Utf8.encode text)).map some) = _
    rw [Serializer.readText, Utf8.decode_encode]
    rfl

/-- Two texts that are written alike are one to every condition. -/
theorem stored_capitals_decide :
    Memory.answer {} ((Memory.valued .capitals).set "k" "a") = .ok (.ok ()) ∧
      (∀ move ∈ [Move.wait (.ofSeconds 5), .ask (.delete "other" none)], move.Spares "k") ∧
      let now := (Memory.after {} ((Memory.valued .capitals).set "k" "a")).afterMoves
        [.wait (.ofSeconds 5), .ask (.delete "other" none)]
      now.answer ((Memory.valued .capitals).get "k") = .ok (.ok (some "A")) ∧
        now.answer ((Memory.valued .capitals).deleteIf "k" ((Spec.ifEquals {}).value "A")) =
          .ok (.ok true) := by
  have hset : Memory.answer {} ((Memory.valued .capitals).set "k" "a") = .ok (.ok ()) := by rfl
  have hspare : ∀ move ∈ [Move.wait (.ofSeconds 5), .ask (.delete "other" none)],
      move.Spares "k" := by
    simp [Move.Spares]
  refine ⟨hset, hspare, ?_⟩
  obtain ⟨stored, hstored, hget, hvalue, -⟩ :=
    stored_value_decides.1 .capitals {} "k" "a" _ hset hspare
  obtain rfl : [0x41] = stored := Except.ok.inj (Eq.trans (by rfl) hstored)
  obtain ⟨yes, hanswer, hyes, -⟩ := (hvalue "A" [0x41] (by rfl)).1.delete
  rw [hyes.mpr rfl] at hanswer
  exact ⟨hget, hanswer⟩

end KeyRelay
