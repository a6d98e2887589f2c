import KeyRelay.Proofs.History

/-!
# One winner from each version

Clients that work on one key without a lock protect themselves with conditions: a
write or a delete is to go through only if the key still has the value (or a value of
the digest) that was read before. This module says what that is worth, whatever the
clients are, whatever they ask and in whichever order their requests are carried out.

A history is one list of moves, so it does not matter who made which. What matters is
the record of it. Any two changes of a key that both went through split the record
into what came before, between and after them, and the statements below all say what
must stand between: a write that brought back what the second change asked for.

The argument is about the latest change before the second one (`lastChange?_split`).
It is no older than the first, and it left what the second found
(`wrote_of_live?`). If the first left something else, it is another one.
-/

namespace KeyRelay

/-! ## Changes that went through -/

namespace Episode

/-- A write or a delete that went through. -/
def applied (time : Instant) (request : Request) : Episode :=
  ⟨time, .ask request, .ok (some (.ok (.applied true)))⟩

/-- A write of this value, under this condition, went through. -/
def Wrote (e : Episode) (key : String) (value : Bytes) (condition : Option Condition) : Prop :=
  ∃ time expiration, e = applied time (.set key value ⟨condition, expiration⟩)

/-- A delete under this condition went through. -/
def Deleted (e : Episode) (key : String) (condition : Option Condition) : Prop :=
  ∃ time, e = applied time (.delete key condition)

/-- A change that asked for this condition went through, be it a write or a delete. -/
def Won (e : Episode) (key : String) (c : Condition) : Prop :=
  (∃ value, e.Wrote key value (some c)) ∨ e.Deleted key (some c)

variable {e : Episode} {key : String}

theorem Wrote.changes {value : Bytes} {condition : Option Condition}
    (h : e.Wrote key value condition) : e.changes key = true := by
  obtain ⟨time, expiration, rfl⟩ := h
  exact beq_self_eq_true key

theorem Deleted.changes {condition : Option Condition} (h : e.Deleted key condition) :
    e.changes key = true := by
  obtain ⟨time, rfl⟩ := h
  exact beq_self_eq_true key

/-- A change of a key is one of the two. -/
theorem wrote_or_deleted (h : e.changes key = true) :
    (∃ value condition, e.Wrote key value condition) ∨ ∃ condition, e.Deleted key condition := by
  obtain ⟨time, move, outcome⟩ := e
  unfold Episode.changes at h
  split at h
  · rename_i other value options hmove houtcome
    obtain rfl := beq_iff_eq.mp h
    obtain rfl : move = _ := hmove
    obtain rfl : outcome = _ := houtcome
    exact .inl ⟨value, options.condition, time, options.expiration, rfl⟩
  · rename_i other condition hmove houtcome
    obtain rfl := beq_iff_eq.mp h
    obtain rfl : move = _ := hmove
    obtain rfl : outcome = _ := houtcome
    exact .inr ⟨condition, time, rfl⟩
  · exact absurd h (by simp)

/-- Only a write leaves anything, and it leaves its value. -/
theorem wrote_of_leaves? {left : Entry} (h : e.changes key = true)
    (hleaves : e.leaves? = some left) : ∃ condition, e.Wrote key left.value condition := by
  rcases wrote_or_deleted h with ⟨value, condition, time, expiration, rfl⟩ |
    ⟨condition, time, rfl⟩
  · obtain rfl : _ = left := Option.some.inj hleaves
    exact ⟨condition, time, expiration, rfl⟩
  · exact absurd hleaves nofun

/-- No episode is a write and a delete. -/
theorem Deleted.not_wrote {value : Bytes} {condition condition' : Option Condition}
    (h : e.Deleted key condition) : ¬ e.Wrote key value condition' := by
  obtain ⟨time, rfl⟩ := h
  rintro ⟨time', expiration, hsame⟩
  have hmove := congrArg Episode.move hsame
  exact absurd hmove nofun

/-- A write writes one value. -/
theorem Wrote.value_unique {value value' : Bytes} {condition condition' : Option Condition}
    (h : e.Wrote key value condition) (h' : e.Wrote key value' condition') : value = value' := by
  obtain ⟨time, expiration, rfl⟩ := h
  obtain ⟨time', expiration', hsame⟩ := h'
  have hmove := congrArg Episode.move hsame
  simp only [applied, Move.ask.injEq, Request.set.injEq] at hmove
  exact hmove.2.1

end Episode

/-! ## What a change finds -/

section

variable {m : Memory} {move : Move} {key : String}

theorem Memory.writable_of_wrote {value : Bytes} {condition : Option Condition}
    (h : (m.episode move).Wrote key value condition) : Writable (m.live? key) condition := by
  have hchanges := h.changes
  obtain ⟨time, expiration, hepisode⟩ := h
  obtain rfl : move = .ask (.set key value ⟨condition, expiration⟩) :=
    congrArg Episode.move hepisode
  rw [Memory.changes_set, Bool.and_eq_true, Bool.and_eq_true] at hchanges
  exact (m.store.allows_iff m.now key condition).mp hchanges.1.1

theorem Memory.deletable_of_deleted {condition : Option Condition}
    (h : (m.episode move).Deleted key condition) : Deletable (m.live? key) condition := by
  have hchanges := h.changes
  obtain ⟨time, hepisode⟩ := h
  obtain rfl : move = .ask (.delete key condition) := congrArg Episode.move hepisode
  rw [Memory.changes_delete, Bool.and_eq_true] at hchanges
  exact (m.store.delete_fst m.now key condition).mp hchanges.1

/-- Who asks for equality and wins has found a value that is equal. A missing key lets nobody win
who asks so. -/
theorem Memory.live?_of_won {c : Condition} (hequals : c.operator = .equals)
    (h : (m.episode move).Won key c) : ∃ v, m.live? key = some v ∧ c.holds v = true := by
  rcases h with ⟨value, hwrote⟩ | hdeleted
  · rcases writable_of_wrote hwrote with hnone | ⟨c', v, hc, hlive, hholds⟩ | ⟨c', hc, -, hdiffers⟩
    · exact absurd hnone (by simp)
    · obtain rfl := Option.some.inj hc
      exact ⟨v, hlive, hholds⟩
    · obtain rfl := Option.some.inj hc
      rw [hequals] at hdiffers
      exact absurd hdiffers (by simp)
  · obtain ⟨v, hlive, hnone | ⟨c', hc, hholds⟩⟩ := deletable_of_deleted hdeleted
    · exact absurd hnone (by simp)
    · obtain rfl := Option.some.inj hc
      exact ⟨v, hlive, hholds⟩

end

/-! ## The record, split -/

namespace Trace

theorem of_concat (moves : List Move) (move : Move) :
    of (moves ++ [move]) = (of moves).extend move :=
  List.foldl_concat ..

/-- Every episode of a record was made where the record before it ends. -/
theorem exists_earlier {moves : List Move} {e : Episode} {after before : List Episode}
    (h : (of moves).episodes = after ++ e :: before) :
    ∃ earlier move, (of earlier).episodes = before ∧ e = (of earlier).memory.episode move := by
  induction moves using List.reverseRecOn generalizing after with
  | nil =>
      have hempty : ([] : List Episode) = after ++ e :: before := h
      exact absurd hempty (by simp)
  | append_singleton moves move ih =>
      rw [of_concat] at h
      have hcons : (of moves).memory.episode move :: (of moves).episodes = after ++ e :: before := h
      cases after with
      | nil =>
          obtain ⟨hhead, htail⟩ := List.cons.inj hcons
          exact ⟨moves, move, htail, hhead.symm⟩
      | cons latest rest => exact ih (List.cons.inj hcons).2

variable {t : Trace} {key : String} {first : Episode} {between before : List Episode}

/-- The latest change of a key is no older than any that is on record. -/
theorem lastChange?_split (h : t.episodes = between ++ first :: before)
    (hfirst : first.changes key = true) :
    ∃ e, t.lastChange? key = some e ∧ (e ∈ between ∨ e = first) := by
  unfold lastChange?
  rw [h, List.find?_append]
  cases hfind : between.find? (·.changes key) with
  | some e => exact ⟨e, rfl, .inl (List.mem_of_find?_eq_some hfind)⟩
  | none =>
      refine ⟨first, ?_, .inr rfl⟩
      rw [Option.none_or]
      exact List.find?_cons_of_pos hfirst

/-- **What a key has was written.** And since `first` changed the key, it was written then or
after. -/
theorem wrote_of_live? (hfaithful : t.Faithful) (h : t.episodes = between ++ first :: before)
    (hfirst : first.changes key = true) {v : Bytes} (hlive : t.memory.live? key = some v) :
    ∃ e, (e ∈ between ∨ e = first) ∧ ∃ condition, e.Wrote key v condition := by
  obtain ⟨e, hlast, hplace⟩ := lastChange?_split h hfirst
  have hchanges : e.changes key = true := by
    have hfind := List.find?_some hlast
    exact hfind
  rw [Memory.live?_eq, hfaithful key, hlast, Option.bind_some] at hlive
  obtain ⟨left, hleft, rfl⟩ := Option.map_eq_some_iff.mp hlive
  obtain ⟨hleaves, -⟩ := Option.filter_eq_some_iff.mp hleft
  exact ⟨e, hplace, e.wrote_of_leaves? hchanges hleaves⟩

end Trace

/-! ## Winners -/

section

variable {moves : List Move} {key : String} {first second : Episode}
  {after between before : List Episode}
  (h : (Trace.of moves).episodes = after ++ second :: (between ++ first :: before))
include h

/-- What the second of two changes found was written by the first or between them. -/
theorem exists_written (hfirst : first.changes key = true) :
    ∃ (m : Memory) (move : Move), second = m.episode move ∧ ∀ v, m.live? key = some v →
      ∃ e, (e ∈ between ∨ e = first) ∧ ∃ condition, e.Wrote key v condition := by
  obtain ⟨earlier, move, hrecord, rfl⟩ := Trace.exists_earlier h
  refine ⟨(Trace.of earlier).memory, move, rfl, ?_⟩
  intro v hlive
  exact Trace.wrote_of_live? (Trace.faithful_of earlier) hrecord hfirst hlive

/-- A key that was deleted twice was written in between. -/
theorem written_between_deletes {c₁ c₂ : Option Condition} (hfirst : first.Deleted key c₁)
    (hsecond : second.Deleted key c₂) :
    ∃ e ∈ between, ∃ value condition, e.Wrote key value condition := by
  obtain ⟨m, move, rfl, hwritten⟩ := exists_written h hfirst.changes
  obtain ⟨v, hlive, -⟩ := Memory.deletable_of_deleted hsecond
  obtain ⟨e, hplace, condition, hwrote⟩ := hwritten v hlive
  rcases hplace with hbetween | rfl
  · exact ⟨e, hbetween, v, condition, hwrote⟩
  · exact absurd hwrote hfirst.not_wrote

/-- A write after which a condition does not hold, and a change that won by that condition: in
between it was made to hold again. -/
theorem restored_between {w : Bytes} {c₁ : Option Condition} {c : Condition}
    (hequals : c.operator = .equals) (hfirst : first.Wrote key w c₁) (hbroken : c.holds w = false)
    (hsecond : second.Won key c) :
    ∃ e ∈ between, ∃ v condition, e.Wrote key v condition ∧ c.holds v = true := by
  obtain ⟨m, move, rfl, hwritten⟩ := exists_written h hfirst.changes
  obtain ⟨v, hlive, hholds⟩ := Memory.live?_of_won hequals hsecond
  obtain ⟨e, hplace, condition, hwrote⟩ := hwritten v hlive
  rcases hplace with hbetween | rfl
  · exact ⟨e, hbetween, v, condition, hwrote, hholds⟩
  · -- the first change left `w`, of which the condition does not hold
    obtain rfl := hwrote.value_unique hfirst
    rw [hbroken] at hholds
    exact absurd hholds (by simp)

end

/--
**From one version there is one winner.** Take two changes of a key that went through, one after
the other, anywhere in any history. Two deletes have a write of the key between them. If the first
wrote another value than `v`, and the second is a write or a delete that asked for `v`, then a write
of `v` lies between them; and likewise with a digest, which is compared up to the case of its
letters.
-/
theorem no_two_winners (moves : List Move) (key : String) (first second : Episode)
    (after between before : List Episode)
    (h : (Trace.of moves).episodes = after ++ second :: (between ++ first :: before)) :
    (∀ c₁ c₂, first.Deleted key c₁ → second.Deleted key c₂ →
      ∃ e ∈ between, ∃ value condition, e.Wrote key value condition) ∧
    (∀ w v c₁, w ≠ v → first.Wrote key w c₁ → second.Won key (.ifEquals v) →
      ∃ e ∈ between, ∃ condition, e.Wrote key v condition) ∧
    (∀ w d c₁, equalUpToCase d (valueDigest w) = false → first.Wrote key w c₁ →
      second.Won key (.ifDigestEquals d) →
      ∃ e ∈ between, ∃ v condition, e.Wrote key v condition ∧
        equalUpToCase d (valueDigest v) = true) := by
  refine ⟨?_, ?_, ?_⟩
  · intro c₁ c₂ hfirst hsecond
    exact written_between_deletes h hfirst hsecond
  · intro w v c₁ hne hfirst hsecond
    have hbroken : (Condition.ifEquals v).holds w = false := beq_eq_false_iff_ne.mpr hne.symm
    obtain ⟨e, hbetween, v', condition, hwrote, hholds⟩ :=
      restored_between h rfl hfirst hbroken hsecond
    have hv : v = v' := beq_iff_eq.mp hholds
    subst hv
    exact ⟨e, hbetween, condition, hwrote⟩
  · intro w d c₁ hne hfirst hsecond
    have hbroken : (Condition.ifDigestEquals d).holds w = false := hne
    exact restored_between h rfl hfirst hbroken hsecond

/-- Two clients have read `[1]`. The first replaces it, and the second can only delete it because
`[1]` was written again in the meantime. -/
theorem no_two_winners_restored :
    let moves : List Move := [.ask (.set "k" [1] {}),
      .ask (.set "k" [2] { condition := some (.ifEquals [1]) }), .wait ⟨5⟩,
      .ask (.set "k" [1] {}), .ask (.delete "k" (some (.ifEquals [1])))]
    let before : List Episode := [.applied 0 (.set "k" [1] {})]
    let first : Episode := .applied 0 (.set "k" [2] { condition := some (.ifEquals [1]) })
    let between : List Episode := [.applied 5 (.set "k" [1] {}), ⟨0, .wait ⟨5⟩, .ok none⟩]
    let second : Episode := .applied 5 (.delete "k" (some (.ifEquals [1])))
    (Trace.of moves).episodes = [] ++ second :: (between ++ first :: before) ∧
      ∃ e ∈ between, ∃ condition, e.Wrote "k" [1] condition := by
  intro moves before first between second
  have hrecord : (Trace.of moves).episodes = [] ++ second :: (between ++ first :: before) := rfl
  have hfirst : first.Wrote "k" [2] (some (.ifEquals [1])) := ⟨0, none, rfl⟩
  have hsecond : second.Won "k" (.ifEquals [1]) := .inr ⟨5, rfl⟩
  obtain ⟨-, hvalue, -⟩ := no_two_winners moves "k" first second [] between before hrecord
  exact ⟨hrecord, hvalue [2] [1] _ (by decide) hfirst hsecond⟩

end KeyRelay
