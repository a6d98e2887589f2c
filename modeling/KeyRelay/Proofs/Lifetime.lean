import KeyRelay.Proofs.LaterMoves
import KeyRelay.Proofs.ServerAgreement
import KeyRelay.Proofs.UniqueReading

/-!
# How long a written key lives

A write may ask that its value lives for some time only. The store in memory takes the
time as it is given, to the nanosecond, and a server takes it in whole milliseconds.
This module puts the two side by side.

In memory a deadline is set when the value is written, and nothing but another write or
a delete moves it. So what a key shows later depends on one number, the time that has
gone by (`Memory.LivesFor`). That number also tells two lifetimes apart (`unique`): at
the end of the shorter one the key would have to be there and not be there. Hence a key
lives as long on both sides exactly if nothing is lost on the wire.
-/

namespace KeyRelay

/-! ## From a write on -/

namespace Memory

/-- From now on a key has this value for so long, and from then on it has none, for as long as it is
left alone. -/
def LivesFor (m : Memory) (key : String) (value : Bytes) (d : Duration) : Prop :=
  ∀ (moves : List Move) (passed : Nat), (∀ move ∈ moves, move.Spares key) →
    (m.afterMoves moves).now = m.now + passed →
    (m.afterMoves moves).answer (commands.get key) =
      .ok (.ok (if passed < d.nanoseconds then some value else none))

/-- What a write leaves that went through. Its deadline fits the clock. -/
theorem after_set {m : Memory} {key : String} {value : Bytes} {options : SetOptions}
    (hset : m.answer (commands.set key value options) = .ok (.ok true)) :
    options.fits m.now = true ∧ (m.after (commands.set key value options)).now = m.now ∧
      (m.after (commands.set key value options)).entry key =
        (some ⟨value, options.deadline m.now⟩).filter (Entry.lives m.now) := by
  have hrun := Memory.set_run m key value options
  unfold answer at hset
  unfold after
  rw [hrun] at hset ⊢
  by_cases hallows : m.store.allows m.now key options.condition = true
  · rw [if_pos hallows] at hset ⊢
    by_cases hfits : options.fits m.now = true
    · rw [if_pos hfits]
      refine ⟨hfits, rfl, (Store.entryAt_insert _ _ _ _ _).trans ?_⟩
      rw [if_pos rfl]
    · rw [if_neg hfits] at hset
      exact absurd hset nofun
  · rw [if_neg hallows] at hset
    exact absurd hset nofun

/-- A value that was written for some time lives for just that time. -/
theorem livesFor_of_set {m : Memory} {key : String} {value : Bytes} {options : SetOptions}
    {d : Duration} (hd : options.expiration = some d)
    (hset : m.answer (commands.set key value options) = .ok (.ok true)) :
    (m.after (commands.set key value options)).LivesFor key value d := by
  obtain ⟨-, hnow, hentry⟩ := after_set hset
  intro moves passed hspare hpassed
  have hdeadline : options.deadline m.now = some (m.now + d.nanoseconds) := by
    rw [SetOptions.deadline, hd, Option.map_some]
  have hlater := entry_afterMoves (m.after (commands.set key value options)) hspare
  have hle := now_le_afterMoves (m.after (commands.set key value options)) moves
  rw [hnow] at hpassed hle
  rw [hentry, filter_later hle, hdeadline, filter_lives_some, hpassed] at hlater
  show Except.ok (Except.ok (Memory.live? _ key)) = _
  rw [Memory.live?_eq, hlater]
  by_cases hlives : passed < d.nanoseconds
  · rw [if_pos hlives, if_pos (Nat.add_lt_add_left hlives _)]
    rfl
  · rw [if_neg hlives, if_neg fun h => hlives (Nat.lt_of_add_lt_add_left h)]
    rfl

/-! ## Two lifetimes -/

/-- The clock can be put on to every time that it can show. -/
theorem now_afterMoves_wait {m : Memory} {passed : Nat} (h : m.now + passed < Instant.limit) :
    (m.afterMoves [.wait ⟨passed⟩]).now = m.now + passed := by
  show (m.make (.wait ⟨passed⟩)).2.now = _
  rw [make_wait, if_pos h]

/-- **A key has one lifetime**, as far as the clock goes. -/
theorem LivesFor.unique {m : Memory} {key : String} {value : Bytes} {d d' : Duration}
    (h : m.LivesFor key value d) (h' : m.LivesFor key value d')
    (hfits : m.now + d.nanoseconds < Instant.limit) : d' = d := by
  have hspare : ∀ {passed : Nat}, ∀ move ∈ [Move.wait ⟨passed⟩], move.Spares key := by
    intro passed move hmove
    rw [List.mem_singleton.mp hmove]
    trivial
  -- at the end of the shorter one they would disagree
  have hagree : ∀ passed : Nat, m.now + passed < Instant.limit →
      (passed < d.nanoseconds ↔ passed < d'.nanoseconds) := by
    intro passed hpassed
    have hboth := (h _ passed hspare (now_afterMoves_wait hpassed)).symm.trans
      (h' _ passed hspare (now_afterMoves_wait hpassed))
    by_cases hd : passed < d.nanoseconds
    · by_cases hd' : passed < d'.nanoseconds
      · exact ⟨fun _ => hd', fun _ => hd⟩
      · rw [if_pos hd, if_neg hd'] at hboth
        exact absurd hboth nofun
    · by_cases hd' : passed < d'.nanoseconds
      · rw [if_neg hd, if_pos hd'] at hboth
        exact absurd hboth nofun
      · exact ⟨fun ht => absurd ht hd, fun ht => absurd ht hd'⟩
  have hle : d'.nanoseconds ≤ d.nanoseconds := by
    have hend := hagree d.nanoseconds hfits
    omega
  have hge : d.nanoseconds ≤ d'.nanoseconds := by
    have hfits' : m.now + d'.nanoseconds < Instant.limit :=
      Nat.lt_of_le_of_lt (Nat.add_le_add_left hle _) hfits
    have hend := hagree d'.nanoseconds hfits'
    omega
  obtain ⟨nanoseconds⟩ := d
  obtain ⟨nanoseconds'⟩ := d'
  exact congrArg Duration.mk (Nat.le_antisymm hle hge)

end Memory

/-! ## On the wire -/

/-- Nothing of a duration is lost on the wire exactly if it is a whole number of milliseconds, at
least one, that fits a word. -/
theorem Duration.onWire_eq_self_iff (d : Duration) : d.onWire = d ↔ d.IsWhole := by
  constructor
  · intro h
    have hmilliseconds : d.milliseconds = d.expirationMilliseconds := by
      have hdiv := congrArg Duration.milliseconds h
      unfold Duration.onWire Duration.ofMilliseconds Duration.milliseconds at hdiv
      rw [Nat.mul_div_cancel _ (by decide)] at hdiv
      exact hdiv.symm
    refine ⟨?_, ?_, ?_⟩
    · rw [hmilliseconds]
      exact h.symm
    · rw [hmilliseconds]
      exact Nat.le_max_right _ _
    · rw [hmilliseconds]
      exact d.expirationMilliseconds_le
  · intro h
    exact h.expirationMilliseconds

/-- From a millisecond on, and as far as a word goes, less than a millisecond is lost. -/
theorem Duration.onWire_bounds {d : Duration} (hlow : perMillisecond ≤ d.nanoseconds)
    (hhigh : d.milliseconds ≤ maxWord) :
    d.onWire.nanoseconds ≤ d.nanoseconds ∧
      d.nanoseconds < d.onWire.nanoseconds + perMillisecond := by
  have hone : 1 ≤ d.milliseconds := (Nat.one_le_div_iff (by decide)).mpr hlow
  have hwire : d.onWire.nanoseconds = d.milliseconds * perMillisecond := by
    show d.expirationMilliseconds * perMillisecond = _
    rw [Duration.expirationMilliseconds, Nat.min_eq_left hhigh, Nat.max_eq_left hone]
  have hparts := Nat.div_add_mod d.nanoseconds perMillisecond
  have hrest := Nat.mod_lt d.nanoseconds (show perMillisecond > 0 by decide)
  rw [hwire]
  unfold Duration.milliseconds
  rw [Nat.mul_comm]
  omega

/-- What is shorter than a millisecond counts as one. -/
theorem Duration.onWire_of_brief {d : Duration} (h : d.nanoseconds < perMillisecond) :
    d.onWire = .ofMilliseconds 1 := by
  have hzero : d.milliseconds = 0 := Nat.div_eq_of_lt h
  unfold Duration.onWire Duration.expirationMilliseconds
  rw [hzero, Nat.zero_min]
  rfl

/-- What is too long for a word counts as the longest there is. -/
theorem Duration.onWire_of_long {d : Duration} (h : maxWord < d.milliseconds) :
    d.onWire = .ofMilliseconds maxWord := by
  unfold Duration.onWire Duration.expirationMilliseconds
  rw [Nat.min_eq_right (Nat.le_of_lt h)]
  rfl

/-! ## Side by side -/

/--
**In memory a key lives for as long as was asked, and on a server for that long in milliseconds.**
Take any write that asks for an expiration and goes through. In memory the key has the value for
exactly that time from the write on, so it can be read at once unless the time is nothing. The
command for the same write carries the time in whole milliseconds. The key lives for that long in
memory, too, exactly if nothing of the time was lost on the wire; and what is lost is less than a
millisecond, unless the time is shorter than one or too long for a word.
-/
theorem written_key_lives (m : Memory) (key : String) (value : Bytes) (options : SetOptions)
    (d : Duration) (hd : options.expiration = some d)
    (hset : m.answer (Memory.commands.set key value options) = .ok (.ok true)) :
    let written := m.after (Memory.commands.set key value options)
    let wire := Duration.ofMilliseconds d.expirationMilliseconds
    written.now = m.now ∧ written.LivesFor key value d ∧
      (written.answer (Memory.commands.get key) = .ok (.ok (some value)) ↔ d.nanoseconds ≠ 0) ∧
      (WireCommand.set key value options).read? =
        some (.set (Utf8.encode key) value options.condition (some d.expirationMilliseconds)) ∧
      (written.LivesFor key value wire ↔ d.IsWhole) ∧
      (d.nanoseconds < Duration.perMillisecond → wire = .ofMilliseconds 1) ∧
      (Duration.perMillisecond ≤ d.nanoseconds → d.milliseconds ≤ maxWord →
        wire.nanoseconds ≤ d.nanoseconds ∧
          d.nanoseconds < wire.nanoseconds + Duration.perMillisecond) ∧
      (maxWord < d.milliseconds → wire = .ofMilliseconds maxWord) := by
  intro written wire
  obtain ⟨hfits, hnow, -⟩ := Memory.after_set hset
  have hlives : written.LivesFor key value d := Memory.livesFor_of_set hd hset
  have hlimit : written.now + d.nanoseconds < Instant.limit := by
    rw [SetOptions.fits, SetOptions.deadline, hd] at hfits
    rw [show written.now = m.now from hnow]
    exact of_decide_eq_true hfits
  refine ⟨hnow, hlives, ?_, ?_, ?_, Duration.onWire_of_brief, Duration.onWire_bounds,
    Duration.onWire_of_long⟩
  · rw [show written.answer (Memory.commands.get key) = _ from hlives [] 0 (by simp) rfl]
    by_cases hzero : d.nanoseconds = 0
    · simp [hzero]
    · simp [hzero, Nat.pos_of_ne_zero hzero]
  · rw [WireCommand.read?_set, hd, Option.map_some]
  · constructor
    · intro hwire
      exact d.onWire_eq_self_iff.mp (hlives.unique hwire hlimit)
    · intro hwhole
      rw [show wire = d from d.onWire_eq_self_iff.mpr hwhole]
      exact hlives

/-- A key that is to live for a millisecond and a half does so in memory, and would be gone after
one millisecond on a server. -/
theorem written_key_lives_and_a_half :
    let options : SetOptions := { expiration := some ⟨1500000⟩ }
    let written := ({ now := 7 } : Memory).after (Memory.commands.set "k" [1] options)
    ({ now := 7 } : Memory).answer (Memory.commands.set "k" [1] options) = .ok (.ok true) ∧
      written.LivesFor "k" [1] ⟨1500000⟩ ∧ ¬ written.LivesFor "k" [1] (.ofMilliseconds 1) := by
  intro options written
  have hset : ({ now := 7 } : Memory).answer (Memory.commands.set "k" [1] options) =
      .ok (.ok true) := rfl
  obtain ⟨-, hlives, -, -, hwire, -⟩ :=
    written_key_lives { now := 7 } "k" [1] options ⟨1500000⟩ rfl hset
  refine ⟨hset, hlives, fun hmillisecond => ?_⟩
  obtain ⟨hwhole, -⟩ := hwire.mp hmillisecond
  exact absurd hwhole (by decide)

/-- A key that is to live for no time at all is written and cannot be read, while a server is asked
to keep it for a millisecond. -/
theorem unreadable_once_written :
    let options : SetOptions := { expiration := some ⟨0⟩ }
    let written := ({} : Memory).after (Memory.commands.set "k" [1] options)
    ({} : Memory).answer (Memory.commands.set "k" [1] options) = .ok (.ok true) ∧
      written.answer (Memory.commands.get "k") = .ok (.ok none) ∧
      (WireCommand.set "k" [1] options).read? = some (.set (Utf8.encode "k") [1] none (some 1)) ∧
      ¬ written.LivesFor "k" [1] (.ofMilliseconds 1) := by
  intro options written
  have hget : written.answer (Memory.commands.get "k") = .ok (.ok none) := rfl
  refine ⟨rfl, hget, WireCommand.read?_set _ _ _, fun hlives => ?_⟩
  have hread := hlives [] 0 (by simp) rfl
  exact absurd (hget.symm.trans hread) (by simp [Duration.ofMilliseconds, Duration.perMillisecond])

end KeyRelay
