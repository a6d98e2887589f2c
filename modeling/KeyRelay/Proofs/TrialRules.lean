import KeyRelay.Keys.Conformance
import KeyRelay.Proofs.DigestConditions
import Mathlib.Logic.Function.Basic

/-!
# Trials on the backend in memory

A trial is a row of calls with checks between them. On the backend in memory it depends
on the clock and on what the keys show, and it changes what they show one key at a time.
So a trial can be followed on a view of the memory (`Goes`): there is one rule for each
kind of call, and a rule for making one step after another, which is all it takes to go
through a trial from its first line to its last.

Time stands still while a trial runs. That is why a rule speaks of one time, and why an
entry that counts now goes on to count for the rest of the trial.
-/

namespace KeyRelay.Conformance

/-- What a memory shows under its keys. -/
abbrev View := String → Option Entry

/-- At this time a trial goes through, from what one view shows to what another does, and comes to
`a`. -/
def Goes {A : Type} (now : Instant) (t : Trial MemoryM A) (f : View) (a : A) (f' : View) : Prop :=
  ∀ m : Memory, m.now = now → m.entry = f →
    ∃ m', t.run.run.run m = (.ok (.ok a), m') ∧ m'.now = now ∧ m'.entry = f'

variable {A B : Type} {now : Instant} {f f' f'' : View}

/-! ## Steps of a trial -/

theorem goes_pure (a : A) : Goes now (pure a) f a f :=
  fun m hnow hentry => ⟨m, rfl, hnow, hentry⟩

/-- One step after another. -/
theorem Goes.bind {t : Trial MemoryM A} {next : A → Trial MemoryM B} {a : A} {b : B}
    (h : Goes now t f a f') (hnext : Goes now (next a) f' b f'') :
    Goes now (t >>= next) f b f'' := by
  intro m hnow hentry
  obtain ⟨m₁, hrun, hnow₁, hentry₁⟩ := h m hnow hentry
  obtain ⟨m₂, hrun₂, hnow₂, hentry₂⟩ := hnext m₁ hnow₁ hentry₁
  refine ⟨m₂, ?_, hnow₂, hentry₂⟩
  rw [ExceptT.run_bind, Memory.run_bind, hrun]
  exact hrun₂

theorem goes_check {kept : Bool} (h : kept = true) (message : Option String) :
    Goes now (check message kept) f () f := by
  rw [check, if_pos h]
  exact goes_pure ()

/-- A call that is answered is a step. -/
theorem goes_answer {call : MemoryM (Except CommandError A)} {a : A}
    (h : ∀ m : Memory, m.now = now → m.entry = f →
      ∃ m', call.run.run m = (.ok (.ok a), m') ∧ m'.now = now ∧ m'.entry = f') :
    Goes now (answer call) f a f' := by
  intro m hnow hentry
  obtain ⟨m', hrun, hnow', hentry'⟩ := h m hnow hentry
  refine ⟨m', ?_, hnow', hentry'⟩
  have hlift : (liftM call : Trial MemoryM (Except CommandError A)).run.run.run m =
      (.ok (.ok (.ok a)), m') := by
    show (call >>= fun result =>
      (pure (.ok result) : MemoryM (Except Failure (Except CommandError A)))).run.run m = _
    rw [Memory.run_bind, hrun]
    rfl
  rw [answer, ExceptT.run_bind, Memory.run_bind, hlift]
  rfl

/-- A loop, every round of which leaves everything as it is. -/
theorem goes_forIn {C : Type} {cs : List C} {round : C → PUnit → Trial MemoryM (ForInStep PUnit)}
    (h : ∀ c ∈ cs, Goes now (round c PUnit.unit) f (.yield PUnit.unit) f) :
    Goes now (forIn cs PUnit.unit round) f PUnit.unit f := by
  induction cs with
  | nil => exact goes_pure _
  | cons c rest ih =>
      rw [List.forIn_cons]
      refine Goes.bind (h c List.mem_cons_self) ?_
      exact ih fun other hother => h other (List.mem_cons_of_mem _ hother)

/-! ## Calls -/

/-- Whether a write goes through on a key that shows this. -/
def allowsOn (found : Option Entry) : Option Condition → Bool
  | none => true
  | some c =>
    match found with
    | some e => c.holds e.value
    | none => c.holdsForMissing

/-- Whether a delete goes through on a key that shows this. -/
def removes (found : Option Entry) (condition : Option Condition) : Bool :=
  match found with
  | some e => condition.all (·.holds e.value)
  | none => false

theorem live?_of_entry {m : Memory} (hentry : m.entry = f) (k : String) :
    m.store.live? m.now k = (f k).map (·.value) := by
  rw [Store.live?_eq, ← hentry]
  rfl

theorem allows_eq {m : Memory} (hentry : m.entry = f) (k : String) (condition : Option Condition) :
    m.store.allows m.now k condition = allowsOn (f k) condition := by
  cases condition with
  | none => rfl
  | some c =>
      unfold Store.allows allowsOn
      rw [live?_of_entry hentry]
      cases f k <;> rfl

theorem delete_fst_eq {m : Memory} (hentry : m.entry = f) (k : String)
    (condition : Option Condition) :
    (m.store.delete m.now k condition).1 = removes (f k) condition := by
  unfold Store.delete removes
  rw [live?_of_entry hentry]
  cases f k with
  | none => rfl
  | some e =>
      dsimp only [Option.map_some]
      cases condition.all (·.holds e.value) <;> rfl

variable {name value : String}

theorem goes_get : Goes now (get Memory.commands name) f ((f (key name)).map (·.value)) f := by
  refine goes_answer fun m hnow hentry => ?_
  refine ⟨{ m with store := m.store.evict m.now (key name) }, ?_, hnow, ?_⟩
  · rw [← live?_of_entry hentry]
    rfl
  · rw [← hentry]
    funext k
    exact m.store.entryAt_evict m.now (key name) k

/-- To ask for the digest of a key is to ask for its value. -/
theorem goes_answer_digest :
    Goes now (answer (Memory.commands.digest (key name))) f
      ((f (key name)).map fun e => valueDigest e.value) f := by
  refine goes_answer fun m hnow hentry => ?_
  refine ⟨{ m with store := m.store.evict m.now (key name) }, ?_, hnow, ?_⟩
  · have hlive := congrArg (Option.map valueDigest) (live?_of_entry hentry (key name))
    rw [Option.map_map] at hlive
    show (Except.ok (Except.ok ((m.store.live? m.now (key name)).map valueDigest)), _) = _
    rw [hlive]
    rfl
  · rw [← hentry]
    funext k
    exact m.store.entryAt_evict m.now (key name) k

theorem goes_digest {e : Entry} (hfound : f (key name) = some e) (message : String) :
    Goes now (digest Memory.commands message name) f (valueDigest e.value) f := by
  have hanswer : Goes now (answer (Memory.commands.digest (key name))) f _ f := goes_answer_digest
  rw [hfound] at hanswer
  exact hanswer.bind (goes_pure _)

/-- A write that is allowed, and whose deadline is still to come. -/
theorem goes_set {options : SetOptions}
    (hallowed : allowsOn (f (key name)) options.condition = true)
    (hlasts : ∀ deadline, options.deadline now = some deadline →
      now < deadline ∧ deadline < Instant.limit) :
    Goes now (set Memory.commands name value options) f true
      (Function.update f (key name) (some ⟨Utf8.encode value, options.deadline now⟩)) := by
  refine goes_answer fun m hnow hentry => ?_
  subst hnow
  have hfits : options.fits m.now = true := by
    rw [SetOptions.fits, Option.all_eq_true]
    exact fun deadline hdeadline => decide_eq_true (hlasts deadline hdeadline).2
  have hlives : Entry.lives m.now ⟨Utf8.encode value, options.deadline m.now⟩ = true :=
    Entry.lives_iff.mpr fun deadline hdeadline => (hlasts deadline hdeadline).1
  have hrun := Memory.set_run m (key name) (Utf8.encode value) options
  rw [allows_eq hentry, if_pos hallowed, if_pos hfits] at hrun
  refine ⟨_, hrun, rfl, ?_⟩
  funext k
  refine (Store.entryAt_insert _ _ _ _ _).trans ?_
  rw [Function.update_apply, Option.filter_some_pos hlives, ← hentry]
  simp only [eq_comm (a := k)]
  rfl

theorem goes_set_refused {options : SetOptions}
    (hrefused : allowsOn (f (key name)) options.condition = false) :
    Goes now (set Memory.commands name value options) f false f := by
  refine goes_answer fun m hnow hentry => ?_
  have hrun := Memory.set_run m (key name) (Utf8.encode value) options
  rw [allows_eq hentry, if_neg (by simp [hrefused])] at hrun
  exact ⟨m, hrun, hnow, hentry⟩

theorem goes_delete {condition : Option Condition}
    (hallowed : removes (f (key name)) condition = true) :
    Goes now (delete Memory.commands name condition) f true
      (Function.update f (key name) none) := by
  refine goes_answer fun m hnow hentry => ?_
  have hdeleted : (m.store.delete m.now (key name) condition).1 = true :=
    (delete_fst_eq hentry _ _).trans hallowed
  refine ⟨{ m with store := (m.store.delete m.now (key name) condition).2 }, ?_, hnow, ?_⟩
  · rw [← hdeleted]
    rfl
  · funext k
    refine (Store.entryAt_delete _ _ _ _ _).trans ?_
    rw [Function.update_apply, ← hentry]
    simp only [hdeleted, true_and, eq_comm (a := k)]
    rfl

theorem goes_delete_refused {condition : Option Condition}
    (hrefused : removes (f (key name)) condition = false) :
    Goes now (delete Memory.commands name condition) f false f := by
  refine goes_answer fun m hnow hentry => ?_
  have hkept : (m.store.delete m.now (key name) condition).1 = false :=
    (delete_fst_eq hentry _ _).trans hrefused
  refine ⟨{ m with store := (m.store.delete m.now (key name) condition).2 }, ?_, hnow, ?_⟩
  · rw [← hkept]
    rfl
  · rw [← hentry]
    funext k
    refine (Store.entryAt_delete _ _ _ _ _).trans ?_
    rw [if_neg (by simp [hkept])]
    rfl

/-! ## Calls by what they find -/

variable {e : Entry} {c : Condition}

/-- A write in any case and for good. -/
theorem goes_put :
    Goes now (set Memory.commands name value {}) f true
      (Function.update f (key name) (some ⟨Utf8.encode value, none⟩)) :=
  goes_set rfl nofun

/-- A write of a key that is there, under a condition that holds. -/
theorem goes_setGiven (hfound : f (key name) = some e) (hholds : c.holds e.value = true) :
    Goes now (set Memory.commands name value (given c)) f true
      (Function.update f (key name) (some ⟨Utf8.encode value, none⟩)) :=
  goes_set (by rw [hfound]; exact hholds) nofun

theorem goes_setGiven_refused (hfound : f (key name) = some e) (hfails : c.holds e.value = false) :
    Goes now (set Memory.commands name value (given c)) f false f :=
  goes_set_refused (by rw [hfound]; exact hfails)

/-- A write of a missing key, under a condition that asks for difference. -/
theorem goes_setGiven_missing (hmissing : f (key name) = none)
    (hholds : c.holdsForMissing = true) :
    Goes now (set Memory.commands name value (given c)) f true
      (Function.update f (key name) (some ⟨Utf8.encode value, none⟩)) :=
  goes_set (by rw [hmissing]; exact hholds) nofun

theorem goes_setGiven_missing_refused (hmissing : f (key name) = none)
    (hfails : c.holdsForMissing = false) :
    Goes now (set Memory.commands name value (given c)) f false f :=
  goes_set_refused (by rw [hmissing]; exact hfails)

/-- A delete of a key that is there, in any case. -/
theorem goes_remove (hfound : f (key name) = some e) :
    Goes now (delete Memory.commands name none) f true (Function.update f (key name) none) :=
  goes_delete (by rw [hfound]; rfl)

/-- A delete of a key that is there, under a condition that holds. -/
theorem goes_deleteGiven (hfound : f (key name) = some e) (hholds : c.holds e.value = true) :
    Goes now (delete Memory.commands name (some c)) f true (Function.update f (key name) none) :=
  goes_delete (by rw [hfound]; exact hholds)

theorem goes_deleteGiven_refused (hfound : f (key name) = some e)
    (hfails : c.holds e.value = false) :
    Goes now (delete Memory.commands name (some c)) f false f :=
  goes_delete_refused (by rw [hfound]; exact hfails)

/-- A missing key is never removed. -/
theorem goes_delete_missing (hmissing : f (key name) = none) (condition : Option Condition) :
    Goes now (delete Memory.commands name condition) f false f :=
  goes_delete_refused (by rw [hmissing]; rfl)

/-! ## What a trial looks at -/

theorem goes_holds (hfound : f (key name) = some e)
    (hvalue : e.value = Utf8.encode value) :
    Goes now (holds Memory.commands name value) f () f := by
  have hget : Goes now (get Memory.commands name) f _ f := goes_get
  rw [hfound] at hget
  exact hget.bind (goes_check (by simp [hvalue]) _)

theorem goes_absent (hmissing : f (key name) = none) (message : Option String) :
    Goes now (absent Memory.commands message name) f () f := by
  have hget : Goes now (get Memory.commands name) f _ f := goes_get
  rw [hmissing] at hget
  exact hget.bind (goes_check rfl _)

end KeyRelay.Conformance
