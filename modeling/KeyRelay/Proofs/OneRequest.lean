import KeyRelay.Keys.Operations
import KeyRelay.Keys.Recorder
import KeyRelay.Proofs.SpecChain
import KeyRelay.Proofs.StoredValue

/-!
# One request or none

An operation on values can fail in three places: before the backend is asked, at the
backend, and over the answer. This module says which failures belong where, for any
backend and any serializer. An operation that fails before has asked nothing
(`Declines`). Any other asks one thing, and all that is left to do with the answer is
to tell the caller (`Asks`).

Both are said of a backend that is recorded. The record is kept beside whatever the
backend does in its own monad, so the backend may answer and fail as it likes.
-/

namespace KeyRelay

/-! ## Requests on record -/

/-- A backend with a record of what it is asked. -/
def KeyCommands.recorded {m : Type → Type} [Monad m] (b : KeyCommands m) :
    KeyCommands (StateT Recording m) :=
  Recording.commands (b.lift StateT.lift)

section

variable {m : Type → Type} [Monad m] {A B C : Type}

/-- An operation that fails, and before which nothing was asked. -/
def Declines (operation : StateT Recording m (Except CommandError A)) (e : CommandError) : Prop :=
  ∀ before, operation.run { requests := before } = pure (.error e, { requests := before })

/-- An operation that makes one request, and tells its caller what comes of the answer. -/
def Asks (operation : StateT Recording m B) (request : Request) (answer : m A) (told : A → B) :
    Prop :=
  ∀ before, operation.run { requests := before } =
    (fun a => (told a, { requests := before ++ [request] })) <$> answer

theorem declines_pure (e : CommandError) :
    Declines (pure (.error e) : StateT Recording m (Except CommandError A)) e := by
  intro before
  rfl

variable [LawfulMonad m]

/-- A recorder that is not told to go wrong passes every answer on. -/
theorem asks_call (request : Request) (flip : Recording → A → A)
    (inner : m (Except CommandError A)) :
    Asks (Recording.call request flip (StateT.lift inner)) request inner id := by
  intro before
  unfold Recording.call
  simp only [monadStateOf_get_eq_get, StateT.run_bind, StateT.run_get, StateT.run_set, pure_bind,
    Bool.false_eq_true, reduceCtorEq, or_self, ↓reduceIte, StateT.run_lift, bind_pure_comp,
    bind_map_left]
  -- what is left of the recorder takes the answer apart and puts it together again
  rw [map_eq_pure_bind]
  refine bind_congr fun answer => ?_
  cases answer <;> rfl

/-- What is done with the answer to one request is told, and nothing more is asked. -/
theorem Asks.bind_pure {operation : StateT Recording m B} {request : Request} {answer : m A}
    {told : A → B} (h : Asks operation request answer told) (f : B → C) :
    Asks (operation >>= fun b => pure (f b)) request answer (f ∘ told) := by
  intro before
  rw [StateT.run_bind, h before, bind_map_left, map_eq_pure_bind]
  rfl

end

/-! ## What a chain asks for -/

namespace Draft

variable {S V : Type} [Spec S V]

/-- A call that was made had the comparison it needs, and one after which a comparison waits has
chosen an operator. -/
theorem waits_of_step {d next : Draft S} {step : SpecStep V} (h : d.step step = some next) :
    (step.onComparison → d.waits) ∧ (next.waits → step.operator?.isSome) := by
  cases step with
  | always =>
      obtain rfl := Option.some.inj h
      exact ⟨nofun, nofun⟩
  | ifEquals => exact ⟨nofun, fun _ => rfl⟩
  | ifNotEquals => exact ⟨nofun, fun _ => rfl⟩
  | value | digest | revert =>
      cases d with
      | spec s => exact absurd h nofun
      | comparison c =>
          obtain rfl := Option.some.inj h
          exact ⟨fun _ => rfl, nofun⟩

/-- **Only a chain that makes sense can be made.** -/
theorem isChain_of_steps {d last : Draft S} {before : SpecStep V} {steps : List (SpecStep V)}
    (h : d.steps steps = some last) (hwaits : d.waits → before.operator?.isSome) :
    List.IsChain SpecStep.Follows (before :: steps) := by
  induction steps generalizing d before with
  | nil => exact .singleton before
  | cons step rest ih =>
      obtain ⟨next, hnext, hrest⟩ := Option.bind_eq_some_iff.mp h
      obtain ⟨hneeds, hleaves⟩ := waits_of_step hnext
      exact .cons_cons (fun hon => hwaits (hneeds hon)) (ih hrest hleaves)

theorem waits_of_setStep {d next : Draft (SetSpec V)} {step : SetStep V}
    (h : d.setStep step = some next) :
    (step.onComparison → d.waits) ∧ (next.waits → step.operator?.isSome) := by
  cases step with
  | stage step => exact waits_of_step h
  | expire after =>
      obtain rfl := Option.some.inj h
      exact ⟨nofun, nofun⟩

theorem isChain_of_setSteps {d last : Draft (SetSpec V)} {before : SetStep V}
    {steps : List (SetStep V)} (h : d.setSteps steps = some last)
    (hwaits : d.waits → before.operator?.isSome) :
    List.IsChain SetStep.Follows (before :: steps) := by
  induction steps generalizing d before with
  | nil => exact .singleton before
  | cons step rest ih =>
      obtain ⟨next, hnext, hrest⟩ := Option.bind_eq_some_iff.mp h
      obtain ⟨hneeds, hleaves⟩ := waits_of_setStep hnext
      exact .cons_cons (fun hon => hwaits (hneeds hon)) (ih hrest hleaves)

end Draft

section

variable {V : Type}

/-- The condition that a chain of calls asks for, or why there is none. -/
def SpecStep.asked (serialize : V → Except CommandError Bytes) (steps : List (SpecStep V)) :
    Except CommandError (Option Condition) :=
  (verdict (m := Id) (sinceAlways steps) serialize).1

/-- There is none for want of a comparand, or because the comparand cannot be written. -/
theorem SpecStep.asked_error {serialize : V → Except CommandError Bytes}
    {steps : List (SpecStep V)} {e : CommandError} (h : asked serialize steps = .error e) :
    (∃ operator, lastOperator? (sinceAlways steps) = some operator ∧
        lastComparand? (sinceAlways steps) = none ∧ e = Staging.incomplete operator) ∨
      ∃ v, lastComparand? (sinceAlways steps) = some (.inl v) ∧ serialize v = .error e := by
  unfold asked verdict at h
  cases hoperator : lastOperator? (sinceAlways steps) with
  | none =>
      rw [hoperator] at h
      exact absurd h nofun
  | some operator =>
      rcases hcomparand : lastComparand? (sinceAlways steps) with _ | v | text
      · rw [hoperator, hcomparand] at h
        exact .inl ⟨operator, rfl, rfl, (Except.error.inj h).symm⟩
      · rw [hoperator, hcomparand] at h
        have hvalue : (serialize v).map (fun bytes => some (Condition.mk operator (.value bytes))) =
            .error e := h
        refine .inr ⟨v, rfl, ?_⟩
        cases hv : serialize v with
        | error e' =>
            rw [hv] at hvalue
            exact congrArg Except.error (Except.error.inj hvalue)
        | ok bytes =>
            rw [hv] at hvalue
            exact absurd hvalue nofun
      · rw [hoperator, hcomparand] at h
        exact absurd h nofun

variable {serialize : V → Except CommandError Bytes}

/-- To note the values that are serialized changes nothing. -/
theorem Staging.condition_eq_logged (s : Staging V) :
    s.condition (m := Id) serialize = ((s.condition (logged (m := Id) serialize)).run []).1 := by
  unfold Staging.condition
  cases s.staged with
  | always => rfl
  | pending => rfl
  | digest text => rfl
  | value v =>
      dsimp only
      rw [StateT.run_bind, logged_run]
      generalize serialize v = answer
      cases answer <;> rfl

/-- What a spec decides, it decides without a log. -/
theorem Spec.Decides.condition_eq {S : Type} [Spec S V] {s : S} {steps : List (SpecStep V)}
    (h : Spec.Decides (m := Id) s (SpecStep.sinceAlways steps) serialize) :
    Spec.condition (m := Id) s serialize = SpecStep.asked serialize steps := by
  have hrun := h.condition
  unfold Spec.condition at hrun ⊢
  rw [Staging.condition_eq_logged, hrun]
  rfl

variable (serialize) in
theorem Draft.condition_of_steps {steps : List (SpecStep V)} {d : Draft (DeleteSpec V)}
    (h : Draft.steps (.spec {}) steps = some d) :
    Spec.condition (m := Id) d.toSpec serialize = SpecStep.asked serialize steps := by
  have hsensible : SpecStep.Sensible steps := isChain_of_steps h nofun
  obtain ⟨last, hlast, hspec⟩ := Draft.steps_eq (.spec ({} : DeleteSpec V)) .always steps
    hsensible nofun
  obtain rfl : d = last := Option.some.inj (h.symm.trans hlast)
  exact (Spec.decides_of_calls (m := Id) (by rw [hspec]; rfl) hsensible serialize).condition_eq

variable (serialize) in
theorem Draft.condition_of_setSteps {steps : List (SetStep V)} {d : Draft (SetSpec V)}
    (h : Draft.setSteps (.spec {}) steps = some d) :
    Spec.condition (m := Id) d.toSpec serialize =
        SpecStep.asked serialize (SetStep.stages steps) ∧
      d.toSpec.expiration = SetStep.lastExpiration? steps := by
  have hsensible : SetStep.Sensible steps := isChain_of_setSteps h nofun
  obtain ⟨last, hlast, hspec⟩ := Draft.setSteps_eq (.spec ({} : SetSpec V)) (.stage .always) steps
    hsensible nofun
  obtain rfl : d = last := Option.some.inj (h.symm.trans hlast)
  have hstages : SpecStep.Sensible (SetStep.stages steps) :=
    SetStep.stages_isChain hsensible nofun
  refine ⟨?_, ?_⟩
  · exact (Spec.decides_of_calls (m := Id) (by rw [hspec]; rfl) hstages serialize).condition_eq
  · rw [hspec]
    exact Option.or_none

/-- Options fail as their condition does, and otherwise carry it. -/
theorem SetSpec.options_eq (s : SetSpec V) :
    s.options (m := Id) serialize =
      (Spec.condition (m := Id) s serialize).map fun c => ⟨c, s.expiration⟩ := by
  unfold SetSpec.options
  cases Spec.condition (m := Id) s serialize <;> rfl

end

/-! ## Operations on values -/

/-- What the caller of a `get` is told of the backend's answer. -/
def Serializer.told {V : Type} (s : Serializer V) :
    Except CommandError (Option Bytes) → Except CommandError (Option V)
  | .error e => .error e
  | .ok none => .ok none
  | .ok (some bytes) => (s.deserialize bytes).map some

namespace ValueOperations

variable {m : Type → Type} [Monad m] {V : Type} (ops : ValueOperations m V) {key : String}
  {value : V}

theorem setIf_eq_error_of_condition {spec : SetSpec V} {e : CommandError}
    (h : Spec.condition (m := Id) spec ops.serializer.serialize = .error e) :
    ops.setIf key value spec = pure (.error e) := by
  unfold setIf
  rw [SetSpec.options_eq, h]
  rfl

theorem setIf_eq_error_of_value {spec : SetSpec V} {c : Option Condition} {e : CommandError}
    (h : Spec.condition (m := Id) spec ops.serializer.serialize = .ok c)
    (hvalue : ops.serializer.serialize value = .error e) :
    ops.setIf key value spec = pure (.error e) := by
  unfold setIf
  rw [SetSpec.options_eq, h, hvalue]
  rfl

theorem setIf_eq_set {spec : SetSpec V} {c : Option Condition} {bytes : Bytes}
    (h : Spec.condition (m := Id) spec ops.serializer.serialize = .ok c)
    (hvalue : ops.serializer.serialize value = .ok bytes) :
    ops.setIf key value spec = ops.commands.set key bytes ⟨c, spec.expiration⟩ := by
  unfold setIf
  rw [SetSpec.options_eq, h, hvalue]
  rfl

theorem deleteIf_eq_error {spec : DeleteSpec V} {e : CommandError}
    (h : Spec.condition (m := Id) spec ops.serializer.serialize = .error e) :
    ops.deleteIf key spec = pure (.error e) := by
  unfold deleteIf
  rw [h]

theorem deleteIf_eq_delete {spec : DeleteSpec V} {c : Option Condition}
    (h : Spec.condition (m := Id) spec ops.serializer.serialize = .ok c) :
    ops.deleteIf key spec = ops.commands.delete key c := by
  unfold deleteIf
  rw [h]

theorem set_eq_error {e : CommandError} (hvalue : ops.serializer.serialize value = .error e) :
    ops.set key value = pure (.error e) := by
  unfold set
  rw [hvalue]

theorem set_eq_set {bytes : Bytes} (hvalue : ops.serializer.serialize value = .ok bytes) :
    ops.set key value =
      ops.commands.set key bytes {} >>= fun answer => pure (answer.map fun _ => ()) := by
  unfold set
  rw [hvalue]
  refine bind_congr fun answer => ?_
  cases answer <;> rfl

theorem get_eq :
    ops.get key = ops.commands.get key >>= fun answer => pure (ops.serializer.told answer) := by
  unfold get
  refine bind_congr fun answer => ?_
  rcases answer with e | _ | bytes <;> rfl

end ValueOperations

section

variable {m : Type → Type} [Monad m] [LawfulMonad m] {V : Type} (b : KeyCommands m)
  (s : Serializer V) (key : String)

theorem asks_get :
    Asks ((ValueOperations.mk b.recorded s).get key) (.get key) (b.get key) s.told := by
  rw [ValueOperations.get_eq]
  exact (asks_call (.get key) _ (b.get key)).bind_pure s.told

theorem asks_set {value : V} {bytes : Bytes} (hvalue : s.serialize value = .ok bytes) :
    Asks ((ValueOperations.mk b.recorded s).set key value) (.set key bytes {})
      (b.set key bytes {}) (·.map fun _ => ()) := by
  rw [ValueOperations.set_eq_set _ hvalue]
  exact (asks_call (.set key bytes {}) _ (b.set key bytes {})).bind_pure _

end

/-! ## The store in memory -/

/-- To come across a live entry takes nothing out. -/
theorem Store.evict_of_live {s : Store} {now : Instant} {key : String} {bytes : Bytes}
    (h : s.live? now key = some bytes) : s.evict now key = s := by
  unfold live? at h
  unfold evict
  cases hentry : s.entries.get? key with
  | none => rfl
  | some e =>
      rw [hentry] at h
      dsimp only at h ⊢
      by_cases hexpired : e.isExpired now = true
      · rw [if_pos hexpired] at h
        exact absurd h nofun
      · rw [if_neg hexpired]

theorem Memory.valued_get_run {V : Type} (s : Serializer V) (m : Memory) (key : String) :
    ((Memory.valued s).get key).run.run m =
      (.ok (s.told (.ok (m.live? key))), { m with store := m.store.evict m.now key }) := by
  unfold Memory.valued
  rw [ValueOperations.get_eq, Memory.run_bind]
  rfl

/-- **A value that cannot be read stays where it is.** -/
theorem Memory.valued_get_failed {V : Type} {s : Serializer V} {m m' : Memory} {key : String}
    {e : CommandError} (h : ((Memory.valued s).get key).run.run m = (.ok (.error e), m')) :
    m' = m := by
  rw [valued_get_run] at h
  obtain ⟨hanswer, rfl⟩ := Prod.mk.inj h
  cases hlive : m.live? key with
  | none =>
      -- nothing was found, so nothing was read
      rw [hlive] at hanswer
      exact absurd (Except.ok.inj hanswer) nofun
  | some bytes => rw [Store.evict_of_live hlive]

/--
**Every operation asks once, or fails before it asks.** Let a backend be any backend, in a monad of
its own, and a serializer any serializer.

* `get`, `delete` and `digest` cannot fail before they ask. `set` can if its value cannot be
  written.
* A conditional operation first makes the condition that its chain of calls asks for, which fails
  for want of a comparand or because the comparand cannot be written. A `setIf` then writes its
  value. The first of these failures is the one that its caller is told of.
* What is asked is about the key of the caller. It carries the value as it was written, the
  condition that was made, and the expiration that was asked for last; `set` and `delete` carry
  neither condition nor expiration.
* The answer is told as it is, except that `set` leaves out whether it wrote, and that the value
  that `get` finds is read, which may fail. The store in memory is then as it was.
-/
theorem operations_ask_once {m : Type → Type} [Monad m] [LawfulMonad m] {V : Type}
    (b : KeyCommands m) (s : Serializer V) (key : String) :
    let ops : ValueOperations (StateT Recording m) V := ⟨b.recorded, s⟩
    Asks (ops.get key) (.get key) (b.get key) s.told ∧
    (∀ value,
      (∀ e, s.serialize value = .error e → Declines (ops.set key value) e) ∧
      ∀ bytes, s.serialize value = .ok bytes →
        Asks (ops.set key value) (.set key bytes {}) (b.set key bytes {}) (·.map fun _ => ())) ∧
    (∀ value steps d, Draft.setSteps (.spec {}) steps = some d →
      let asked := SpecStep.asked s.serialize (SetStep.stages steps)
      (∀ e, asked = .error e → Declines (ops.setIf key value d.toSpec) e) ∧
      (∀ c e, asked = .ok c → s.serialize value = .error e →
        Declines (ops.setIf key value d.toSpec) e) ∧
      ∀ c bytes, asked = .ok c → s.serialize value = .ok bytes →
        let options : SetOptions := ⟨c, SetStep.lastExpiration? steps⟩
        Asks (ops.setIf key value d.toSpec) (.set key bytes options) (b.set key bytes options) id) ∧
    Asks (ops.delete key) (.delete key none) (b.delete key none) id ∧
    (∀ steps d, Draft.steps (.spec {}) steps = some d →
      let asked := SpecStep.asked s.serialize steps
      (∀ e, asked = .error e → Declines (ops.deleteIf key d.toSpec) e) ∧
      ∀ c, asked = .ok c →
        Asks (ops.deleteIf key d.toSpec) (.delete key c) (b.delete key c) id) ∧
    Asks (ops.digest key) (.digest key) (b.digest key) id ∧
    (∀ steps e, SpecStep.asked s.serialize steps = .error e →
      let since := SpecStep.sinceAlways steps
      (∃ operator, SpecStep.lastOperator? since = some operator ∧
          SpecStep.lastComparand? since = none ∧ e = Staging.incomplete operator) ∨
        ∃ v, SpecStep.lastComparand? since = some (.inl v) ∧ s.serialize v = .error e) ∧
    ∀ before after e,
      ((Memory.valued s).get key).run.run before = (.ok (.error e), after) → after = before := by
  intro ops
  refine ⟨asks_get b s key, fun value => ⟨?_, fun bytes => asks_set b s key⟩, ?_,
    asks_call _ _ _, ?_, asks_call _ _ _, fun steps e => SpecStep.asked_error,
    fun before after e => Memory.valued_get_failed⟩
  · intro e hvalue
    rw [ops.set_eq_error hvalue]
    exact declines_pure e
  · intro value steps d hd asked
    obtain ⟨hcondition, hexpiration⟩ := Draft.condition_of_setSteps s.serialize hd
    refine ⟨fun e he => ?_, fun c e hc hvalue => ?_, fun c bytes hc hvalue => ?_⟩
    · rw [ops.setIf_eq_error_of_condition (hcondition.trans he)]
      exact declines_pure e
    · rw [ops.setIf_eq_error_of_value (hcondition.trans hc) hvalue]
      exact declines_pure e
    · rw [ops.setIf_eq_set (hcondition.trans hc) hvalue, hexpiration]
      exact asks_call _ _ _
  · intro steps d hd asked
    have hcondition := Draft.condition_of_steps s.serialize hd
    refine ⟨fun e he => ?_, fun c hc => ?_⟩
    · rw [ops.deleteIf_eq_error (hcondition.trans he)]
      exact declines_pure e
    · rw [ops.deleteIf_eq_delete (hcondition.trans hc)]
      exact asks_call _ _ _

/-- With a serializer that refuses some texts: an incomplete condition, a comparand that is refused
before the value is, a value that is refused, and a request. -/
theorem operations_ask_once_angled :
    let ops : ValueOperations (StateT Recording MemoryM) String :=
      ⟨Memory.commands.recorded, .angled⟩
    let given (comparand : String) : List (SetStep String) :=
      [.expire ⟨7⟩, .stage .ifNotEquals, .stage (.value comparand)]
    (∃ d, Draft.setSteps (.spec {}) [.stage .ifEquals] = some d ∧
      Declines (ops.setIf "k" "bad" d.toSpec) (Staging.incomplete .equals)) ∧
    (∃ d, Draft.setSteps (.spec {}) (given "bad one") = some d ∧
      Declines (ops.setIf "k" "bad two" d.toSpec) (.serialization "cannot write bad one")) ∧
    ∃ d, Draft.setSteps (.spec {}) (given "old") = some d ∧
      Declines (ops.setIf "k" "bad two" d.toSpec) (.serialization "cannot write bad two") ∧
      let options : SetOptions := ⟨some (.ifNotEquals (Utf8.encode "<old>")), some ⟨7⟩⟩
      Asks (ops.setIf "k" "new" d.toSpec) (.set "k" (Utf8.encode "<new>") options)
        (Memory.commands.set "k" (Utf8.encode "<new>") options) id := by
  intro ops given
  obtain ⟨-, -, hset, -⟩ := operations_ask_once Memory.commands Serializer.angled "k"
  refine ⟨⟨_, rfl, ?_⟩, ⟨_, rfl, ?_⟩, _, rfl, ?_, ?_⟩
  · obtain ⟨hcondition, -, -⟩ := hset "bad" [.stage .ifEquals] _ rfl
    exact hcondition _ rfl
  · obtain ⟨hcondition, -, -⟩ := hset "bad two" (given "bad one") _ rfl
    exact hcondition _ rfl
  · obtain ⟨-, hvalue, -⟩ := hset "bad two" (given "old") _ rfl
    exact hvalue _ _ rfl rfl
  · obtain ⟨-, -, hasks⟩ := hset "new" (given "old") _ rfl
    exact hasks _ _ rfl rfl

end KeyRelay
