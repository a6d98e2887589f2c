import KeyRelay.Proofs.EndpointRecord
import KeyRelay.Proofs.RegistryStep

/-!
# Starting and stopping all endpoints

A registry that is started or stopped goes along all its endpoints. It skips those that
are as they should be, tries the others, and goes on whatever comes of a try. The two
walks differ only in what they are after, and are treated as one (`switchEach`).

`Swept` says what such a walk leaves, endpoint by endpoint: one that was skipped is as
it was, and of one that was tried there is an `Attempt` on record, with all that was
asked of its resolver and its container. `switchEach_swept` says that the walk is that,
in whatever world: the attempts are those that would be made on the endpoints in
question alone, and nothing else is asked of anyone.
-/

namespace KeyRelay

/-! ## One try -/

theorem Stage.ne_unregistered {stage : Stage} {b : Binding} (h : stage.binding? = some b) :
    stage ≠ .unregistered := by
  rintro rfl
  exact absurd h (by simp [binding?])

/-- A call on an endpoint, with its result and its errands, and the endpoint after it. -/
structure Attempt where
  endpoint : Endpoint
  turn : Turn
  after : Endpoint
deriving DecidableEq, Repr

namespace Attempt

/-- What is reported of it, if it failed. -/
def failure? (a : Attempt) : Option EndpointFailure :=
  match a.turn.result with
  | .ok () => none
  | .error failure => some ⟨a.endpoint.id, failure⟩

def failed (a : Attempt) : Bool := a.failure?.isSome

end Attempt

section

variable {W : Type} {env : Environment W}

theorem noted_of_run {A : Type} {effect : StateM W A} {errand : A → Errand} {w w' : W} {a : A}
    (h : effect.run w = (a, w')) (log : List Errand) :
    (noted effect errand).run (w, log) = (a, (w', log ++ [errand a])) := by
  obtain ⟨rfl, rfl⟩ := Prod.mk.inj h
  rfl

namespace Endpoint

/-- What is on record from before makes no difference to a call. -/
theorem Step.relog {e e' : Endpoint} {w w' : W} {call : EndpointCall}
    {result : Except ListenerError Unit} {errands : List Errand}
    (h : Step env.noting e (w, []) call result e' (w', errands)) (log : List Errand) :
    Step env.noting e (w, log) call result e' (w', log ++ errands) := by
  -- who asks for nothing leaves the record alone, and the others are answered as without one
  cases h with
  | unmade hstage hcreate =>
      obtain ⟨hrun, rfl⟩ := noted_run hcreate
      exact .unmade hstage (noted_of_run hrun log)
  | registered hstage hcreate =>
      obtain ⟨hrun, rfl⟩ := noted_run hcreate
      exact .registered hstage (noted_of_run hrun log)
  | again hstage => rw [List.append_nil]; exact .again hstage
  | early hstage => rw [List.append_nil]; exact .early hstage
  | running hstage => rw [List.append_nil]; exact .running hstage
  | unresolved hb hresolve =>
      obtain ⟨hrun, rfl⟩ := noted_run hresolve
      exact .unresolved hb (noted_of_run hrun log)
  | refused hb hresolve hsubscribe =>
      obtain ⟨hrun, hfirst⟩ := noted_run hresolve
      obtain ⟨hrun', rfl⟩ := noted_run hsubscribe
      rw [hfirst, List.nil_append, ← List.append_assoc]
      exact .refused hb (noted_of_run hrun log) (noted_of_run hrun' _)
  | started hb hresolve hsubscribe =>
      obtain ⟨hrun, hfirst⟩ := noted_run hresolve
      obtain ⟨hrun', rfl⟩ := noted_run hsubscribe
      rw [hfirst, List.nil_append, ← List.append_assoc]
      exact .started hb (noted_of_run hrun log) (noted_of_run hrun' _)
  | idle hstage => rw [List.append_nil]; exact .idle hstage
  | kept hstage hunsubscribe =>
      obtain ⟨hrun, rfl⟩ := noted_run hunsubscribe
      exact .kept hstage (noted_of_run hrun log)
  | stopped hstage hunsubscribe =>
      obtain ⟨hrun, rfl⟩ := noted_run hunsubscribe
      exact .stopped hstage (noted_of_run hrun log)

variable (env) in
/-- Makes a call on an endpoint and keeps a record of it. -/
def attempt (call : EndpointCall) (e : Endpoint) : StateM W Attempt := fun w =>
  let out := (e.call env.noting call).run (w, [])
  (⟨e, ⟨call, out.1.1, out.2.2⟩, out.1.2⟩, out.2.1)

/-- An attempt is the call, be it watched or not. -/
theorem call_of_attempt {e : Endpoint} {call : EndpointCall} {w w' : W} {a : Attempt}
    (h : (e.attempt env call).run w = (a, w')) :
    (e.call env call).run w = ((a.turn.result, a.after), w') ∧
      ∀ log, (e.call env.noting call).run (w, log) =
        ((a.turn.result, a.after), (w', log ++ a.turn.errands)) := by
  have hstep := step_call env.noting e call (w, [])
  obtain ⟨rfl, rfl⟩ := Prod.mk.inj h
  exact ⟨hstep.unnoted.run_eq, fun log => (hstep.relog log).run_eq⟩

/-- What a start or a stop that is not idle asks for, on behalf of an endpoint and its binding, and
what comes of it. -/
inductive Tried (e : Endpoint) (b : Binding) : Turn → Endpoint → Prop where
  | unresolved {failure : ListenerError} :
      Tried e b ⟨.start, .error failure, [.resolve e.resolver e.topic (.error failure)]⟩ e
  | refused {topic : Topic} {failure : ListenerError} :
      Tried e b ⟨.start, .error failure, [.resolve e.resolver e.topic (.ok topic),
        .subscribe b.container b.listener topic (.error failure)]⟩ e
  | started {topic : Topic} :
      Tried e b ⟨.start, .ok (), [.resolve e.resolver e.topic (.ok topic),
        .subscribe b.container b.listener topic (.ok ())]⟩ ((e.reach (.running b)).tell true)
  | kept {failure : ListenerError} :
      Tried e b ⟨.stop, .error failure,
        [.unsubscribe b.container b.listener (.error failure)]⟩ e
  | stopped :
      Tried e b ⟨.stop, .ok (), [.unsubscribe b.container b.listener (.ok ())]⟩
        ((e.reach (.stopped b)).tell false)

variable (env) in
/-- **A try is on behalf of the endpoint's own binding.** -/
theorem tried_attempt {e : Endpoint} {b : Binding} (hbound : e.lifecycle.binding? = some b)
    (htruthful : e.Truthful) {on : Bool} (hdue : e.isRunning ≠ on) (w : W) :
    e.Tried b ((e.attempt env (.switch on)).run w).1.turn
      ((e.attempt env (.switch on)).run w).1.after := by
  have hstep := step_call env.noting e (.switch on) (w, [])
  show e.Tried b ⟨.switch on, ((e.call env.noting (.switch on)).run (w, [])).1.1,
    ((e.call env.noting (.switch on)).run (w, [])).2.2⟩
    ((e.call env.noting (.switch on)).run (w, [])).1.2
  -- an attempt is a call that is watched from an empty record on
  generalize (e.call env.noting (.switch on)).run (w, []) = out at hstep ⊢
  obtain ⟨⟨result, e'⟩, w', errands⟩ := out
  dsimp only at hstep ⊢
  have hregistered : e.stage ≠ .unregistered := Stage.ne_unregistered hbound
  have hown : ∀ {b'}, e.stage.binding? = some b' → b' = b := fun h =>
    Option.some.inj (h.symm.trans hbound)
  cases on with
  | true =>
      rw [show EndpointCall.switch true = .start from rfl] at hstep ⊢
      cases hstep with
      | early hstage => exact absurd hstage hregistered
      | running hstage =>
          rw [htruthful, active?_of_running hstage] at hdue
          exact absurd rfl hdue
      | unresolved hb hresolve =>
          obtain ⟨-, rfl⟩ := noted_run hresolve
          exact .unresolved
      | refused hb hresolve hsubscribe =>
          obtain ⟨-, hfirst⟩ := noted_run hresolve
          obtain ⟨-, rfl⟩ := noted_run hsubscribe
          obtain rfl := hown (Stage.binding?_of_startable hb).1
          rw [hfirst]
          exact .refused
      | started hb hresolve hsubscribe =>
          obtain ⟨-, hfirst⟩ := noted_run hresolve
          obtain ⟨-, rfl⟩ := noted_run hsubscribe
          obtain rfl := hown (Stage.binding?_of_startable hb).1
          rw [hfirst]
          exact .started
  | false =>
      rw [show EndpointCall.switch false = .stop from rfl] at hstep ⊢
      cases hstep with
      | idle hstage =>
          rw [htruthful, active?_of_not_running hstage] at hdue
          exact absurd rfl hdue
      | kept hstage hunsubscribe =>
          obtain ⟨-, rfl⟩ := noted_run hunsubscribe
          obtain rfl := hown (congrArg Stage.binding? hstage)
          exact .kept
      | stopped hstage hunsubscribe =>
          obtain ⟨-, rfl⟩ := noted_run hunsubscribe
          obtain rfl := hown (congrArg Stage.binding? hstage)
          exact .stopped

variable {e e' : Endpoint} {b : Binding} {t : Turn}

/-- What an endpoint is and what it is bound to. -/
def identity (e : Endpoint) : Endpoint × Option Binding := (e.sheet, e.lifecycle.binding?)

theorem Same.identity (h : e.Same e') : e'.identity = e.identity :=
  Prod.ext h.sheet h.binding

theorem Tried.same (h : e.Tried b t e') (hbound : e.lifecycle.binding? = some b) : e.Same e' := by
  cases h with
  | started => exact ⟨rfl, hbound.symm⟩
  | stopped => exact ⟨rfl, hbound.symm⟩
  | _ => exact ⟨rfl, rfl⟩

theorem Tried.truthful (h : e.Tried b t e') (htruthful : e.Truthful) : e'.Truthful := by
  cases h with
  | started => rfl
  | stopped => rfl
  | _ => exact htruthful

/-- **A try succeeds, or it leaves the endpoint as it was.** -/
theorem Tried.cases_result (h : e.Tried b t e') {on : Bool} (hcall : t.call = .switch on) :
    (t.result = .ok () ∧ e'.isRunning = on) ∨ ∃ failure, t.result = .error failure ∧ e' = e := by
  cases h with
  | started =>
      cases on with
      | true => exact .inl ⟨rfl, rfl⟩
      | false => exact absurd hcall (by simp [EndpointCall.switch])
  | stopped =>
      cases on with
      | true => exact absurd hcall (by simp [EndpointCall.switch])
      | false => exact .inl ⟨rfl, rfl⟩
  | _ => exact .inr ⟨_, rfl, rfl⟩

end Endpoint

end

/-! ## Going along all endpoints -/

/-- The endpoints before and after all of them were to be made to run (or to stop), and the attempts
that were made. -/
inductive Swept (on : Bool) : List Endpoint → List Attempt → List Endpoint → Prop where
  | nil : Swept on [] [] []
  /-- An endpoint that is as it should be is skipped. -/
  | skipped {e : Endpoint} {es es' : List Endpoint} {attempts : List Attempt} :
      e.isRunning = on → Swept on es attempts es' → Swept on (e :: es) attempts (e :: es')
  | tried {e e' : Endpoint} {b : Binding} {t : Turn} {es es' : List Endpoint}
      {attempts : List Attempt} :
      e.isRunning ≠ on → e.lifecycle.binding? = some b → t.call = .switch on → e.Tried b t e' →
      Swept on es attempts es' → Swept on (e :: es) (⟨e, t, e'⟩ :: attempts) (e' :: es')

namespace Swept

variable {on : Bool} {es es' : List Endpoint} {attempts : List Attempt}

/-- Each endpoint in question is tried once, and they are tried in their order. -/
theorem order (h : Swept on es attempts es') :
    attempts.map (·.endpoint) = es.filter (·.isRunning != on) := by
  induction h with
  | nil => rfl
  | skipped hdone _ ih => rw [List.filter_cons_of_neg (by simp [hdone]), ih]
  | tried hdue _ _ _ _ ih =>
      rw [List.filter_cons_of_pos (by simpa using hdue), List.map_cons, ih]

theorem kept (h : Swept on es attempts es') :
    ∀ e ∈ es, e.isRunning = on → e ∈ es' := by
  induction h with
  | nil => simp
  | skipped _ _ ih =>
      intro e he hdone
      rcases List.mem_cons.mp he with rfl | he
      · exact List.mem_cons_self
      · exact List.mem_cons_of_mem _ (ih e he hdone)
  | tried hdue _ _ _ _ ih =>
      intro e he hdone
      rcases List.mem_cons.mp he with rfl | he
      · exact absurd hdone hdue
      · exact List.mem_cons_of_mem _ (ih e he hdone)

/-- Those that are not as they should be are those whose try failed. -/
theorem remaining (h : Swept on es attempts es') :
    es'.filter (·.isRunning != on) = (attempts.filter (·.failed)).map (·.endpoint) := by
  induction h with
  | nil => rfl
  | skipped hdone _ ih => rw [List.filter_cons_of_neg (by simp [hdone]), ih]
  | @tried e e' b t es es' attempts hdue _ hcall htried _ ih =>
      rcases htried.cases_result hcall with ⟨hresult, hrunning⟩ | ⟨failure, hresult, rfl⟩
      · have hfailed : ¬ Attempt.failed ⟨e, t, e'⟩ = true := by
          simp [Attempt.failed, Attempt.failure?, hresult]
        rw [List.filter_cons_of_neg (by simp [hrunning]), List.filter_cons_of_neg hfailed, ih]
      · have hfailed : Attempt.failed ⟨e', t, e'⟩ = true := by
          simp [Attempt.failed, Attempt.failure?, hresult]
        rw [List.filter_cons_of_pos (by simpa using hdue), List.filter_cons_of_pos hfailed,
          List.map_cons, ih]

theorem identities (h : Swept on es attempts es') :
    es'.map Endpoint.identity = es.map Endpoint.identity := by
  induction h with
  | nil => rfl
  | skipped _ _ ih => rw [List.map_cons, List.map_cons, ih]
  | tried _ hbound _ htried _ ih =>
      rw [List.map_cons, List.map_cons, ih, (htried.same hbound).identity]

theorem truthful (h : Swept on es attempts es') (htruthful : ∀ e ∈ es, e.Truthful) :
    ∀ e ∈ es', e.Truthful := by
  induction h with
  | nil => simp
  | skipped _ _ ih =>
      rw [List.forall_mem_cons] at htruthful ⊢
      exact ⟨htruthful.1, ih htruthful.2⟩
  | tried _ _ _ htried _ ih =>
      rw [List.forall_mem_cons] at htruthful ⊢
      exact ⟨htried.truthful htruthful.1, ih htruthful.2⟩

end Swept

/-- The caller is told of the first try that failed. -/
theorem verdict_filterMap (attempts : List Attempt) :
    EndpointFailure.verdict (attempts.filterMap Attempt.failure?) =
      ((attempts.find? (·.failed)).elim (.ok ()) (·.turn.result)) := by
  induction attempts with
  | nil => rfl
  | cons a rest ih =>
      cases hresult : a.turn.result with
      | ok _ =>
          have hnone : a.failure? = none := by rw [Attempt.failure?, hresult]
          rw [List.filterMap_cons_none hnone, ih,
            List.find?_cons_of_neg (by simp [Attempt.failed, hnone])]
      | error failure =>
          have hsome : a.failure? = some ⟨a.endpoint.id, failure⟩ := by
            rw [Attempt.failure?, hresult]
          rw [List.filterMap_cons_some hsome,
            List.find?_cons_of_pos (by simp [Attempt.failed, hsome])]
          exact hresult.symm

theorem verdict_eq_ok_iff (attempts : List Attempt) :
    EndpointFailure.verdict (attempts.filterMap Attempt.failure?) = .ok () ↔
      attempts.filter (·.failed) = [] := by
  rw [List.filter_eq_nil_iff]
  constructor
  · intro h a ha hfailed
    obtain ⟨failure, hfailure⟩ := Option.isSome_iff_exists.mp hfailed
    have hin : failure ∈ attempts.filterMap Attempt.failure? :=
      List.mem_filterMap.mpr ⟨a, ha, hfailure⟩
    cases hfailures : attempts.filterMap Attempt.failure? with
    | nil => rw [hfailures] at hin; exact absurd hin List.not_mem_nil
    | cons first rest => rw [hfailures] at h; exact absurd h (by simp [EndpointFailure.verdict])
  · intro h
    have hnone : attempts.filterMap Attempt.failure? = [] :=
      List.filterMap_eq_nil_iff.mpr fun a ha => by
        simpa [Attempt.failed] using h a ha
    rw [hnone]
    rfl

namespace Registry

section

variable {W : Type} (env : Environment W)

/-- Makes all endpoints run, or makes them all stop. -/
def switch (r : Registry) (on : Bool) : StateM W (List EndpointFailure × Registry) := do
  let (failures, endpoints) ← switchEach env on r.endpoints
  return (failures, { r with endpoints, running := on })

theorem start_eq (r : Registry) : r.start env = r.switch env true := by
  rw [start, switch, startEach_eq]

theorem stop_eq (r : Registry) : r.stop env = r.switch env false := by
  rw [stop, switch, stopEach_eq]

/-- One attempt on each endpoint in turn, whatever the earlier ones came to. -/
def attemptEach (on : Bool) (es : List Endpoint) : StateM W (List Attempt) :=
  es.mapM (·.attempt env (.switch on))

variable {env}

/-- One more endpoint that is tried: the walk goes on in the world that the try left, and the try is
reported if it failed. -/
theorem run_switchEach_cons {on : Bool} {a : Attempt} {rest es' : List Endpoint}
    {attempts : List Attempt} {w w₁ w' : W} (hdue : a.endpoint.isRunning ≠ on)
    (hid : a.after.id = a.endpoint.id)
    (hcall : (a.endpoint.call env (.switch on)).run w = ((a.turn.result, a.after), w₁))
    (hrest : (switchEach env on rest).run w₁ = ((attempts.filterMap Attempt.failure?, es'), w')) :
    (switchEach env on (a.endpoint :: rest)).run w =
      (((a :: attempts).filterMap Attempt.failure?, a.after :: es'), w') := by
  rw [switchEach, if_neg hdue, run_bind_of hcall]
  refine (run_bind_of hrest).trans ?_
  cases hresult : a.turn.result with
  | ok _ =>
      have hnone : a.failure? = none := by rw [Attempt.failure?, hresult]
      rw [List.filterMap_cons_none hnone]
      rfl
  | error failure =>
      have hsome : a.failure? = some ⟨a.endpoint.id, failure⟩ := by rw [Attempt.failure?, hresult]
      rw [List.filterMap_cons_some hsome, ← hid]
      rfl

variable (env) in
/-- **The walk along bound endpoints**, by induction on them. It comes to the attempts on those in
question and to nothing else, and to watch it changes nothing. -/
theorem switchEach_swept (on : Bool) (es : List Endpoint)
    (hbound : ∀ e ∈ es, ∃ b, e.lifecycle.binding? = some b) (htruthful : ∀ e ∈ es, e.Truthful)
    (w : W) :
    ∃ attempts es' w', Swept on es attempts es' ∧
      (attemptEach env on (es.filter (·.isRunning != on))).run w = (attempts, w') ∧
      (switchEach env on es).run w = ((attempts.filterMap Attempt.failure?, es'), w') ∧
      ∀ log, (switchEach env.noting on es).run (w, log) =
        ((attempts.filterMap Attempt.failure?, es'),
          (w', log ++ attempts.flatMap (·.turn.errands))) := by
  induction es generalizing w with
  | nil =>
      refine ⟨[], [], w, .nil, rfl, rfl, fun log => ?_⟩
      rw [List.flatMap_nil, List.append_nil]
      rfl
  | cons e rest ih =>
      obtain ⟨⟨b, hb⟩, hrestbound⟩ := List.forall_mem_cons.mp hbound
      obtain ⟨he, hresttruthful⟩ := List.forall_mem_cons.mp htruthful
      by_cases hdone : e.isRunning = on
      · obtain ⟨attempts, es', w', hswept, hattempts, hwalk, hwatched⟩ :=
          ih hrestbound hresttruthful w
        refine ⟨attempts, e :: es', w', .skipped hdone hswept, ?_, ?_, fun log => ?_⟩
        · rw [List.filter_cons_of_neg (by simp [hdone])]
          exact hattempts
        · rw [switchEach, if_pos hdone, run_bind_of hwalk]
          rfl
        · rw [switchEach, if_pos hdone, run_bind_of (hwatched log)]
          rfl
      · rcases hrun : (e.attempt env (.switch on)).run w with ⟨⟨e₀, t, e'⟩, w₁⟩
        -- an attempt tells which endpoint was tried, and how
        obtain ⟨rfl, hcall⟩ : e₀ = e ∧ t.call = .switch on := by
          obtain ⟨ha, -⟩ := Prod.mk.inj hrun
          obtain ⟨rfl, rfl, -⟩ := Attempt.mk.inj ha
          exact ⟨rfl, rfl⟩
        have htried : e₀.Tried b t e' := by
          have htried := Endpoint.tried_attempt env hb he hdone w
          rwa [hrun] at htried
        have hid : e'.id = e₀.id := (htried.same hb).id
        obtain ⟨hplain, hnoted⟩ := Endpoint.call_of_attempt hrun
        obtain ⟨attempts, es', w', hswept, hattempts, hwalk, hwatched⟩ :=
          ih hrestbound hresttruthful w₁
        refine ⟨⟨e₀, t, e'⟩ :: attempts, e' :: es', w', .tried hdone hb hcall htried hswept, ?_,
          run_switchEach_cons (a := ⟨e₀, t, e'⟩) hdone hid hplain hwalk, fun log => ?_⟩
        · rw [List.filter_cons_of_pos (by simpa using hdone), attemptEach, List.mapM_cons,
            run_bind_of hrun]
          exact run_bind_of hattempts
        · rw [List.flatMap_cons, ← List.append_assoc]
          exact run_switchEach_cons (a := ⟨e₀, t, e'⟩) hdone hid (hnoted log) (hwatched _)

/-- The endpoints that do not run, where they are to, or that run where they are not to. -/
def due (r : Registry) (on : Bool) : List Endpoint := r.endpoints.filter (·.isRunning != on)

variable (env) in
/-- What it comes to that all endpoints of a registry are to run (or not to run). -/
structure Sweep (on : Bool) (r : Registry) (w : W) (attempts : List Attempt) (r' : Registry)
    (w' : W) : Prop where
  running : r'.running = on
  containers : r'.containers = r.containers
  /-- An attempt is made on each endpoint in question, in the world that the one before it left, and
  nothing else happens in the world. -/
  attempted : (attemptEach env on (r.due on)).run w = (attempts, w')
  order : attempts.map (·.endpoint) = r.due on
  swept : Swept on r.endpoints attempts r'.endpoints
  /-- Those that are as they should be stay as they are. -/
  kept : ∀ e ∈ r.endpoints, e.isRunning = on → e ∈ r'.endpoints
  /-- In question is afterwards exactly who could not be made to run (or to stop). -/
  remaining : r'.due on = (attempts.filter (·.failed)).map (·.endpoint)
  /-- The caller is told of the first failure. -/
  verdict : EndpointFailure.verdict (attempts.filterMap Attempt.failure?) =
    (attempts.find? (·.failed)).elim (.ok ()) (·.turn.result)
  success : EndpointFailure.verdict (attempts.filterMap Attempt.failure?) = .ok () ↔
    r'.due on = []

variable (env) in
/-- **A start or a stop of all endpoints**, watched or not. -/
theorem exists_sweep (on : Bool) (r : Registry)
    (hbound : ∀ e ∈ r.endpoints, ∃ b, e.lifecycle.binding? = some b)
    (htruthful : ∀ e ∈ r.endpoints, e.Truthful) (w : W) :
    ∃ attempts r' w', Sweep env on r w attempts r' w' ∧
      (r.switch env on).run w = ((attempts.filterMap Attempt.failure?, r'), w') ∧
      (r.switch env.noting on).run (w, []) =
        ((attempts.filterMap Attempt.failure?, r'), (w', attempts.flatMap (·.turn.errands))) := by
  obtain ⟨attempts, es', w', hswept, hattempted, hwalk, hwatched⟩ :=
    switchEach_swept env on r.endpoints hbound htruthful w
  have hremaining : ({ r with endpoints := es', running := on } : Registry).due on =
      (attempts.filter (·.failed)).map (·.endpoint) := hswept.remaining
  refine ⟨attempts, { r with endpoints := es', running := on }, w', ⟨rfl, rfl, hattempted,
    hswept.order, hswept, hswept.kept, hremaining, verdict_filterMap attempts, ?_⟩, ?_, ?_⟩
  · rw [verdict_eq_ok_iff, hremaining, List.map_eq_nil_iff]
  · rw [switch, run_bind_of hwalk]
    rfl
  · rw [switch, run_bind_of (hwatched [])]
    rfl

end

end Registry

end KeyRelay
