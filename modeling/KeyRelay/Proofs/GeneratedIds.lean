import KeyRelay.Listener.Registrar
import KeyRelay.Proofs.RegistryHistory

/-!
# Where generated ids collide

A definition that is silent about its id gets one that is made from a counter. Every
registrar has a counter of its own, and a registry may be shared by any number of
registrars. Nothing ties their counters together, and nothing keeps a definition, or
an endpoint that is registered directly, from using an id that some counter has yet
to make.

So a generated id may be taken. This module says when. As long as no counter has been
through all words and starts again (`SharedRegistry.Wraps`), every id in the registry is
accounted for (`Accounted`): somebody chose it, or a registrar made it and has counted
on since. A registrar therefore never makes an id for the second time, and the only
ids that it runs into are those that were chosen, and those of registrars that are
ahead of it.
-/

namespace KeyRelay

/-- The number can be read off a generated id. -/
theorem generatedId_inj {a b : Nat} : generatedId a = generatedId b ↔ a = b := by
  constructor
  · intro h
    have hrepr : a.repr = b.repr := (String.append_right_inj _).mp h
    have hdigits : Nat.toDigits 10 a = Nat.toDigits 10 b := by
      rw [← Nat.toList_repr, ← Nat.toList_repr, hrepr]
    calc
      a = Nat.ofDigitChars 10 (Nat.toDigits 10 a) 0 := Nat.ofDigitChars_ten_toDigits.symm
      _ = Nat.ofDigitChars 10 (Nat.toDigits 10 b) 0 := by rw [hdigits]
      _ = b := Nat.ofDigitChars_ten_toDigits
  · rintro rfl
    rfl

/-- The registry has an endpoint of this id. -/
def Registry.Taken (r : Registry) (id : String) : Prop := ∃ e ∈ r.endpoints, e.id = id

/-! ## A registrar's endpoints -/

namespace Registrar

/-- The endpoint that a definition asks for. -/
def endpointFor (r : Registrar) (d : Definition) : Endpoint :=
  { id := (r.idFor d).1, topic := d.topic, bean := d.bean, method := d.method,
    resolver := r.resolver }

section

variable {r : Registrar} {d : Definition}

theorem idFor_of_given {id : String} (h : givenName d.id = some id) : r.idFor d = (id, r) := by
  unfold idFor
  rw [h]

theorem idFor_of_silent (h : givenName d.id = none) :
    r.idFor d = (generatedId r.counter.toNat, { r with counter := r.counter + 1 }) := by
  unfold idFor
  rw [h]

/-- A registrar makes the id of the greatest word for a definition, so that its counter starts
again. -/
def Wraps (r : Registrar) (d : Definition) : Prop :=
  givenName d.id = none ∧ (∃ container, r.containerFor d = .ok container) ∧ r.counter + 1 = 0

/-- A counter that does not start again has gone up. -/
theorem counter_lt_add_one (h : r.counter + 1 ≠ 0) : r.counter < r.counter + 1 := by
  have hbound : r.counter.toNat < 2 ^ 64 := r.counter.toNat_lt
  have hnext : (r.counter + 1).toNat = (r.counter.toNat + 1) % 2 ^ 64 := UInt64.toNat_add _ _
  have hnonzero : (r.counter + 1).toNat ≠ 0 := fun h0 => h (UInt64.toNat_inj.mp h0)
  rw [UInt64.lt_iff_toNat_lt]
  omega

theorem counter_le_idFor (h : givenName d.id = none → r.counter + 1 ≠ 0) :
    r.counter ≤ (r.idFor d).2.counter := by
  cases hid : givenName d.id with
  | some id =>
      rw [idFor_of_given hid]
      exact UInt64.le_refl _
  | none =>
      rw [idFor_of_silent hid]
      exact UInt64.le_of_lt (counter_lt_add_one (h hid))

theorem endpointFor_truthful : (r.endpointFor d).Truthful := rfl

theorem resolver_idFor : (r.idFor d).2.resolver = r.resolver := by
  unfold idFor
  split <;> rfl

theorem default_idFor : (r.idFor d).2.default = r.default := by
  unfold idFor
  split <;> rfl

theorem named_idFor : (r.idFor d).2.named = r.named := by
  unfold idFor
  split <;> rfl

/-- To look for a container is not to register. -/
theorem containerFor_ne_alreadyRegistered {id : String} :
    r.containerFor d ≠ .error (.alreadyRegistered id) := by
  unfold containerFor
  split <;> split <;> nofun

variable {W : Type} (env : Environment W) (registry : Registry) (w : W)

theorem register_of_no_container {failure : ListenerError}
    (h : r.containerFor d = .error failure) :
    (r.register env registry d).run w = ((.error failure, r, registry), w) := by
  unfold register
  rw [h]
  rfl

theorem register_of_container {container : ContainerId} (h : r.containerFor d = .ok container) :
    (r.register env registry d).run w =
      let out := (registry.registerListener env (r.endpointFor d) container).run w
      ((out.1.1, (r.idFor d).2, out.1.2), out.2) := by
  unfold register endpointFor
  rw [h, ← resolver_idFor (d := d)]
  rfl

end

end Registrar

/-! ## A registry that registrars share -/

/-- Any number of registrars, the registry that they share, and the world. -/
structure SharedRegistry (W : Type) where
  registrars : Nat → Registrar
  registry : Registry := {}
  world : W

/-- What can happen to a shared registry. -/
inductive SharedMove (W : Type) where
  /-- A registrar registers what a definition asks for. -/
  | define (n : Nat) (d : Definition)
  /-- A registrar registers what definitions ask for, up to the first failure. -/
  | defineAll (n : Nat) (ds : List Definition)
  /-- Something in which no registrar has a part. -/
  | other (env : Environment W) (move : RegistryMove W)

/-- The ids that somebody chose for a move. -/
def SharedMove.chosen {W : Type} : SharedMove W → List String
  | .define _ d => (givenName d.id).toList
  | .defineAll _ ds => ds.flatMap fun d => (givenName d.id).toList
  | .other _ (.register e _ _) => [e.id]
  | .other _ _ => []

namespace SharedRegistry

variable {W : Type} (env : Nat → Environment W)

/-- A registrar registers the endpoint of a definition. Each registrar has an environment of its
own. -/
def define (s : SharedRegistry W) (n : Nat) (d : Definition) :
    Except ListenerError Endpoint × SharedRegistry W :=
  let ((result, registrar, registry), world) :=
    ((s.registrars n).register (env n) s.registry d).run s.world
  (result, ⟨Function.update s.registrars n registrar, registry, world⟩)

def defineAll (s : SharedRegistry W) (n : Nat) (ds : List Definition) :
    Except ListenerError (List Endpoint) × SharedRegistry W :=
  let ((result, registrar, registry), world) :=
    ((s.registrars n).registerAll (env n) s.registry ds).run s.world
  (result, ⟨Function.update s.registrars n registrar, registry, world⟩)

def play (s : SharedRegistry W) : SharedMove W → SharedRegistry W
  | .define n d => (s.define env n d).2
  | .defineAll n ds => (s.defineAll env n ds).2
  | .other env move =>
    let (registry, world) := Registry.play env (s.registry, s.world) move
    { s with registry, world }

def playAll (s : SharedRegistry W) (moves : List (SharedMove W)) : SharedRegistry W :=
  moves.foldl (play env) s

/-- A registrar has made the id of a definition, and nothing else has happened. -/
def count (s : SharedRegistry W) (n : Nat) (d : Definition) : SharedRegistry W :=
  { s with registrars := Function.update s.registrars n ((s.registrars n).idFor d).2 }

section

variable (s : SharedRegistry W) (n : Nat)

theorem define_of_no_container {d : Definition} {failure : ListenerError}
    (h : (s.registrars n).containerFor d = .error failure) :
    s.define env n d = (.error failure, s) := by
  unfold define
  rw [Registrar.register_of_no_container (env n) s.registry s.world h]
  dsimp only
  rw [Function.update_eq_self]

theorem define_of_container {d : Definition} {container : ContainerId}
    (h : (s.registrars n).containerFor d = .ok container) :
    s.define env n d =
      let out := (s.registry.registerListener (env n) ((s.registrars n).endpointFor d)
        container).run s.world
      (out.1.1, { s.count n d with registry := out.1.2, world := out.2 }) := by
  unfold define
  rw [Registrar.register_of_container (env n) s.registry s.world h]
  rfl

theorem defineAll_nil : s.defineAll env n [] = (.ok [], s) := by
  show (_, SharedRegistry.mk (Function.update s.registrars n (s.registrars n)) _ _) = _
  rw [Function.update_eq_self]

variable {env} {s} {n} {d : Definition} {s' : SharedRegistry W}

theorem defineAll_cons_error {failure : ListenerError} (h : s.define env n d = (.error failure, s'))
    (rest : List Definition) : s.defineAll env n (d :: rest) = (.error failure, s') := by
  unfold define at h
  unfold defineAll
  rw [Registrar.registerAll]
  rcases hrun : ((s.registrars n).register (env n) s.registry d).run s.world with
    ⟨⟨result, registrar, registry⟩, world⟩
  rw [hrun] at h
  obtain ⟨rfl, rfl⟩ := Prod.mk.inj h
  rw [run_bind_of hrun]
  rfl

theorem defineAll_cons_ok {e : Endpoint} (h : s.define env n d = (.ok e, s'))
    (rest : List Definition) :
    s.defineAll env n (d :: rest) =
      ((s'.defineAll env n rest).1.map (e :: ·), (s'.defineAll env n rest).2) := by
  unfold define at h
  unfold defineAll
  rw [Registrar.registerAll]
  rcases hrun : ((s.registrars n).register (env n) s.registry d).run s.world with
    ⟨⟨result, registrar, registry⟩, world⟩
  rw [hrun] at h
  obtain ⟨rfl, rfl⟩ := Prod.mk.inj h
  rw [run_bind_of hrun]
  dsimp only
  rw [Function.update_self]
  rcases hrest : (registrar.registerAll (env n) registry rest).run world with
    ⟨⟨result, registrar', registry'⟩, world'⟩
  rw [run_bind_of hrest]
  dsimp only
  rw [Function.update_idem]
  rfl

end

/-- A list of definitions fails where one of them does, after those before it. -/
theorem defineAll_error {s : SharedRegistry W} {n : Nat} {ds : List Definition}
    {failure : ListenerError} (h : (s.defineAll env n ds).1 = .error failure) :
    ∃ done d rest, ds = done ++ d :: rest ∧
      ((s.playAll env (done.map (.define n))).define env n d).1 = .error failure ∧
      (s.defineAll env n ds).2 = ((s.playAll env (done.map (.define n))).define env n d).2 := by
  induction ds generalizing s with
  | nil =>
      rw [defineAll_nil] at h
      exact absurd h nofun
  | cons d rest ih =>
      rcases hdefine : s.define env n d with ⟨failure' | e, s'⟩
      · rw [defineAll_cons_error hdefine] at h ⊢
        refine ⟨[], d, rest, rfl, ?_, ?_⟩
        · show (s.define env n d).1 = _
          rw [hdefine]
          exact congrArg Except.error (Except.error.inj h)
        · show s' = (s.define env n d).2
          rw [hdefine]
      · rw [defineAll_cons_ok hdefine] at h ⊢
        -- this one went through, so it is one of the rest that fails
        have hrest : (s'.defineAll env n rest).1 = .error failure := by
          cases hout : (s'.defineAll env n rest).1 with
          | error failure' =>
              rw [hout] at h
              exact h
          | ok es =>
              rw [hout] at h
              exact absurd h nofun
        obtain ⟨done, d', rest', rfl, hfailed, hleft⟩ := ih hrest
        have hplay : s.playAll env ((d :: done).map (.define n)) =
            s'.playAll env (done.map (.define n)) := by
          show playAll env (s.define env n d).2 _ = _
          rw [hdefine]
        rw [← hplay] at hfailed hleft
        exact ⟨d :: done, d', rest', rfl, hfailed, hleft⟩

end SharedRegistry

/-! ## Counters that start again -/

namespace SharedRegistry

variable {W : Type}

/-- In a move a counter is through with all words and starts again. -/
inductive Wraps (env : Nat → Environment W) : SharedRegistry W → SharedMove W → Prop where
  | define {s : SharedRegistry W} {n : Nat} {d : Definition} :
      (s.registrars n).Wraps d → Wraps env s (.define n d)
  | first {s : SharedRegistry W} {n : Nat} {d : Definition} {rest : List Definition} :
      (s.registrars n).Wraps d → Wraps env s (.defineAll n (d :: rest))
  | later {s s' : SharedRegistry W} {n : Nat} {d : Definition} {rest : List Definition}
      {e : Endpoint} :
      s.define env n d = (.ok e, s') → Wraps env s' (.defineAll n rest) →
      Wraps env s (.defineAll n (d :: rest))

/-- No counter starts again in any of the moves. -/
def Unwrapped (env : Nat → Environment W) (s : SharedRegistry W) (moves : List (SharedMove W)) :
    Prop :=
  ∀ before move after, moves = before ++ move :: after → ¬ (s.playAll env before).Wraps env move

theorem Unwrapped.first {env : Nat → Environment W} {s : SharedRegistry W} {move : SharedMove W}
    {rest : List (SharedMove W)} (h : s.Unwrapped env (move :: rest)) : ¬ s.Wraps env move :=
  h [] move rest rfl

theorem Unwrapped.rest {env : Nat → Environment W} {s : SharedRegistry W} {move : SharedMove W}
    {rest : List (SharedMove W)} (h : s.Unwrapped env (move :: rest)) :
    (s.play env move).Unwrapped env rest := by
  rintro before later after rfl
  exact h (move :: before) later after rfl

end SharedRegistry

/-! ## What an id may come from -/

/-- The id that a move may bring to a registry. -/
def RegistryMove.id? {W : Type} : RegistryMove W → Option String
  | .register e _ _ => some e.id
  | _ => none

namespace Registry

section

variable {r r' : Registry} {id : String}

theorem taken_iff_mem_ids : r.Taken id ↔ id ∈ r.endpoints.map (·.id) :=
  List.mem_map.symm

theorem Advance.taken (h : r.Advance r') : r'.Taken id ↔ r.Taken id := by
  rw [taken_iff_mem_ids, taken_iff_mem_ids, h.ids]

theorem taken_replace {es : List Endpoint} {e : Endpoint}
    (h : r.endpoints = es.map fun old => if old.id = e.id then e else old) :
    r.Taken id ↔ id ∈ es.map (·.id) := by
  have hkeep : ∀ old : Endpoint, (if old.id = e.id then e else old).id = old.id := by
    intro old
    split
    · exact Eq.symm ‹_›
    · rfl
  rw [taken_iff_mem_ids, h, List.map_map]
  simp only [Function.comp_def, hkeep]

end

variable {W : Type} (env : Environment W)

/-- A registration brings in the endpoint's id or none. -/
theorem taken_registerListener {r : Registry} {e : Endpoint} {container : ContainerId} {w : W}
    {id : String} (h : ((r.registerListener env e container).run w).1.2.Taken id) :
    r.Taken id ∨ id = e.id := by
  rcases hrun : (r.registerListener env e container).run w with ⟨⟨result, r'⟩, w'⟩
  rw [hrun] at h
  have hconcat : ∀ {e₁ : Endpoint}, e₁.id = e.id → id ∈ (r.endpoints ++ [e₁]).map (·.id) →
      r.Taken id ∨ id = e.id := by
    intro e₁ hid hmem
    rw [List.map_append, List.mem_append, ← taken_iff_mem_ids, List.map_singleton,
      List.mem_singleton, hid] at hmem
    exact hmem
  rcases r.registerListener_cases e container hrun with
    ⟨hsame, -⟩ | ⟨-, e₁, w₁, hregister, hadded⟩
  · rw [taken_iff_mem_ids, hsame, ← taken_iff_mem_ids] at h
    exact .inl h
  · have hid : e₁.id = e.id := by
      cases hregister with
      | registered => rfl
    rcases hadded with ⟨hadded, -⟩ | ⟨started, e₂, -, hadded⟩
    · rw [taken_iff_mem_ids, hadded] at h
      exact hconcat hid h
    · -- the start that follows replaces the newcomer by one of the same id
      rw [taken_replace hadded] at h
      exact hconcat hid h

/-- **A move brings in its own id or none.** -/
theorem taken_play {r : Registry} (htidy : r.Tidy) {w : W} {move : RegistryMove W} {id : String}
    (h : (play env (r, w) move).1.Taken id) : r.Taken id ∨ move.id? = some id := by
  cases move with
  | register e htruthful container =>
      rcases taken_registerListener env h with htaken | rfl
      · exact .inl htaken
      · exact .inr rfl
  | start =>
      rw [play, start_eq] at h
      exact .inl ((htidy.switch env true w).taken.mp h)
  | stop =>
      rw [play, stop_eq] at h
      exact .inl ((htidy.switch env false w).taken.mp h)
  | call id' call => exact .inl ((htidy.callOne env id' call w).taken.mp h)
  | meanwhile change => exact .inl h

end Registry

/-! ## What a registration may be answered -/

/-- A failure that can come from what endpoints rely on. -/
inductive Environment.Raises {W : Type} (env : Environment W) (failure : ListenerError) : Prop where
  | create {bean method : String} {w w' : W} :
      (env.create bean method).run w = (.error failure, w') → env.Raises failure
  | resolve {resolver : ResolverId} {destination : String} {w w' : W} :
      (env.resolve resolver destination).run w = (.error failure, w') → env.Raises failure
  | subscribe {container : ContainerId} {listener : ListenerId} {topic : Topic} {w w' : W} :
      (env.subscribe container listener topic).run w = (.error failure, w') → env.Raises failure

section

variable {W : Type} {env : Environment W} {e : Endpoint}

/-- A registered endpoint that cannot be started has no reason of its own. -/
theorem Endpoint.Step.raises_of_start {e' : Endpoint} {w w' : W} {failure : ListenerError}
    (h : Step env e w .start (.error failure) e' w') (hregistered : e.stage ≠ .unregistered) :
    env.Raises failure := by
  cases h with
  | early hstage => exact absurd hstage hregistered
  | unresolved _ hresolve => exact .resolve hresolve
  | refused _ _ hsubscribe => exact .subscribe hsubscribe

namespace Registry

variable (env) {r : Registry} (container : ContainerId) (w : W) (htidy : r.Tidy)
  (hfresh : ¬ r.Taken e.id) (hstage : e.stage = .unregistered)
include htidy hfresh hstage

/-- A new endpoint of a new id is registered as what it is, or fails for a reason from outside. -/
theorem registerListener_fresh :
    (∀ e', ((r.registerListener env e container).run w).1.1 = .ok e' → e'.id = e.id) ∧
    ∀ failure, ((r.registerListener env e container).run w).1.1 = .error failure →
      env.Raises failure := by
  -- the id is new, so that only the environment can refuse
  have hnew : ∀ x ∈ r.endpoints, x.id ≠ e.id := fun x hx hid => hfresh ⟨x, hx, hid⟩
  rcases hcreate : (env.create e.bean e.method).run w with ⟨failure | listener, w₁⟩
  · rw [registerListener_unmade hnew hstage hcreate]
    refine ⟨nofun, fun failure' h => ?_⟩
    obtain rfl := Except.error.inj h
    exact .create hcreate
  · cases hrunning : r.running with
    | false =>
        rw [registerListener_stopped hnew hstage hcreate hrunning]
        refine ⟨fun e' h => ?_, nofun⟩
        obtain rfl := Except.ok.inj h
        rfl
    | true =>
        rcases hstart : ((e.reach (.registered ⟨container, listener⟩)).start env).run w₁ with
          ⟨⟨result, e₂⟩, w₂⟩
        have hstep : Endpoint.Step env (e.reach (.registered ⟨container, listener⟩)) w₁ .start
          result e₂ w₂ := .of_run hstart
        rw [registerListener_running htidy.ids hnew hstage hcreate hrunning hstart]
        cases result with
        | ok _ =>
            refine ⟨fun e' h => ?_, nofun⟩
            obtain rfl := Except.ok.inj h
            exact (hstep.continues rfl).1.id
        | error failure =>
            refine ⟨nofun, fun failure' h => ?_⟩
            obtain rfl := Except.error.inj h
            exact hstep.raises_of_start nofun

end Registry

end

/-- What endpoints really rely on fails for reasons of its own. -/
theorem World.not_raises_alreadyRegistered (id : String) :
    ¬ World.environment.Raises (.alreadyRegistered id) := by
  intro h
  cases h with
  | create hcreate => exact absurd (World.eq_handlerNotFound_of_create hcreate) (by simp)
  | resolve hresolve =>
      have hblank := World.eq_blankDestination_of_resolve hresolve
      exact absurd hblank (by simp [ListenerError.blankDestination])
  | subscribe hsubscribe =>
      rw [World.subscribe_eq] at hsubscribe
      rcases World.failure_of_callStation hsubscribe with hmissing | ⟨reason, hrefused⟩
      · exact absurd hmissing (by simp)
      · exact absurd hrefused (by simp)

/-! ## Every id is accounted for -/

namespace SharedRegistry

variable {W : Type}

section

variable {env : Nat → Environment W} {s : SharedRegistry W}

/-- Registrars keep the registry tidy. -/
theorem tidy_define (env : Nat → Environment W) (n : Nat) (d : Definition)
    (htidy : s.registry.Tidy) : (s.define env n d).2.registry.Tidy := by
  cases hcontainer : (s.registrars n).containerFor d with
  | error failure =>
      rw [define_of_no_container env s n hcontainer]
      exact htidy
  | ok container =>
      rw [define_of_container env s n hcontainer]
      exact (htidy.play (env n) (s := (_, s.world))
        (.register _ Registrar.endpointFor_truthful container)).1

theorem tidy_defineAll (n : Nat) (ds : List Definition) (htidy : s.registry.Tidy) :
    (s.defineAll env n ds).2.registry.Tidy := by
  induction ds generalizing s with
  | nil =>
      rw [defineAll_nil]
      exact htidy
  | cons d rest ih =>
      have hfirst : (s.define env n d).2.registry.Tidy := tidy_define env n d htidy
      rcases hdefine : s.define env n d with ⟨failure | e, s'⟩ <;> rw [hdefine] at hfirst
      · rw [defineAll_cons_error hdefine]
        exact hfirst
      · rw [defineAll_cons_ok hdefine]
        exact ih hfirst

theorem tidy_play (move : SharedMove W) (htidy : s.registry.Tidy) :
    (s.play env move).registry.Tidy := by
  cases move with
  | define n d => exact tidy_define env n d htidy
  | defineAll n ds => exact tidy_defineAll n ds htidy
  | other env' move => exact (htidy.play env' move).1

/-- Whatever happens, the registry stays tidy. -/
theorem tidy_playAll (moves : List (SharedMove W)) (htidy : s.registry.Tidy) :
    (s.playAll env moves).registry.Tidy := by
  induction moves generalizing s with
  | nil => exact htidy
  | cons move rest ih => exact ih (tidy_play move htidy)

end

/-- The ids of the registry were chosen, or made by a registrar that has counted on since. -/
structure Accounted (chosen : List String) (s : SharedRegistry W) : Prop where
  tidy : s.registry.Tidy
  taken : ∀ id, s.registry.Taken id →
    id ∈ chosen ∨ ∃ m k, k < (s.registrars m).counter ∧ id = generatedId k.toNat

theorem accounted_new (registrars : Nat → Registrar) (w : W) :
    Accounted [] ⟨registrars, {}, w⟩ where
  tidy := Registry.tidy_new
  taken := by
    rintro id ⟨e, he, -⟩
    exact absurd he List.not_mem_nil

/-- Counters that do not start again never go back. -/
theorem counter_le_count (s : SharedRegistry W) (n : Nat) (d : Definition)
    (h : givenName d.id = none → (s.registrars n).counter + 1 ≠ 0) (m : Nat) :
    (s.registrars m).counter ≤ ((s.count n d).registrars m).counter := by
  show _ ≤ (Function.update s.registrars n ((s.registrars n).idFor d).2 m).counter
  by_cases hm : m = n
  · subst hm
    rw [Function.update_self]
    exact Registrar.counter_le_idFor h
  · rw [Function.update_of_ne hm]
    exact UInt64.le_refl _

namespace Accounted

variable {env : Nat → Environment W} {chosen : List String} {s : SharedRegistry W}

theorem mono (h : Accounted chosen s) {more : List String} (hmore : chosen ⊆ more) :
    Accounted more s where
  tidy := h.tidy
  taken id hid := (h.taken id hid).imp_left (@hmore id)

theorem other (h : Accounted chosen s) (env : Environment W) (move : RegistryMove W)
    {more : List String} (hmore : chosen ⊆ more) (hid : ∀ id, move.id? = some id → id ∈ more) :
    Accounted more { s with
      registry := (Registry.play env (s.registry, s.world) move).1
      world := (Registry.play env (s.registry, s.world) move).2 } where
  tidy := (h.tidy.play env move).1
  taken id htaken := by
    rcases Registry.taken_play env h.tidy htaken with hold | hnew
    · exact (h.taken id hold).imp_left (@hmore id)
    · exact .inl (hid id hnew)

/-- An id that was not chosen is made, and its registrar counts on. -/
theorem define (h : Accounted chosen s) (n : Nat) (d : Definition)
    (hwraps : ¬ (s.registrars n).Wraps d) :
    Accounted (chosen ++ (givenName d.id).toList) (s.define env n d).2 := by
  refine ⟨tidy_define env n d h.tidy, fun id htaken => ?_⟩
  cases hcontainer : (s.registrars n).containerFor d with
  | error failure =>
      rw [define_of_no_container env s n hcontainer] at htaken ⊢
      exact (h.taken id htaken).imp_left (List.mem_append_left _)
  | ok container =>
      have hcounts : givenName d.id = none → (s.registrars n).counter + 1 ≠ 0 :=
        fun hsilent hwrapped => hwraps ⟨hsilent, ⟨container, hcontainer⟩, hwrapped⟩
      rw [define_of_container env s n hcontainer] at htaken ⊢
      rcases Registry.taken_registerListener (env n) htaken with hold | hnew
      · -- it was there before, and counters do not go back
        rcases h.taken id hold with hchosen | ⟨m, k, hk, rfl⟩
        · exact .inl (List.mem_append_left _ hchosen)
        · exact .inr ⟨m, k, UInt64.lt_of_lt_of_le hk (s.counter_le_count n d hcounts m), rfl⟩
      · replace hnew : id = ((s.registrars n).idFor d).1 := hnew
        cases hgiven : givenName d.id with
        | some given =>
            rw [Registrar.idFor_of_given hgiven] at hnew
            exact .inl (List.mem_append_right _ (by simp [hnew]))
        | none =>
            rw [Registrar.idFor_of_silent hgiven] at hnew
            -- the registrar has made it just now, and stands one further
            refine .inr ⟨n, (s.registrars n).counter, ?_, hnew⟩
            show _ < (Function.update s.registrars n ((s.registrars n).idFor d).2 n).counter
            rw [Function.update_self, Registrar.idFor_of_silent hgiven]
            exact Registrar.counter_lt_add_one (hcounts hgiven)

theorem defineAll (h : Accounted chosen s) (n : Nat) (ds : List Definition)
    (hwraps : ¬ s.Wraps env (.defineAll n ds)) :
    Accounted (chosen ++ ds.flatMap fun d => (givenName d.id).toList) (s.defineAll env n ds).2 := by
  induction ds generalizing chosen s with
  | nil =>
      rw [defineAll_nil]
      exact h.mono (List.subset_append_left ..)
  | cons d rest ih =>
      have hfirst : Accounted (chosen ++ (givenName d.id).toList) (s.define env n d).2 :=
        h.define n d fun hwrapped => hwraps (.first hwrapped)
      rw [List.flatMap_cons, ← List.append_assoc]
      rcases hdefine : s.define env n d with ⟨failure | e, s'⟩
      · rw [defineAll_cons_error hdefine]
        rw [hdefine] at hfirst
        exact hfirst.mono (List.subset_append_left ..)
      · rw [defineAll_cons_ok hdefine]
        rw [hdefine] at hfirst
        exact ih hfirst fun hwrapped => hwraps (.later hdefine hwrapped)

/-- **As long as no counter starts again, every id stays accounted for.** -/
theorem play (h : Accounted chosen s) {move : SharedMove W} (hwraps : ¬ s.Wraps env move) :
    Accounted (chosen ++ move.chosen) (s.play env move) := by
  cases move with
  | define n d => exact h.define n d fun hwrapped => hwraps (.define hwrapped)
  | defineAll n ds => exact h.defineAll n ds hwraps
  | other env' move =>
      refine h.other env' move (List.subset_append_left ..) fun id hid => ?_
      cases move with
      | register e htruthful container =>
          obtain rfl := Option.some.inj hid
          exact List.mem_append_right _ (List.mem_singleton_self _)
      | start => exact absurd hid nofun
      | stop => exact absurd hid nofun
      | call id' call => exact absurd hid nofun
      | meanwhile change => exact absurd hid nofun

theorem playAll (h : Accounted chosen s) {moves : List (SharedMove W)}
    (hunwrapped : s.Unwrapped env moves) :
    Accounted (chosen ++ moves.flatMap SharedMove.chosen) (s.playAll env moves) := by
  induction moves generalizing chosen s with
  | nil => exact h.mono (List.subset_append_left ..)
  | cons move rest ih =>
      rw [List.flatMap_cons, ← List.append_assoc]
      exact ih (h.play hunwrapped.first) hunwrapped.rest

/-- A generated id that is taken was chosen, or it comes from a registrar that is ahead. -/
theorem taken_generatedId (h : Accounted chosen s) {n : Nat}
    (htaken : s.registry.Taken (generatedId (s.registrars n).counter.toNat)) :
    generatedId (s.registrars n).counter.toNat ∈ chosen ∨
      ∃ m, m ≠ n ∧ (s.registrars n).counter < (s.registrars m).counter := by
  rcases h.taken _ htaken with hchosen | ⟨m, k, hk, hid⟩
  · exact .inl hchosen
  · obtain rfl := UInt64.toNat_inj.mp (generatedId_inj.mp hid)
    refine .inr ⟨m, ?_, hk⟩
    -- a registrar is not ahead of itself
    rintro rfl
    exact absurd hk (UInt64.lt_irrefl _)

end Accounted

/-- What a definition comes to that is silent about its id. -/
theorem define_silent {env : Nat → Environment W} {s : SharedRegistry W} (htidy : s.registry.Tidy)
    (n : Nat) {d : Definition} (hsilent : givenName d.id = none) :
    let id := generatedId (s.registrars n).counter.toNat
    (∀ container, (s.registrars n).containerFor d = .ok container → s.registry.Taken id →
      s.define env n d = (.error (.alreadyRegistered id), s.count n d)) ∧
    (∀ e, (s.define env n d).1 = .ok e → e.id = id ∧ ¬ s.registry.Taken id) ∧
    ∀ other, (s.define env n d).1 = .error (.alreadyRegistered other) →
      (other = id ∧ s.registry.Taken id) ∨ (env n).Raises (.alreadyRegistered other) := by
  intro id
  have hid : ((s.registrars n).endpointFor d).id = id :=
    congrArg Prod.fst (Registrar.idFor_of_silent hsilent)
  have hrefused : ∀ container, (s.registrars n).containerFor d = .ok container →
      s.registry.Taken id → s.define env n d = (.error (.alreadyRegistered id), s.count n d) := by
    intro container hcontainer htaken
    rw [define_of_container env s n hcontainer,
      Registry.registerListener_refused (.inl (hid ▸ htaken)), hid]
    rfl
  refine ⟨hrefused, ?_⟩
  cases hcontainer : (s.registrars n).containerFor d with
  | error failure =>
      rw [define_of_no_container env s n hcontainer]
      refine ⟨nofun, fun other hfailed => ?_⟩
      obtain rfl := Except.error.inj hfailed
      exact absurd hcontainer Registrar.containerFor_ne_alreadyRegistered
  | ok container =>
      by_cases htaken : s.registry.Taken id
      · rw [hrefused container hcontainer htaken]
        refine ⟨nofun, fun other hfailed => ?_⟩
        obtain rfl := ListenerError.alreadyRegistered.inj (Except.error.inj hfailed)
        exact .inl ⟨rfl, htaken⟩
      · rw [define_of_container env s n hcontainer]
        obtain ⟨hok, herror⟩ :=
          Registry.registerListener_fresh (env n) container s.world htidy (hid ▸ htaken) rfl
        refine ⟨fun e he => ⟨(hok e he).trans hid, htaken⟩, fun other hfailed => ?_⟩
        exact .inr (herror _ hfailed)

end SharedRegistry

/--
**When a generated id is refused.** Let anything happen to a registry that any number of registrars
share, each with a factory of its own, and let one of them then be given a definition that is silent
about its id. It makes the id of its counter.

* If the registry has that id, the definition is refused, and nothing happens except that the
  registrar counts on. What is not refused gets that id.
* It is refused in no other case, unless the factory, the resolver or the container themselves
  answer as the registry would. Those that there really are never do.
* As long as no counter has been through all words, the registry has that id only if somebody chose
  it, or if another registrar is ahead. No registrar makes an id twice until then.
* A list of definitions fails where one of them does, after those before it.
-/
theorem generated_id_refused_if_taken {W : Type} (env : Nat → Environment W)
    (registrars : Nat → Registrar) (w₀ : W) (moves : List (SharedMove W)) (n : Nat) :
    let new : SharedRegistry W := ⟨registrars, {}, w₀⟩
    let s := new.playAll env moves
    let id := generatedId (s.registrars n).counter.toNat
    (∀ d, givenName d.id = none →
      (∀ container, (s.registrars n).containerFor d = .ok container → s.registry.Taken id →
        s.define env n d = (.error (.alreadyRegistered id), s.count n d)) ∧
      (∀ e, (s.define env n d).1 = .ok e → e.id = id ∧ ¬ s.registry.Taken id) ∧
      ∀ other, (s.define env n d).1 = .error (.alreadyRegistered other) →
        (other = id ∧ s.registry.Taken id) ∨ (env n).Raises (.alreadyRegistered other)) ∧
    (∀ other, ¬ World.environment.Raises (.alreadyRegistered other)) ∧
    (new.Unwrapped env moves → s.registry.Taken id → id ∈ moves.flatMap SharedMove.chosen ∨
      ∃ m, m ≠ n ∧ (s.registrars n).counter < (s.registrars m).counter) ∧
    ∀ ds failure, (s.defineAll env n ds).1 = .error failure →
      ∃ done d rest, ds = done ++ d :: rest ∧
        let s' := new.playAll env (moves ++ done.map (.define n))
        (s'.define env n d).1 = .error failure ∧
        (s.defineAll env n ds).2 = (s'.define env n d).2 := by
  intro new s id
  have htidy : s.registry.Tidy := SharedRegistry.tidy_playAll moves Registry.tidy_new
  refine ⟨fun d hsilent => SharedRegistry.define_silent htidy n hsilent,
    World.not_raises_alreadyRegistered, fun hunwrapped htaken => ?_, ?_⟩
  · have haccounted : SharedRegistry.Accounted ([] ++ moves.flatMap SharedMove.chosen) s :=
      (SharedRegistry.accounted_new registrars w₀).playAll hunwrapped
    exact haccounted.taken_generatedId htaken
  intro ds failure hfailed
  obtain ⟨done, d, rest, hds, hdefine, hleft⟩ := SharedRegistry.defineAll_error env hfailed
  refine ⟨done, d, rest, hds, ?_⟩
  have happend : new.playAll env (moves ++ done.map (.define n)) =
      s.playAll env (done.map (.define n)) := List.foldl_append
  rw [happend]
  exact ⟨hdefine, hleft⟩

/-- Two registrars share a registry, and the second makes the id that the first has made. Its
counter goes on to the next. -/
theorem generated_id_refused_if_made_by_another :
    let handlers := Table.empty.insert ("orders", "on_order") Handler.record
    let new : SharedRegistry World := ⟨fun _ => { default := some "c" }, {}, { handlers }⟩
    let first : Definition := ⟨none, none, "a", "orders", "on_order"⟩
    let s := new.playAll (fun _ => World.environment) [.define 0 first]
    let d : Definition := ⟨some " ", none, "b", "orders", "on_order"⟩
    givenName d.id = none ∧ new.Unwrapped (fun _ => World.environment) [.define 0 first] ∧
      s.define (fun _ => World.environment) 1 d =
        (.error (.alreadyRegistered (generatedId 0)), s.count 1 d) ∧
      ((s.count 1 d).registrars 1).counter = 1 ∧
      ∃ m, m ≠ 1 ∧ 0 < (s.registrars m).counter := by
  intro handlers new first s d
  obtain ⟨hdefine, -, htaken, -⟩ := generated_id_refused_if_taken (fun _ => World.environment)
    new.registrars new.world [.define 0 first] 1
  have hsilent : givenName d.id = none := by decide
  have hunwrapped : new.Unwrapped (fun _ => World.environment) [.define 0 first] := by
    intro before move after hmoves hwraps
    cases before with
    | cons _ before => simp at hmoves
    | nil =>
        -- the only counter that goes on stands at zero
        obtain ⟨rfl, -⟩ := List.cons.inj hmoves
        cases hwraps with
        | define hwraps => exact absurd hwraps.2.2 (by decide)
  have hfirst : s.registry.Taken (generatedId 0) := ⟨_, List.mem_singleton_self _, rfl⟩
  obtain ⟨hrefused, -, -⟩ := hdefine d hsilent
  refine ⟨hsilent, hunwrapped, hrefused "c" rfl hfirst, rfl, ?_⟩
  rcases htaken hunwrapped hfirst with hchosen | hahead
  · exact absurd hchosen List.not_mem_nil
  · exact hahead

/-- Definitions that are silent about their ids are refused for their ids: in a registry where the
id was chosen, and in one where another registrar has made it. -/
theorem generated_id_not_fresh :
    let handlers := Table.empty.insert ("orders", "on_order") Handler.record
    let new : SharedRegistry World := ⟨fun _ => { default := some "c" }, {}, { handlers }⟩
    let env := fun _ : Nat => World.environment
    let silent : Definition := ⟨none, none, "b", "orders", "on_order"⟩
    let chosen : Definition := ⟨some "redbind.ListenerEndpoint#0", none, "a", "orders", "on_order"⟩
    givenName silent.id = none ∧
      ((new.playAll env [.define 0 chosen]).define env 0 silent).1 =
        .error (.alreadyRegistered "redbind.ListenerEndpoint#0") ∧
      ((new.playAll env [.define 0 silent]).define env 1 silent).1 =
        .error (.alreadyRegistered "redbind.ListenerEndpoint#0") := by
  refine ⟨rfl, ?_, ?_⟩
  · rfl
  · rfl

end KeyRelay
