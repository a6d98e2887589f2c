import KeyRelay.Proofs.DefinitionOutcome

/-!
# What comes of a row of definitions

A registrar that is given several definitions registers one after the other, up to the
first that fails. Nothing is taken back then, so what is left is told by what each of
them came to (`Proofs/DefinitionOutcome.lean`): those before the failure are recorded as
what they became, the one that failed is recorded if all that failed was its start, and
those after it have never been looked at.

`Enrolls` is a row in which every definition goes through. A list of definitions either is
such a row, or such a row and then one that fails (`defineAll_eq_ok_iff`,
`defineAll_eq_error_iff`). The rest is by induction along the row.
-/

namespace KeyRelay

/-- What a definition has become in a registry, which is running or not. -/
structure Definition.Became (d : Definition) (running : Bool) (e : Endpoint) : Prop where
  id : ∀ id, givenName d.id = some id → e.id = id
  topic : e.topic = d.topic
  bean : e.bean = d.bean
  method : e.method = d.method
  lifecycle : ∃ b, e.lifecycle = if running then ⟨.running b, true⟩ else ⟨.registered b, false⟩

theorem Registrar.asked_became (r : Registrar) (d : Definition) (running : Bool) (b : Binding) :
    d.Became running
      (r.asked d (if running then ⟨.running b, true⟩ else ⟨.registered b, false⟩)) where
  id id hid := by
    show (givenName d.id).getD _ = id
    rw [hid, Option.getD_some]
  topic := rfl
  bean := rfl
  method := rfl
  lifecycle := ⟨b, rfl⟩

namespace SharedRegistry

variable {W : Type} {env : Nat → Environment W} {n : Nat} {s s₁ s' : SharedRegistry W}
  {d : Definition} {ds done more : List Definition} {e : Endpoint} {es : List Endpoint}
  {failure : ListenerError}

/-! ## One definition -/

/-- A running registry takes a definition in, and then its endpoint cannot be started. -/
structure FailsToStart (env : Environment W) (s : SharedRegistry W) (n : Nat) (d : Definition)
    (b : Binding) (failure : ListenerError) : Prop where
  running : s.registry.running = true
  fails : ∃ w, s.Admits env n d b w ∧
    ((((s.registrars n).asked d ⟨.registered b, false⟩).start env).run w).1.1 = .error failure

/-- **A definition that goes through** is recorded as what it became. -/
theorem define_ok (htidy : s.registry.Tidy) (h : s.define env n d = (.ok e, s')) :
    d.Became s.registry.running e ∧ ∃ container, s'.registry = s.registry.enroll e container := by
  rcases ((define_eq_iff_outcome htidy).mp h).registry_eq with
    ⟨-, ⟨failure, hfailed⟩, -⟩ | ⟨b, w, -, henrolled, hresult⟩
  · exact absurd hfailed nofun
  · rw [← hresult e rfl] at henrolled
    refine ⟨?_, b.container, henrolled⟩
    rw [hresult e rfl, Except.isOk, Except.toBool, Bool.and_true]
    exact (s.registrars n).asked_became d _ b

/-- **A definition that fails** is recorded if it failed in its start, and otherwise the registry
stays as it was. -/
theorem define_error (htidy : s.registry.Tidy) (h : s.define env n d = (.error failure, s')) :
    (∃ b, s.FailsToStart (env n) n d b failure ∧ s'.registry =
      s.registry.enroll ((s.registrars n).asked d ⟨.registered b, false⟩) b.container) ∨
    ((∀ b, ¬ s.FailsToStart (env n) n d b failure) ∧ s'.registry = s.registry) := by
  have houtcome := (define_eq_iff_outcome htidy).mp h
  rcases houtcome.registry_eq with ⟨hnone, -, hsame⟩ | ⟨b, w, hadmits, henrolled, -⟩
  · -- what was not taken in was not started either
    refine .inr ⟨fun b hfails => ?_, hsame⟩
    obtain ⟨w, hadmits, -⟩ := hfails.fails
    exact hnone b w hadmits
  · rw [Except.isOk, Except.toBool, Bool.and_false] at henrolled
    refine .inl ⟨b, ?_, henrolled⟩
    cases hrunning : s.registry.running with
    | false =>
        have hok := (Outcome.registered hadmits hrunning).define_eq htidy
        rw [h] at hok
        exact absurd (Prod.mk.inj hok).1 nofun
    | true =>
        -- the registry has nothing left to do but to start it, and returns what comes of that
        rcases hstart : (((s.registrars n).asked d ⟨.registered b, false⟩).start (env n)).run w with
          ⟨⟨result, e⟩, w'⟩
        rw [define_of_offers hadmits.offers,
          Registry.registerListener_running htidy.ids (not_taken_iff.mp hadmits.fresh) rfl
            hadmits.made hrunning hstart] at h
        refine ⟨hrunning, w, hadmits, ?_⟩
        rw [hstart]
        cases result with
        | error failure' => exact congrArg Except.error (Except.error.inj (Prod.mk.inj h).1)
        | ok done => exact absurd (Prod.mk.inj h).1 nofun

/-! ## One after the other -/

/-- Definitions go through one after the other. -/
inductive Enrolls (env : Nat → Environment W) (n : Nat) :
    SharedRegistry W → List Definition → List Endpoint → SharedRegistry W → Prop where
  | nil {s : SharedRegistry W} : Enrolls env n s [] [] s
  | cons {s s₁ s' : SharedRegistry W} {d : Definition} {ds : List Definition} {e : Endpoint}
      {es : List Endpoint} :
      s.define env n d = (.ok e, s₁) → Enrolls env n s₁ ds es s' →
      Enrolls env n s (d :: ds) (e :: es) s'

/-- After definitions that went through it goes on as it would have without those that are still
to come. -/
theorem Enrolls.defineAll_append (h : Enrolls env n s done es s₁) (more : List Definition) :
    s.defineAll env n (done ++ more) =
      ((s₁.defineAll env n more).1.map (es ++ ·), (s₁.defineAll env n more).2) := by
  induction h with
  | nil =>
      rw [List.nil_append]
      rcases SharedRegistry.defineAll env _ n more with ⟨failure | es, s'⟩ <;> rfl
  | cons hdefine _ ih =>
      rw [List.cons_append, defineAll_cons_ok hdefine, ih]
      rcases SharedRegistry.defineAll env _ n more with ⟨failure | es, s'⟩ <;> rfl

theorem Enrolls.defineAll_eq (h : Enrolls env n s done es s₁) :
    s.defineAll env n done = (.ok es, s₁) := by
  have hrun := h.defineAll_append []
  rw [List.append_nil, defineAll_nil] at hrun
  rw [hrun]
  show (Except.ok (es ++ []), s₁) = _
  rw [List.append_nil]

theorem Enrolls.defineAll_error (h : Enrolls env n s done es s₁)
    (hfailed : s₁.define env n d = (.error failure, s')) (rest : List Definition) :
    s.defineAll env n (done ++ d :: rest) = (.error failure, s') := by
  rw [h.defineAll_append, defineAll_cons_error hfailed]
  rfl

/-- All definitions go through, or one of them is the first that does not. -/
theorem enrolls_or_fails (env : Nat → Environment W) (s : SharedRegistry W) (n : Nat)
    (ds : List Definition) :
    (∃ es s', Enrolls env n s ds es s') ∨
      ∃ done d rest es s₁ failure s', ds = done ++ d :: rest ∧ Enrolls env n s done es s₁ ∧
        s₁.define env n d = (.error failure, s') := by
  induction ds generalizing s with
  | nil => exact .inl ⟨[], s, .nil⟩
  | cons d rest ih =>
      rcases hdefine : s.define env n d with ⟨failure | e, s₁⟩
      · exact .inr ⟨[], d, rest, [], s, failure, s₁, rfl, .nil, hdefine⟩
      · rcases ih s₁ with
          ⟨es, s', hrest⟩ | ⟨done, d', rest', es, s₂, failure, s', rfl, hrest, hfailed⟩
        · exact .inl ⟨e :: es, s', .cons hdefine hrest⟩
        · exact .inr ⟨d :: done, d', rest', e :: es, s₂, failure, s', rfl, .cons hdefine hrest,
            hfailed⟩

/-- Endpoints are returned if all definitions go through. -/
theorem defineAll_eq_ok_iff :
    s.defineAll env n ds = (.ok es, s') ↔ Enrolls env n s ds es s' := by
  constructor
  · intro h
    rcases enrolls_or_fails env s n ds with
      ⟨es', s'', hall⟩ | ⟨done, d, rest, es', s₁, failure, s'', rfl, hdone, hfailed⟩
    · rw [hall.defineAll_eq] at h
      obtain ⟨hes, rfl⟩ := Prod.mk.inj h
      obtain rfl := Except.ok.inj hes
      exact hall
    · rw [hdone.defineAll_error hfailed] at h
      exact absurd (Prod.mk.inj h).1 nofun
  · exact fun h => h.defineAll_eq

/-- An error is returned if those before some definition go through and that one does not. -/
theorem defineAll_eq_error_iff :
    s.defineAll env n ds = (.error failure, s') ↔
      ∃ done d rest es s₁, ds = done ++ d :: rest ∧ Enrolls env n s done es s₁ ∧
        s₁.define env n d = (.error failure, s') := by
  constructor
  · intro h
    rcases enrolls_or_fails env s n ds with
      ⟨es, s'', hall⟩ | ⟨done, d, rest, es, s₁, failure', s'', rfl, hdone, hfailed⟩
    · rw [hall.defineAll_eq] at h
      exact absurd (Prod.mk.inj h).1 nofun
    · rw [hdone.defineAll_error hfailed] at h
      obtain ⟨hfailure, rfl⟩ := Prod.mk.inj h
      obtain rfl := Except.error.inj hfailure
      exact ⟨done, d, rest, es, s₁, rfl, hdone, hfailed⟩
  · rintro ⟨done, d, rest, es, s₁, rfl, hdone, hfailed⟩
    exact hdone.defineAll_error hfailed rest

/-- What definitions that went through have left in the registry. -/
structure Left (s : SharedRegistry W) (done : List Definition) (es : List Endpoint)
    (s' : SharedRegistry W) : Prop where
  endpoints : s'.registry.endpoints = s.registry.endpoints ++ es
  running : s'.registry.running = s.registry.running
  became : List.Forall₂ (fun d e => d.Became s.registry.running e) done es

/-- **Everything that went through stays.** -/
theorem Enrolls.left (h : Enrolls env n s done es s₁) (htidy : s.registry.Tidy) :
    s.Left done es s₁ ∧ s₁.registry.Tidy := by
  induction h with
  | nil => exact ⟨⟨(List.append_nil _).symm, rfl, .nil⟩, htidy⟩
  | @cons s s₁ s' d ds e es hdefine _ ih =>
      obtain ⟨hbecame, container, henrolled⟩ := define_ok htidy hdefine
      have htidy₁ : s₁.registry.Tidy := by
        have htidy₁ := tidy_define env n d htidy
        rwa [hdefine] at htidy₁
      -- whether the registry runs is the same for all of them
      have hrunning : s₁.registry.running = s.registry.running := by
        rw [henrolled]
        rfl
      obtain ⟨hleft, htidy'⟩ := ih htidy₁
      refine ⟨⟨?_, hleft.running.trans hrunning, .cons hbecame ?_⟩, htidy'⟩
      · rw [hleft.endpoints, henrolled]
        exact List.append_assoc _ [e] es
      · rw [← hrunning]
        exact hleft.became

end SharedRegistry

/--
**Definitions are registered in order, up to the first that fails.** Let anything happen to a
registry that any number of registrars share, each with a factory, resolvers and containers that
may fail as they like, and let one of the registrars then be given a list of definitions.

* It returns endpoints if and only if it registers each of the definitions in turn. Those are the
  endpoints, and what is left is what is left then.
* It returns an error if and only if it registers those before some definition in turn, and fails
  with that error in the next. What is left is what is left then.
* What went through has become, in its order, the last endpoints of the registry. They run if and
  only if the registry does.
* What comes after a definition that fails makes no difference, neither to what is returned nor to
  what is left, be it in the registrars, in the registry or in the world. If the one that fails was
  taken in by a running registry and could not be started, then it is the last endpoint, and
  otherwise the registry is as it was before it.
* A list in two parts comes to the same as its first part and then, if that goes through, its
  second.
-/
theorem definitions_in_order {W : Type} (env : Nat → Environment W) (registrars : Nat → Registrar)
    (w₀ : W) (moves : List (SharedMove W)) (n : Nat) (ds : List Definition) :
    let s := SharedRegistry.playAll env ⟨registrars, {}, w₀⟩ moves
    (∀ es s', s.defineAll env n ds = (.ok es, s') ↔ SharedRegistry.Enrolls env n s ds es s') ∧
    (∀ failure s', s.defineAll env n ds = (.error failure, s') ↔
      ∃ done d rest es s₁, ds = done ++ d :: rest ∧ SharedRegistry.Enrolls env n s done es s₁ ∧
        s₁.define env n d = (.error failure, s')) ∧
    (∀ done es s₁, SharedRegistry.Enrolls env n s done es s₁ → s.Left done es s₁) ∧
    (∀ done es s₁ d failure s', SharedRegistry.Enrolls env n s done es s₁ →
      s₁.define env n d = (.error failure, s') →
      (∀ rest, s.defineAll env n (done ++ d :: rest) = (.error failure, s')) ∧
      ((∃ b, s₁.FailsToStart (env n) n d b failure ∧ s'.registry =
          s₁.registry.enroll ((s₁.registrars n).asked d ⟨.registered b, false⟩) b.container) ∨
        ((∀ b, ¬ s₁.FailsToStart (env n) n d b failure) ∧ s'.registry = s₁.registry))) ∧
    ∀ first second es s₁, s.defineAll env n first = (.ok es, s₁) →
      s.defineAll env n (first ++ second) =
        ((s₁.defineAll env n second).1.map (es ++ ·), (s₁.defineAll env n second).2) := by
  intro s
  have htidy : s.registry.Tidy := SharedRegistry.tidy_playAll moves Registry.tidy_new
  refine ⟨fun es s' => SharedRegistry.defineAll_eq_ok_iff,
    fun failure s' => SharedRegistry.defineAll_eq_error_iff,
    fun done es s₁ hdone => (hdone.left htidy).1, ?_, ?_⟩
  · intro done es s₁ d failure s' hdone hfailed
    have htidy₁ : s₁.registry.Tidy := (hdone.left htidy).2
    exact ⟨hdone.defineAll_error hfailed, SharedRegistry.define_error htidy₁ hfailed⟩
  · intro first second es s₁ hfirst
    exact (SharedRegistry.defineAll_eq_ok_iff.mp hfirst).defineAll_append second

/-- A registry is running. Of three definitions the second is for a blank destination: the first is
started, the second is taken in and not started, and the third is never looked at. -/
theorem definitions_up_to_blank_destination :
    let handlers := Table.empty.insert ("orders", "on_order") Handler.record
    let new : SharedRegistry World := ⟨fun _ => { named := Table.empty.insert "main" "c" }, {},
      { handlers, stations := Table.empty.insert "c" {} }⟩
    let env := fun _ : Nat => World.environment
    let s := new.playAll env [.other World.environment .start]
    let asks := fun topic : String => (⟨none, none, topic, "orders", "on_order"⟩ : Definition)
    let e : Endpoint := ⟨generatedId 0, "t", "orders", "on_order", 0,
      ⟨.running ⟨"c", .adapter 0⟩, true⟩⟩
    let e' : Endpoint := ⟨generatedId 1, " ", "orders", "on_order", 0,
      ⟨.registered ⟨"c", .adapter 1⟩, false⟩⟩
    let left := s.defineAll env 0 [asks "t", asks " ", asks "u"]
    left.1 = .error (.blankDestination " ") ∧ left.2.registry.endpoints = [e, e'] ∧
      (left.2.registrars 0).counter = 2 := by
  intro handlers new env s asks e e' left
  obtain ⟨-, -, -, hfails, -⟩ := definitions_in_order env new.registrars new.world
    [.other World.environment .start] 0 []
  have hfirst : s.define env 0 (asks "t") = (.ok e, (s.define env 0 (asks "t")).2) :=
    Prod.ext (by decide +kernel) rfl
  let s₁ := (s.define env 0 (asks "t")).2
  have hsecond : s₁.define env 0 (asks " ") =
      (.error (.blankDestination " "), (s₁.define env 0 (asks " ")).2) :=
    Prod.ext (by decide +kernel) rfl
  have hleft : left = _ := (hfails _ _ _ _ _ _ (.cons hfirst .nil) hsecond).1 [asks "u"]
  rw [hleft]
  exact ⟨rfl, by decide +kernel, by decide +kernel⟩

end KeyRelay
