import KeyRelay.Proofs.GeneratedIds

/-!
# What comes of a definition

A registrar that is given a definition looks for a container and settles on an id; the
registry sees whether the id is taken and has a listener made; and if the registry is
running it starts the endpoint, for which the topic is resolved and the listener is added
to the container. Each of these can fail. The first that does decides what the caller is
told, and how much has happened by then.

`Outcome` has one rule for each way in which this can end. A rule says what has to be the
case, and what is returned and left; the premises of two rules never hold at once, and
those of one of them always do. So the rules are the whole of what a registrar does
(`define_eq_iff_outcome`), and whatever is to be known about a definition can be read off
them, such as what it leaves in the registry (`Outcome.registry_eq`).
-/

namespace KeyRelay

namespace Registrar

variable {r : Registrar} {d : Definition} {container : ContainerId}

/-! ## The container of a definition -/

/-- The container that a definition gets: the one that it names, or else the default one, or else
the only one there is. -/
inductive Offers (r : Registrar) (d : Definition) : ContainerId → Prop where
  | named {name : String} {container : ContainerId} :
      givenName d.container = some name → r.named.get? name = some container →
      Offers r d container
  | default {container : ContainerId} :
      givenName d.container = none → r.default = some container → Offers r d container
  | only {name : String} {container : ContainerId} :
      givenName d.container = none → r.default = none → r.named.entries = [(name, container)] →
      Offers r d container

theorem containerFor_of_offers (h : r.Offers d container) : r.containerFor d = .ok container := by
  cases h with
  | named hname hfound => simp only [containerFor, hname, hfound]
  | default hname hdefault => simp only [containerFor, hname, hdefault]
  | only hname hdefault honly => simp only [containerFor, hname, hdefault, honly]

theorem containerFor_of_unknown {name : String} (hname : givenName d.container = some name)
    (hunknown : r.named.get? name = none) :
    r.containerFor d = .error (.containerNotFound name) := by
  simp only [containerFor, hname, hunknown]

theorem containerFor_of_undecided (hname : givenName d.container = none)
    (hdefault : r.default = none) (hcount : r.named.size ≠ 1) :
    r.containerFor d = .error .noDefaultContainer := by
  rw [Table.size] at hcount
  cases hentries : r.named.entries with
  | nil => simp only [containerFor, hname, hdefault, hentries]
  | cons entry rest =>
      cases rest with
      | nil =>
          rw [hentries] at hcount
          exact absurd rfl hcount
      | cons other rest => simp only [containerFor, hname, hdefault, hentries]

theorem not_offers_of_error {failure : ListenerError} (h : r.containerFor d = .error failure)
    (container : ContainerId) : ¬ r.Offers d container := by
  intro hoffers
  rw [containerFor_of_offers hoffers] at h
  exact absurd h nofun

/-- There is a container for a definition, or there is a reason why not. -/
theorem offers_cases (r : Registrar) (d : Definition) :
    (∃ container, r.Offers d container) ∨
      (∃ name, givenName d.container = some name ∧ r.named.get? name = none) ∨
      (givenName d.container = none ∧ r.default = none ∧ r.named.size ≠ 1) := by
  cases hname : givenName d.container with
  | some name =>
      cases hfound : r.named.get? name with
      | some container => exact .inl ⟨container, .named hname hfound⟩
      | none => exact .inr (.inl ⟨name, rfl, hfound⟩)
  | none =>
      cases hdefault : r.default with
      | some container => exact .inl ⟨container, .default hname hdefault⟩
      | none =>
          by_cases hcount : r.named.size = 1
          · obtain ⟨⟨name, container⟩, honly⟩ := List.length_eq_one_iff.mp hcount
            exact .inl ⟨container, .only hname hdefault honly⟩
          · exact .inr (.inr ⟨rfl, rfl, hcount⟩)

/-! ## The endpoint of a definition -/

/-- The id that a definition gets: its own as it stands, or else one from the counter. -/
def idOf (r : Registrar) (d : Definition) : String :=
  (givenName d.id).getD (generatedId r.counter.toNat)

/-- The endpoint that a definition asks for, at a point of its life. -/
def asked (r : Registrar) (d : Definition) (lifecycle : Lifecycle) : Endpoint :=
  { id := r.idOf d, topic := d.topic, bean := d.bean, method := d.method, resolver := r.resolver,
    lifecycle }

theorem idFor_fst : (r.idFor d).1 = r.idOf d := by
  unfold idFor idOf
  split <;> rename_i h <;> rw [h] <;> rfl

theorem endpointFor_eq_asked : r.endpointFor d = r.asked d .unregistered := by
  rw [endpointFor, idFor_fst]
  rfl

end Registrar

namespace SharedRegistry

variable {W : Type}

/-! ## Outcomes -/

/-- Everything is at hand to take in an endpoint: a container, a new id, and a listener. -/
structure Admits (env : Environment W) (s : SharedRegistry W) (n : Nat) (d : Definition)
    (b : Binding) (w : W) : Prop where
  offers : (s.registrars n).Offers d b.container
  fresh : ¬ s.registry.Taken ((s.registrars n).idOf d)
  made : (env.create d.bean d.method).run s.world = (.ok b.listener, w)

/-- The endpoint of a definition has been taken in, with its container. -/
def takeIn (s : SharedRegistry W) (n : Nat) (d : Definition) (b : Binding) (lifecycle : Lifecycle)
    (w : W) : SharedRegistry W :=
  { s.count n d with
    registry := s.registry.enroll ((s.registrars n).asked d lifecycle) b.container
    world := w }

/-- What a registrar returns for a definition, and what it leaves. -/
inductive Outcome (env : Environment W) (s : SharedRegistry W) (n : Nat) (d : Definition) :
    Except ListenerError Endpoint → SharedRegistry W → Prop where
  /-- It names a container that there is not. -/
  | containerNotFound {name : String} :
      givenName d.container = some name → (s.registrars n).named.get? name = none →
      Outcome env s n d (.error (.containerNotFound name)) s
  /-- It names none, and there is none that it could only mean. -/
  | noDefaultContainer :
      givenName d.container = none → (s.registrars n).default = none →
      (s.registrars n).named.size ≠ 1 → Outcome env s n d (.error .noDefaultContainer) s
  | alreadyRegistered {container : ContainerId} :
      (s.registrars n).Offers d container → s.registry.Taken ((s.registrars n).idOf d) →
      Outcome env s n d (.error (.alreadyRegistered ((s.registrars n).idOf d))) (s.count n d)
  /-- No listener could be made. -/
  | unmade {container : ContainerId} {failure : ListenerError} {w : W} :
      (s.registrars n).Offers d container → ¬ s.registry.Taken ((s.registrars n).idOf d) →
      (env.create d.bean d.method).run s.world = (.error failure, w) →
      Outcome env s n d (.error failure) { s.count n d with world := w }
  /-- Nothing is started, since the registry is not running. -/
  | registered {b : Binding} {w : W} :
      s.Admits env n d b w → s.registry.running = false →
      Outcome env s n d (.ok ((s.registrars n).asked d ⟨.registered b, false⟩))
        (s.takeIn n d b ⟨.registered b, false⟩ w)
  | unresolved {b : Binding} {failure : ListenerError} {w w' : W} :
      s.Admits env n d b w → s.registry.running = true →
      (env.resolve (s.registrars n).resolver d.topic).run w = (.error failure, w') →
      Outcome env s n d (.error failure) (s.takeIn n d b ⟨.registered b, false⟩ w')
  /-- The container did not take the listener. -/
  | refused {b : Binding} {topic : Topic} {failure : ListenerError} {w w₁ w' : W} :
      s.Admits env n d b w → s.registry.running = true →
      (env.resolve (s.registrars n).resolver d.topic).run w = (.ok topic, w₁) →
      (env.subscribe b.container b.listener topic).run w₁ = (.error failure, w') →
      Outcome env s n d (.error failure) (s.takeIn n d b ⟨.registered b, false⟩ w')
  | started {b : Binding} {topic : Topic} {w w₁ w' : W} :
      s.Admits env n d b w → s.registry.running = true →
      (env.resolve (s.registrars n).resolver d.topic).run w = (.ok topic, w₁) →
      (env.subscribe b.container b.listener topic).run w₁ = (.ok (), w') →
      Outcome env s n d (.ok ((s.registrars n).asked d ⟨.running b, true⟩))
        (s.takeIn n d b ⟨.running b, true⟩ w')

section

variable {env : Nat → Environment W} {s : SharedRegistry W} {n : Nat} {d : Definition}

/-- One of the rules applies. -/
theorem exists_outcome (env : Environment W) (s : SharedRegistry W) (n : Nat) (d : Definition) :
    ∃ result s', Outcome env s n d result s' := by
  rcases (s.registrars n).offers_cases d with
    ⟨container, hoffers⟩ | ⟨name, hname, hunknown⟩ | ⟨hname, hdefault, hcount⟩
  · by_cases htaken : s.registry.Taken ((s.registrars n).idOf d)
    · exact ⟨_, _, .alreadyRegistered hoffers htaken⟩
    · rcases hmade : (env.create d.bean d.method).run s.world with ⟨failure | listener, w⟩
      · exact ⟨_, _, .unmade hoffers htaken hmade⟩
      · have hadmits : s.Admits env n d ⟨container, listener⟩ w := ⟨hoffers, htaken, hmade⟩
        cases hrunning : s.registry.running with
        | false => exact ⟨_, _, .registered hadmits hrunning⟩
        | true =>
            rcases hresolve : (env.resolve (s.registrars n).resolver d.topic).run w with
              ⟨failure | topic, w₁⟩
            · exact ⟨_, _, .unresolved hadmits hrunning hresolve⟩
            · rcases hsubscribe : (env.subscribe container listener topic).run w₁ with
                ⟨failure | ⟨⟩, w'⟩
              · exact ⟨_, _, .refused hadmits hrunning hresolve hsubscribe⟩
              · exact ⟨_, _, .started hadmits hrunning hresolve hsubscribe⟩
  · exact ⟨_, _, .containerNotFound hname hunknown⟩
  · exact ⟨_, _, .noDefaultContainer hname hdefault hcount⟩

theorem define_of_offers {container : ContainerId} (h : (s.registrars n).Offers d container) :
    s.define env n d =
      let out := (s.registry.registerListener (env n) ((s.registrars n).asked d .unregistered)
        container).run s.world
      (out.1.1, { s.count n d with registry := out.1.2, world := out.2 }) := by
  rw [define_of_container env s n (Registrar.containerFor_of_offers h),
    Registrar.endpointFor_eq_asked]

theorem not_taken_iff {r : Registry} {id : String} :
    ¬ r.Taken id ↔ ∀ x ∈ r.endpoints, x.id ≠ id :=
  ⟨fun h x hx hid => h ⟨x, hx, hid⟩, fun h ⟨x, hx, hid⟩ => h x hx hid⟩

/-- In a running registry the start decides. -/
theorem define_of_start {b : Binding} {w w' : W} (htidy : s.registry.Tidy)
    (hadmits : s.Admits (env n) n d b w) (hrunning : s.registry.running = true)
    {result : Except ListenerError Unit} {lifecycle : Lifecycle}
    (hstart : Endpoint.Step (env n) ((s.registrars n).asked d ⟨.registered b, false⟩) w .start
      result ((s.registrars n).asked d lifecycle) w') :
    s.define env n d =
      (result.map fun () => (s.registrars n).asked d lifecycle, s.takeIn n d b lifecycle w') := by
  -- what the registry starts is the endpoint as it was just registered
  have hrun :
      ((((s.registrars n).asked d .unregistered).reach (.registered b)).start (env n)).run w =
        ((result, (s.registrars n).asked d lifecycle), w') := hstart.run_eq
  rw [define_of_offers hadmits.offers,
    Registry.registerListener_running htidy.ids (not_taken_iff.mp hadmits.fresh) rfl hadmits.made
      hrunning hrun]
  rfl

/-- What a rule says is what happens. -/
theorem Outcome.define_eq (htidy : s.registry.Tidy) {result : Except ListenerError Endpoint}
    {s' : SharedRegistry W} (h : Outcome (env n) s n d result s') :
    s.define env n d = (result, s') := by
  cases h with
  | containerNotFound hname hunknown =>
      exact define_of_no_container env s n (Registrar.containerFor_of_unknown hname hunknown)
  | noDefaultContainer hname hdefault hcount =>
      exact define_of_no_container env s n
        (Registrar.containerFor_of_undecided hname hdefault hcount)
  | alreadyRegistered hoffers htaken =>
      have hknown : ∃ x ∈ s.registry.endpoints,
          x.id = ((s.registrars n).asked d .unregistered).id := htaken
      rw [define_of_offers hoffers, Registry.registerListener_refused (.inl hknown)]
      rfl
  | unmade hoffers hfresh hmade =>
      rw [define_of_offers hoffers,
        Registry.registerListener_unmade (not_taken_iff.mp hfresh) rfl hmade]
      rfl
  | registered hadmits hstopped =>
      rw [define_of_offers hadmits.offers,
        Registry.registerListener_stopped (not_taken_iff.mp hadmits.fresh) rfl hadmits.made
          hstopped]
      rfl
  | unresolved hadmits hrunning hresolve =>
      exact define_of_start htidy hadmits hrunning (.unresolved rfl hresolve)
  | refused hadmits hrunning hresolve hsubscribe =>
      exact define_of_start htidy hadmits hrunning (.refused rfl hresolve hsubscribe)
  | started hadmits hrunning hresolve hsubscribe =>
      exact define_of_start htidy hadmits hrunning (.started rfl hresolve hsubscribe)

/-- **The rules say what happens, and nothing else does.** -/
theorem define_eq_iff_outcome (htidy : s.registry.Tidy) {result : Except ListenerError Endpoint}
    {s' : SharedRegistry W} :
    s.define env n d = (result, s') ↔ Outcome (env n) s n d result s' := by
  constructor
  · intro h
    -- some rule applies, and what it says is what happened
    obtain ⟨result', s'', houtcome⟩ := exists_outcome (env n) s n d
    obtain ⟨rfl, rfl⟩ := Prod.mk.inj ((houtcome.define_eq htidy).symm.trans h)
    exact houtcome
  · exact fun h => h.define_eq htidy

end

/-! ## What can be read off -/

section

variable (env : Nat → Environment W) {s : SharedRegistry W} {n : Nat} {d : Definition}

theorem registrars_count (s : SharedRegistry W) (n : Nat) (d : Definition) :
    (s.count n d).registrars =
      if givenName d.id = none then
        Function.update s.registrars n
          { s.registrars n with counter := (s.registrars n).counter + 1 }
      else s.registrars := by
  unfold count
  cases hid : givenName d.id with
  | none => rw [Registrar.idFor_of_silent hid, if_pos rfl]
  | some id => rw [Registrar.idFor_of_given hid, if_neg nofun, Function.update_eq_self]

theorem registrars_define_of_offers {container : ContainerId}
    (h : (s.registrars n).Offers d container) :
    (s.define env n d).2.registrars = (s.count n d).registrars := by
  rw [define_of_offers h]

theorem registrars_define_of_no_offers (h : ∀ container, ¬ (s.registrars n).Offers d container) :
    (s.define env n d).2.registrars = s.registrars := by
  rcases (s.registrars n).offers_cases d with
    ⟨container, hoffers⟩ | ⟨name, hname, hunknown⟩ | ⟨hname, hdefault, hcount⟩
  · exact absurd hoffers (h container)
  · rw [define_of_no_container env s n (Registrar.containerFor_of_unknown hname hunknown)]
  · rw [define_of_no_container env s n
      (Registrar.containerFor_of_undecided hname hdefault hcount)]

end

/-- The registry takes the endpoint in if everything is at hand, whatever the start comes to. -/
theorem Outcome.registry_eq {env : Environment W} {s s' : SharedRegistry W} {n : Nat}
    {d : Definition} {result : Except ListenerError Endpoint} (h : Outcome env s n d result s') :
    ((∀ b w, ¬ s.Admits env n d b w) ∧ (∃ failure, result = .error failure) ∧
        s'.registry = s.registry) ∨
      ∃ b w, s.Admits env n d b w ∧
        let e := (s.registrars n).asked d
          (if s.registry.running && result.isOk then ⟨.running b, true⟩ else ⟨.registered b, false⟩)
        s'.registry = s.registry.enroll e b.container ∧ ∀ e', result = .ok e' → e' = e := by
  cases h with
  | containerNotFound hname hunknown =>
      have hnone := Registrar.not_offers_of_error
        (Registrar.containerFor_of_unknown hname hunknown)
      exact .inl ⟨fun b w hadmits => hnone _ hadmits.offers, ⟨_, rfl⟩, rfl⟩
  | noDefaultContainer hname hdefault hcount =>
      have hnone := Registrar.not_offers_of_error
        (Registrar.containerFor_of_undecided hname hdefault hcount)
      exact .inl ⟨fun b w hadmits => hnone _ hadmits.offers, ⟨_, rfl⟩, rfl⟩
  | alreadyRegistered _ htaken =>
      exact .inl ⟨fun b w hadmits => hadmits.fresh htaken, ⟨_, rfl⟩, rfl⟩
  | unmade _ _ hunmade =>
      refine .inl ⟨fun b w hadmits => ?_, ⟨_, rfl⟩, rfl⟩
      -- the factory is asked once, so it cannot have made a listener as well
      have hmade := hadmits.made
      rw [hunmade] at hmade
      exact absurd (Prod.mk.inj hmade).1 nofun
  | registered hadmits hstopped =>
      refine .inr ⟨_, _, hadmits, ?_⟩
      rw [hstopped]
      exact ⟨rfl, fun e' he => (Except.ok.inj he).symm⟩
  | unresolved hadmits hrunning _ =>
      refine .inr ⟨_, _, hadmits, ?_⟩
      rw [hrunning]
      exact ⟨rfl, nofun⟩
  | refused hadmits hrunning _ _ =>
      refine .inr ⟨_, _, hadmits, ?_⟩
      rw [hrunning]
      exact ⟨rfl, nofun⟩
  | started hadmits hrunning _ _ =>
      refine .inr ⟨_, _, hadmits, ?_⟩
      rw [hrunning]
      exact ⟨rfl, fun e' he => (Except.ok.inj he).symm⟩

end SharedRegistry

/--
**What comes of a definition.** Let anything happen to a registry that any number of registrars
share, each with a factory, resolvers and containers that may fail as they like, and let one of the
registrars then be given a definition.

* What it returns and what it leaves are what `Outcome` says, and `Outcome` allows nothing else.
* The counter of that registrar goes on by one, and from the greatest word to zero, if a container
  was found and the definition is silent about its id. Otherwise it stays as it is, and the other
  registrars do in any case.
* If a container, a new id or a listener is missing, an error is returned and the registry stays as
  it is. If nothing is missing, the registry has one more endpoint at its end, the one that was
  asked for, bound to the container that was found. It is running if the registry is and no error
  is returned; if none is returned, it is what is returned.
-/
theorem definition_comes_to_one_outcome {W : Type} (env : Nat → Environment W)
    (registrars : Nat → Registrar) (w₀ : W) (moves : List (SharedMove W)) (n : Nat)
    (d : Definition) :
    let s := SharedRegistry.playAll env ⟨registrars, {}, w₀⟩ moves
    let r := s.registrars n
    (∀ result s', s.define env n d = (result, s') ↔
      SharedRegistry.Outcome (env n) s n d result s') ∧
    (∀ container, r.Offers d container → (s.define env n d).2.registrars =
      if givenName d.id = none then
        Function.update s.registrars n { r with counter := r.counter + 1 }
      else s.registrars) ∧
    ((∀ container, ¬ r.Offers d container) →
      (s.define env n d).2.registrars = s.registrars) ∧
    ∀ result s', s.define env n d = (result, s') →
      ((∀ b w, ¬ s.Admits (env n) n d b w) ∧ (∃ failure, result = .error failure) ∧
          s'.registry = s.registry) ∨
        ∃ b w, s.Admits (env n) n d b w ∧
          let e := r.asked d
            (if s.registry.running && result.isOk then ⟨.running b, true⟩
              else ⟨.registered b, false⟩)
          s'.registry = s.registry.enroll e b.container ∧ ∀ e', result = .ok e' → e' = e := by
  intro s r
  have htidy : s.registry.Tidy := SharedRegistry.tidy_playAll moves Registry.tidy_new
  refine ⟨fun result s' => SharedRegistry.define_eq_iff_outcome htidy, fun container hoffers => ?_,
    SharedRegistry.registrars_define_of_no_offers env, fun result s' hdefine => ?_⟩
  · rw [SharedRegistry.registrars_define_of_offers env hoffers, SharedRegistry.registrars_count]
  · exact ((SharedRegistry.define_eq_iff_outcome htidy).mp hdefine).registry_eq

/-- A registry is running, and a registrar has come to the last of its numbers. A definition with a
blank id gets that number, is started with the only container, and the counter starts again; one
that asks for a container that there is not, and for a method that there is not, is refused for the
container. -/
theorem definition_started_or_refused :
    let handlers := Table.empty.insert ("orders", "on_order") Handler.record
    let registrar : Registrar :=
      { named := Table.empty.insert "main" "c", counter := 0xFFFFFFFFFFFFFFFF }
    let new : SharedRegistry World := ⟨fun _ => registrar, {},
      { handlers, stations := Table.empty.insert "c" {} }⟩
    let env := fun _ : Nat => World.environment
    let s := new.playAll env [.other World.environment .start]
    let blank : Definition := ⟨some " ", none, "t", "orders", "on_order"⟩
    let astray : Definition := ⟨none, some "other", "t", "orders", "on_return"⟩
    let e : Endpoint := ⟨generatedId maxWord, "t", "orders", "on_order", 0,
      ⟨.running ⟨"c", .adapter 0⟩, true⟩⟩
    (s.define env 0 blank).1 = .ok e ∧ (s.define env 0 blank).2.registry = s.registry.enroll e "c" ∧
      ((s.define env 0 blank).2.registrars 0).counter = 0 ∧
      s.define env 0 astray = (.error (.containerNotFound "other"), s) := by
  intro handlers registrar new env s blank astray e
  let w := (World.create "orders" "on_order" s.world).2
  let w₁ := (World.resolve 0 "t" w).2
  obtain ⟨houtcome, hcounts, -, -⟩ := definition_comes_to_one_outcome env new.registrars new.world
    [.other World.environment .start] 0 blank
  obtain ⟨houtcome', -⟩ := definition_comes_to_one_outcome env new.registrars new.world
    [.other World.environment .start] 0 astray
  have hadmits : s.Admits World.environment 0 blank ⟨"c", .adapter 0⟩ w :=
    ⟨.only rfl rfl rfl, by unfold Registry.Taken; decide, rfl⟩
  have hresolve : (World.environment.resolve 0 "t").run w = (.ok (.named "t"), w₁) :=
    Prod.ext (by decide +kernel) rfl
  have hsubscribe : (World.environment.subscribe "c" (.adapter 0) (.named "t")).run w₁ =
      (.ok (), (w₁.atStation "c" (·.subscribe (.adapter 0) (.named "t"))).2) :=
    Prod.ext (by decide +kernel) rfl
  have hstarted := (houtcome _ _).mpr (.started hadmits rfl hresolve hsubscribe)
  refine ⟨congrArg Prod.fst hstarted, ?_, ?_, (houtcome' _ _).mpr (.containerNotFound rfl rfl)⟩
  · rw [hstarted]
    rfl
  · rw [hcounts "c" hadmits.offers, if_pos (by decide), Function.update_self]
    decide

end KeyRelay
