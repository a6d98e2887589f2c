import KeyRelay.Proofs.GeneratedIds
import KeyRelay.Proofs.WorldStep
import KeyRelay.Word

/-!
# Registering a whole list of definitions

A registrar goes through its definitions one by one, and stops at the first that cannot
be registered. None is that one if there is a container and a handler for each, if no two
choose one id, if none chooses an id that the registrar might make, and if the counter
has numbers enough for those that choose none (`Registrar.Admits`). This is a condition
on what is still to be registered, relative to what is registered already, so that it
can be carried along the list: to register the first definition uses up one id and one
number of a listener, and leaves the rest admitted.

The endpoints that come of it can be written down beforehand (`Registrar.planned`).
-/

namespace KeyRelay

/-- A definition that leaves its id open. -/
def Definition.silent (d : Definition) : Bool := (givenName d.id).isNone

/-! ## What comes of a list of definitions -/

namespace Registrar

theorem add_ofNat_zero (counter : UInt64) : counter + .ofNat 0 = counter := UInt64.add_zero counter

/-- What is to come after the next number is one further from this one. -/
theorem add_ofNat_succ (counter : UInt64) (k : Nat) :
    counter + .ofNat (k + 1) = counter + 1 + .ofNat k := by
  rw [UInt64.ofNat_add, UInt64.add_comm (UInt64.ofNat k), ← UInt64.add_assoc]
  rfl

/-- A number comes again only after all the others. -/
theorem ne_add_ofNat_of_lt (counter : UInt64) {k : Nat} (hk : k + 1 < Word.size) :
    counter ≠ counter + 1 + .ofNat k := by
  rw [← add_ofNat_succ]
  intro hsame
  have hzero : UInt64.ofNat (k + 1) = 0 := UInt64.add_eq_left.mp hsame.symm
  have hnat : (k + 1) % 2 ^ 64 = 0 := (UInt64.toNat_ofNat').symm.trans (congrArg UInt64.toNat hzero)
  rw [Word.size] at hk
  omega

/-- The container of a definition that has one or can do with the default. -/
def home (r : Registrar) (main : ContainerId) (d : Definition) : ContainerId :=
  ((givenName d.container).bind r.named.get?).getD main

/-- The id of a definition after some others: its own, or the next one that is made. -/
def idAfter (r : Registrar) (before : List Definition) (d : Definition) : String :=
  (givenName d.id).getD (generatedId (r.counter + .ofNat (before.countP (·.silent))).toNat)

/-- What a definition becomes that is registered after some others. Listeners are made in order, and
`n` is the number of the first. -/
def plan (r : Registrar) (main : ContainerId) (n : Nat) (before : List Definition)
    (d : Definition) : Endpoint :=
  { id := r.idAfter before d, topic := d.topic, bean := d.bean, method := d.method,
    resolver := r.resolver,
    lifecycle := ⟨.registered ⟨r.home main d, .adapter (n + before.length)⟩, false⟩ }

/-- What a list of definitions becomes. -/
def planned (r : Registrar) (main : ContainerId) (n : Nat) (ds : List Definition) :
    List Endpoint :=
  ds.mapIdx fun i d => r.plan main n (ds.take i) d

variable {r : Registrar} {main : ContainerId} {n : Nat} {d : Definition} {ds : List Definition}

theorem containerFor_eq (hmain : r.default = some main)
    (hknown : ∀ name, givenName d.container = some name → (r.named.get? name).isSome) :
    r.containerFor d = .ok (r.home main d) := by
  unfold containerFor home
  cases hname : givenName d.container with
  | none => simp [hmain]
  | some name =>
      obtain ⟨container, hcontainer⟩ := Option.isSome_iff_exists.mp (hknown name hname)
      simp [hcontainer]

theorem idAfter_nil : r.idAfter [] d = (r.idFor d).1 := by
  unfold idAfter idFor
  rw [List.countP_nil, add_ofNat_zero]
  cases givenName d.id <;> rfl

/-- Making an id moves on the ids that are made later. -/
theorem idAfter_cons (before : List Definition) (x : Definition) :
    r.idAfter (d :: before) x = (r.idFor d).2.idAfter before x := by
  unfold idAfter idFor
  rw [List.countP_cons]
  unfold Definition.silent
  cases givenName d.id with
  | none => rw [Option.isNone_none, if_pos rfl, add_ofNat_succ]
  | some _ => simp

theorem home_idFor (x : Definition) : (r.idFor d).2.home main x = r.home main x := by
  unfold idFor
  split <;> rfl

theorem plan_nil :
    r.plan main n [] d = (r.endpointFor d).reach (.registered ⟨r.home main d, .adapter n⟩) := by
  unfold plan
  rw [idAfter_nil]
  rfl

theorem plan_cons (before : List Definition) (x : Definition) :
    r.plan main n (d :: before) x = (r.idFor d).2.plan main (n + 1) before x := by
  unfold plan
  rw [idAfter_cons, home_idFor, resolver_idFor, List.length_cons, Nat.add_right_comm,
    Nat.add_assoc]

/-- **The first definition, and the rest after it.** -/
theorem planned_cons :
    r.planned main n (d :: ds) =
      r.plan main n [] d :: (r.idFor d).2.planned main (n + 1) ds := by
  unfold planned
  rw [List.mapIdx_cons]
  simp only [List.take_zero, List.take_succ_cons, plan_cons]

/-- Every planned endpoint comes from a definition. -/
theorem mem_planned {e : Endpoint} (h : e ∈ r.planned main n ds) :
    ∃ i d, ds[i]? = some d ∧ e = r.plan main n (ds.take i) d := by
  obtain ⟨i, hi, rfl⟩ := List.mem_mapIdx.mp h
  exact ⟨i, ds[i], List.getElem?_eq_getElem hi, rfl⟩

end Registrar

/-! ## What the world has afterwards -/

namespace World

/-- A later world with listeners for these definitions, in order, and otherwise nothing new. -/
structure Staffed (w : World) (ds : List Definition) (w' : World) : Prop where
  handlers : w'.handlers = w.handlers
  stations : w'.stations = w.stations
  resolvers : w'.resolvers = w.resolvers
  size : w'.adapters.size = w.adapters.size + ds.length
  old : ∀ k < w.adapters.size, w'.adapters[k]? = w.adapters[k]?
  new : ∀ i d, ds[i]? = some d → ∃ handler, w.handlers.get? (d.bean, d.method) = some handler ∧
    w'.adapters[w.adapters.size + i]? = some ⟨d.bean, d.method, handler⟩

theorem Staffed.nil (w : World) : w.Staffed [] w :=
  ⟨rfl, rfl, rfl, rfl, fun _ _ => rfl, fun _ _ h => absurd h (by simp)⟩

/-- A world with a listener more. -/
def hire (w : World) (a : Adapter) : World :=
  { w.note (.created a.bean a.method) with adapters := w.adapters.push a }

theorem size_hire (w : World) (a : Adapter) : (w.hire a).adapters.size = w.adapters.size + 1 :=
  Array.size_push _

/-- **Making a listener**, for a method that has a handler. -/
theorem create_of_handler {w : World} {bean method : String} {handler : Handler}
    (h : w.handlers.get? (bean, method) = some handler) :
    (environment.create bean method).run w =
      (.ok (.adapter w.adapters.size), w.hire ⟨bean, method, handler⟩) := by
  show w.create bean method = _
  unfold create HandlerTable.create
  dsimp only [note]
  rw [h]
  rfl

/-- Listeners for a first definition and then for the rest. -/
theorem Staffed.cons {w w' : World} {d : Definition} {ds : List Definition} {handler : Handler}
    (hhandler : w.handlers.get? (d.bean, d.method) = some handler)
    (h : (w.hire ⟨d.bean, d.method, handler⟩).Staffed ds w') : w.Staffed (d :: ds) w' where
  handlers := h.handlers
  stations := h.stations
  resolvers := h.resolvers
  size := by
    rw [h.size, size_hire, List.length_cons, Nat.add_right_comm, Nat.add_assoc]
  old k hk := by
    rw [h.old k (by rw [size_hire]; omega), hire, Array.getElem?_push, if_neg (by omega)]
  new i x hx := by
    cases i with
    | zero =>
        obtain rfl := Option.some.inj hx
        refine ⟨handler, hhandler, ?_⟩
        rw [Nat.add_zero, h.old _ (by rw [size_hire]; omega), hire, Array.getElem?_push,
          if_pos rfl]
    | succ i =>
        obtain ⟨other, hother, hadapter⟩ := h.new i x hx
        refine ⟨other, hother, ?_⟩
        rwa [size_hire, Nat.add_assoc, Nat.add_comm 1] at hadapter

end World

/-! ## Registering -/

namespace Registrar

/-- What it takes for some definitions to be registered, one after the other. -/
structure Admits (r : Registrar) (main : ContainerId) (registry : Registry) (w : World)
    (ds : List Definition) : Prop where
  main : r.default = some main
  known : ∀ d ∈ ds, ∀ name, givenName d.container = some name → (r.named.get? name).isSome
  handlers : ∀ d ∈ ds, (w.handlers.get? (d.bean, d.method)).isSome
  /-- No two choose the same id. -/
  ids : (ds.filterMap fun d => givenName d.id).Nodup
  /-- None chooses an id like those that are made. -/
  reserved : ∀ d ∈ ds, ∀ id, givenName d.id = some id → ∀ rest, id ≠ generatedIdPrefix ++ rest
  stopped : registry.running = false
  /-- No chosen id is taken. -/
  chosen : ∀ d ∈ ds, ∀ id, givenName d.id = some id → ∀ x ∈ registry.endpoints, x.id ≠ id
  /-- No id is taken that is still to be made. -/
  unmade : ∀ k < ds.countP (·.silent), ∀ x ∈ registry.endpoints,
    x.id ≠ generatedId (r.counter + .ofNat k).toNat
  /-- The counter has a number for each that chooses none. -/
  numbers : ds.countP (·.silent) ≤ Word.size

namespace Admits

variable {r : Registrar} {main : ContainerId} {registry : Registry} {w w₁ : World}
  {d : Definition} {ds : List Definition}

theorem id_fresh (h : r.Admits main registry w (d :: ds)) :
    ∀ x ∈ registry.endpoints, x.id ≠ (r.idFor d).1 := by
  cases hid : givenName d.id with
  | none =>
      have hsilent : d.silent = true := by rw [Definition.silent, hid, Option.isNone_none]
      have hnext := h.unmade 0 (List.countP_pos_iff.mpr ⟨d, List.mem_cons_self, hsilent⟩)
      rw [idFor_of_silent hid]
      rwa [add_ofNat_zero] at hnext
  | some id =>
      rw [idFor_of_given hid]
      exact h.chosen d List.mem_cons_self id hid

/-- **The first definition is registered.** -/
theorem first (h : r.Admits main registry w (d :: ds)) :
    ∃ handler, w.handlers.get? (d.bean, d.method) = some handler ∧
      (r.register World.environment registry d).run w =
        ((.ok (r.plan main w.adapters.size [] d), (r.idFor d).2,
          registry.enroll (r.plan main w.adapters.size [] d) (r.home main d)),
        w.hire ⟨d.bean, d.method, handler⟩) := by
  obtain ⟨handler, hhandler⟩ := Option.isSome_iff_exists.mp (h.handlers d List.mem_cons_self)
  have hcontainer := containerFor_eq h.main (h.known d List.mem_cons_self)
  have hregister :
      (registry.registerListener World.environment (r.endpointFor d) (r.home main d)).run w =
        ((.ok (r.plan main w.adapters.size [] d),
          registry.enroll (r.plan main w.adapters.size [] d) (r.home main d)),
        w.hire ⟨d.bean, d.method, handler⟩) := by
    rw [plan_nil]
    exact Registry.registerListener_stopped h.id_fresh rfl (World.create_of_handler hhandler)
      h.stopped
  refine ⟨handler, hhandler, ?_⟩
  rw [register_of_container _ _ _ hcontainer]
  dsimp only
  rw [hregister]

/-- No later definition chooses the id of the first. -/
theorem chosen_ne (h : r.Admits main registry w (d :: ds)) {x : Definition} (hx : x ∈ ds)
    {id : String} (hgiven : givenName x.id = some id) : (r.idFor d).1 ≠ id := by
  cases hfirst : givenName d.id with
  | none =>
      rw [idFor_of_silent hfirst]
      exact (h.reserved x (List.mem_cons_of_mem d hx) id hgiven _).symm
  | some other =>
      have hids := h.ids
      rw [List.filterMap_cons_some (f := fun x : Definition => givenName x.id) hfirst] at hids
      rw [idFor_of_given hfirst]
      rintro rfl
      exact (List.nodup_cons.mp hids).1 (List.mem_filterMap.mpr ⟨x, hx, hgiven⟩)

/-- No id that is made later is the id of the first. -/
theorem made_ne (h : r.Admits main registry w (d :: ds)) {k : Nat}
    (hk : k < ds.countP (·.silent)) :
    (r.idFor d).1 ≠ generatedId ((r.idFor d).2.counter + .ofNat k).toNat := by
  cases hfirst : givenName d.id with
  | none =>
      -- the numbers that are still wanted, with this one, are not more than there are
      have hcount : (d :: ds).countP (·.silent) = ds.countP (·.silent) + 1 :=
        List.countP_cons_of_pos (by rw [Definition.silent, hfirst, Option.isNone_none])
      have hnumbers := h.numbers
      have hagain : k + 1 < Word.size := by omega
      rw [idFor_of_silent hfirst]
      intro hsame
      exact ne_add_ofNat_of_lt r.counter hagain (UInt64.toNat_inj.mp (generatedId_inj.mp hsame))
  | some id =>
      rw [idFor_of_given hfirst]
      exact h.reserved d List.mem_cons_self id hfirst _

/-- What is to be made after the first was to be made before it, if only one later. -/
theorem unmade_later (h : r.Admits main registry w (d :: ds)) {k : Nat}
    (hk : k < ds.countP (·.silent)) :
    ∀ x ∈ registry.endpoints,
      x.id ≠ generatedId ((r.idFor d).2.counter + .ofNat k).toNat := by
  cases hfirst : givenName d.id with
  | none =>
      have hcount : (d :: ds).countP (·.silent) = ds.countP (·.silent) + 1 :=
        List.countP_cons_of_pos (by rw [Definition.silent, hfirst, Option.isNone_none])
      rw [idFor_of_silent hfirst, ← add_ofNat_succ]
      exact h.unmade (k + 1) (by omega)
  | some id =>
      rw [idFor_of_given hfirst]
      exact h.unmade k (Nat.lt_of_lt_of_le hk (List.sublist_cons_self d ds).countP_le)

/-- **The rest is still admitted** when the first definition is registered. -/
theorem rest (h : r.Admits main registry w (d :: ds)) (hhandlers : w₁.handlers = w.handlers)
    {e : Endpoint} (hid : e.id = (r.idFor d).1) (container : ContainerId) :
    (r.idFor d).2.Admits main (registry.enroll e container) w₁ ds := by
  have hlater : ∀ x ∈ ds, x ∈ d :: ds := fun x hx => List.mem_cons_of_mem d hx
  -- one endpoint is new, and it has the id that was next
  have hnew : ∀ x ∈ (registry.enroll e container).endpoints,
      x ∈ registry.endpoints ∨ x.id = (r.idFor d).1 := by
    intro x hx
    rcases List.mem_append.mp hx with hold | hlast
    · exact .inl hold
    · obtain rfl := List.mem_singleton.mp hlast
      exact .inr hid
  exact {
    main := default_idFor.trans h.main
    known := fun x hx => by
      rw [named_idFor]
      exact h.known x (hlater x hx)
    handlers := fun x hx => by
      rw [hhandlers]
      exact h.handlers x (hlater x hx)
    ids := ((List.sublist_cons_self d ds).filterMap _).nodup h.ids
    reserved := fun x hx => h.reserved x (hlater x hx)
    stopped := h.stopped
    chosen := fun x hx id hgiven y hy => by
      rcases hnew y hy with hold | hlast
      · exact h.chosen x (hlater x hx) id hgiven y hold
      · rw [hlast]
        exact h.chosen_ne hx hgiven
    unmade := fun k hk y hy => by
      rcases hnew y hy with hold | hlast
      · exact h.unmade_later hk y hold
      · rw [hlast]
        exact h.made_ne hk
    numbers := (List.sublist_cons_self d ds).countP_le.trans h.numbers }

end Admits

/-- **All definitions are registered**, by induction on them. -/
theorem Admits.registerAll {r : Registrar} {main : ContainerId} {registry : Registry} {w : World}
    {ds : List Definition} (h : r.Admits main registry w ds) :
    ∃ r' registry' w',
      (r.registerAll World.environment registry ds).run w =
        ((.ok (r.planned main w.adapters.size ds), r', registry'), w') ∧
      registry'.endpoints = registry.endpoints ++ r.planned main w.adapters.size ds ∧
      registry'.running = false ∧ w.Staffed ds w' := by
  induction ds generalizing r registry w with
  | nil => exact ⟨r, registry, w, rfl, (List.append_nil _).symm, h.stopped, .nil w⟩
  | cons d rest ih =>
      obtain ⟨handler, hhandler, hfirst⟩ := h.first
      have hid : (r.plan main w.adapters.size [] d).id = (r.idFor d).1 := idAfter_nil
      have hhandlers : (w.hire ⟨d.bean, d.method, handler⟩).handlers = w.handlers := rfl
      obtain ⟨r', registry', w', hrest, hendpoints, hstopped, hstaffed⟩ :=
        ih (h.rest hhandlers hid (r.home main d))
      rw [World.size_hire] at hrest hendpoints
      refine ⟨r', registry', w', ?_, ?_, hstopped, hstaffed.cons hhandler⟩
      · rw [Registrar.registerAll, run_bind_of hfirst, planned_cons]
        exact run_bind_of hrest
      · rw [hendpoints, planned_cons, Registry.enroll, List.append_assoc]
        rfl

end Registrar

end KeyRelay
