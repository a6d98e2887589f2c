import KeyRelay.Cli.Run
import KeyRelay.Proofs.ResolverAnswers

/-!
# What the check of a configuration is worth

A configuration is checked before it is used, and a resolver looks at the topics again
when they are resolved. The two have to mean the same by a blank text, or a
configuration could pass the check and fail later. They do: a definition with a topic, a
bean and a method (`Definition.Complete`) has a topic that every resolver resolves.
-/

namespace KeyRelay

namespace Definition

/-- A definition that has all it needs. -/
structure Complete (d : Definition) : Prop where
  topic : isBlank d.topic = false
  bean : isBlank d.bean = false
  method : isBlank d.method = false

/-- What a definition lacks. Of several fields only the first counts: the topic, then the bean, then
the method. -/
inductive Lacks (d : Definition) : String → Prop
  | topic (h : isBlank d.topic = true) : Lacks d "topic"
  | bean (htopic : isBlank d.topic = false) (h : isBlank d.bean = true) : Lacks d "bean"
  | method (htopic : isBlank d.topic = false) (hbean : isBlank d.bean = false)
      (h : isBlank d.method = true) : Lacks d "method"

variable {d : Definition}

/-- A definition has all it needs, or there is a first field that it lacks. -/
theorem complete_or_lacks (d : Definition) : d.Complete ∨ ∃ field, d.Lacks field := by
  cases htopic : isBlank d.topic with
  | true => exact .inr ⟨_, .topic htopic⟩
  | false =>
      cases hbean : isBlank d.bean with
      | true => exact .inr ⟨_, .bean htopic hbean⟩
      | false =>
          cases hmethod : isBlank d.method with
          | true => exact .inr ⟨_, .method htopic hbean hmethod⟩
          | false => exact .inl ⟨htopic, hbean, hmethod⟩

theorem Complete.blankField? (h : d.Complete) : d.blankField? = none := by
  simp [Definition.blankField?, h.topic, h.bean, h.method]

theorem Lacks.blankField? {field : String} (h : d.Lacks field) : d.blankField? = some field := by
  cases h with
  | topic h => simp [Definition.blankField?, h]
  | bean htopic h => simp [Definition.blankField?, htopic, h]
  | method htopic hbean h => simp [Definition.blankField?, htopic, hbean, h]

/-- Either all definitions are complete, or one is the first that is not. -/
theorem all_complete_or_first_lacks (ds : List Definition) :
    (∀ d ∈ ds, d.Complete) ∨ ∃ before d after field, ds = before ++ d :: after ∧
      (∀ x ∈ before, x.Complete) ∧ d.Lacks field := by
  induction ds with
  | nil => exact .inl nofun
  | cons d rest ih =>
      rcases d.complete_or_lacks with hcomplete | ⟨field, hlacks⟩
      · rcases ih with hrest | ⟨before, x, after, field, rfl, hbefore, hlacks⟩
        · exact .inl (List.forall_mem_cons.mpr ⟨hcomplete, hrest⟩)
        · exact .inr ⟨d :: before, x, after, field, rfl,
            List.forall_mem_cons.mpr ⟨hcomplete, hbefore⟩, hlacks⟩
      · exact .inr ⟨[], d, rest, field, rfl, nofun, hlacks⟩

end Definition

namespace ListenerConfig

variable {index : Nat} {ds : List Definition}

/-- Complete definitions are passed over and counted. -/
theorem checkFrom_append {before : List Definition} (h : ∀ x ∈ before, x.Complete) :
    checkFrom index (before ++ ds) = checkFrom (index + before.length) ds := by
  induction before generalizing index with
  | nil => rfl
  | cons x rest ih =>
      obtain ⟨hx, hrest⟩ := List.forall_mem_cons.mp h
      rw [List.cons_append, checkFrom, hx.blankField?]
      dsimp only
      rw [ih hrest, List.length_cons, Nat.add_right_comm, Nat.add_assoc]

/-- At the first definition that lacks something the check ends. -/
theorem checkFrom_first {before after : List Definition} {d : Definition} {field : String}
    (h : ∀ x ∈ before, x.Complete) (hlacks : d.Lacks field) :
    checkFrom index (before ++ d :: after) = .error (.blank (index + before.length) field) := by
  rw [checkFrom_append h, checkFrom, hlacks.blankField?]

theorem checkFrom_complete (h : ∀ d ∈ ds, d.Complete) : checkFrom index ds = .ok () := by
  rw [← List.append_nil ds, checkFrom_append h]
  rfl

/-- **What is accepted** is complete from the first definition to the last. -/
theorem checkFrom_eq_ok_iff : checkFrom index ds = .ok () ↔ ∀ d ∈ ds, d.Complete := by
  refine ⟨fun h => ?_, checkFrom_complete⟩
  rcases Definition.all_complete_or_first_lacks ds with
    hall | ⟨before, d, after, field, rfl, hbefore, hlacks⟩
  · exact hall
  · rw [checkFrom_first hbefore hlacks] at h
    exact absurd h nofun

/-- **What is reported** is the first definition that lacks something, with all before it
complete. -/
theorem checkFrom_eq_error_iff {fault : ConfigFault} :
    checkFrom index ds = .error fault ↔
      ∃ before d after field, ds = before ++ d :: after ∧ (∀ x ∈ before, x.Complete) ∧
        d.Lacks field ∧ fault = .blank (index + before.length) field := by
  constructor
  · intro h
    rcases Definition.all_complete_or_first_lacks ds with
      hall | ⟨before, d, after, field, rfl, hbefore, hlacks⟩
    · rw [checkFrom_complete hall] at h
      exact absurd h nofun
    · rw [checkFrom_first hbefore hlacks] at h
      exact ⟨before, d, after, field, rfl, hbefore, hlacks, (Except.error.inj h).symm⟩
  · rintro ⟨before, d, after, field, rfl, hbefore, hlacks, rfl⟩
    exact checkFrom_first hbefore hlacks

end ListenerConfig

/-! ## Resolving what was accepted -/

theorem Topic.ofDestination_of_shown {destination : String} (h : isBlank destination = false) :
    ofDestination destination = .ok (.named destination) := by
  unfold ofDestination
  rw [h]
  rfl

namespace Cli

/-- **Definitions with topics are all resolved**, by induction on them. The resolver has seen the
topics of those that came before. -/
theorem resolveAll_of_shown {r : Resolver} (h : r.Sound) {ds : List Definition}
    (hds : ∀ d ∈ ds, isBlank d.topic = false) :
    resolveAll r ds = .ok (ds.map fun d => ⟨d, .named d.topic⟩) := by
  induction ds generalizing r with
  | nil => rfl
  | cons d rest ih =>
      obtain ⟨hd, hrest⟩ := List.forall_mem_cons.mp hds
      obtain ⟨hfound, hsound⟩ := h.resolve d.topic
      rcases hresolve : r.resolve d.topic with ⟨found, r'⟩
      rw [hresolve] at hfound hsound
      obtain rfl : found = .ok (.named d.topic) :=
        hfound.trans (Topic.ofDestination_of_shown hd)
      rw [resolveAll, hresolve]
      dsimp only
      rw [ih hsound hrest]
      rfl

/-- To list the listeners of a configuration is to print a row for each. -/
theorem perform_listeners {m : Type → Type} [Monad m] (exchange : Remote.Exchange m)
    {settings : Settings} (format : Format)
    (h : ∀ d ∈ settings.listener.listeners, isBlank d.topic = false) :
    perform exchange settings format .listeners =
      pure (.ok (listing format
        (settings.listener.listeners.map fun d => ⟨d, .named d.topic⟩))) := by
  have hall := resolveAll_of_shown
    (Resolver.sound_ofCapacity settings.listener.topicCacheCapacity) h
  unfold perform ListenerConfig.resolver
  rw [hall]

end Cli

end KeyRelay
