import KeyRelay.Listener.System
import KeyRelay.Proofs.EndpointStep
import Mathlib.Data.List.Nodup
import Mathlib.Tactic.Tauto

/-!
# Who runs, and since when

A history of a system of listeners is a list of moves. Seen from outside, a move
that starts or stops all endpoints is many: each endpoint is tried in its turn, and
what the registry holds after each try is a snapshot of its own.

The snapshots tell how long each endpoint has been running without a break
(`tenure`), and so who came to run before whom. The line of the endpoints that run
(`Lineup`) is in that order. No container has a part in these definitions; that a
start sends an endpoint to the end of the line and a stop takes it out is proved.
-/

namespace KeyRelay

/-! ## Moves -/

/-- What can be done to a system of listeners. -/
inductive SystemMove where
  /-- Gives an endpoint to the registry, with a container and the handlers to choose from. -/
  | register (e : Endpoint) (container : ContainerId) (handlers : HandlerTable Handler)
  | start
  | stop
  /-- Starts one endpoint, past the registry. -/
  | startOne (id : String)
  | stopOne (id : String)
  | publish (container : ContainerId) (channel : String) (payload : Bytes)

namespace System

def play (s : System) : SystemMove → System
  | .register e container handlers =>
    ({ s with world := { s.world with handlers } }.registerListener e container).2
  | .start => s.start.2
  | .stop => s.stop.2
  | .startOne id => (s.control true id).2
  | .stopOne id => (s.control false id).2
  | .publish container channel payload => (s.publish container channel payload).2

def run (s : System) (moves : List SystemMove) : System := moves.foldl play s

theorem run_append (s : System) (before after : List SystemMove) :
    s.run (before ++ after) = (s.run before).run after := List.foldl_append

/-! ## Snapshots -/

/-- The endpoints after the first try, after the second, and so on to the last: each time one more
was tried, and those behind it are as they were. -/
def attempts (each : List Endpoint → StateM World (List EndpointFailure × List Endpoint))
    (w : World) (es : List Endpoint) : List (List Endpoint) :=
  (List.range es.length).map fun k => ((each (es.take (k + 1))).run w).1.2 ++ es.drop (k + 1)

/-- What the registry holds in the course of a move. -/
def snapshots (s : System) : SystemMove → List (List Endpoint)
  | .start => attempts (Registry.startEach World.environment) s.world s.registry.endpoints
  | .stop => attempts (Registry.stopEach World.environment) s.world s.registry.endpoints
  | move => [(s.play move).registry.endpoints]

def timeline (s : System) : List SystemMove → List (List Endpoint)
  | [] => []
  | move :: rest => s.snapshots move ++ (s.play move).timeline rest

theorem timeline_append (s : System) (before after : List SystemMove) :
    s.timeline (before ++ after) = s.timeline before ++ (s.run before).timeline after := by
  induction before generalizing s with
  | nil => rfl
  | cons move rest ih =>
      rw [List.cons_append, timeline, ih, timeline, List.append_assoc]
      rfl

end System

/-! ## The line -/

/-- For how many snapshots, up to the latest, an endpoint has been as it is without a break. While
it runs it stays as it is, so this tells how long ago it last came to run. -/
def tenure (timeline : List (List Endpoint)) (e : Endpoint) : Nat :=
  (timeline.reverse.takeWhile (e ∈ ·)).length

theorem tenure_concat (timeline : List (List Endpoint)) (es : List Endpoint) (e : Endpoint) :
    tenure (timeline ++ [es]) e = if e ∈ es then tenure timeline e + 1 else 0 := by
  unfold tenure
  rw [List.reverse_append, List.reverse_singleton, List.singleton_append, List.takeWhile_cons]
  by_cases h : e ∈ es
  · rw [if_pos h, if_pos (decide_eq_true h), List.length_cons]
  · rw [if_neg h, if_neg (by simpa using h), List.length_nil]

/-- Nobody is in a line twice. -/
theorem nodup_of_ranked {timeline : List (List Endpoint)} {line : List Endpoint}
    (hranked : line.Pairwise fun a b => tenure timeline b < tenure timeline a) : line.Nodup :=
  hranked.imp fun hlt heq => absurd hlt (by rw [heq]; exact Nat.lt_irrefl _)

/-- **The ranks leave nothing open**: who is in a line decides what the line is. -/
theorem eq_of_ranked {timeline : List (List Endpoint)} {line line' : List Endpoint}
    (hranked : line.Pairwise fun a b => tenure timeline b < tenure timeline a)
    (hranked' : line'.Pairwise fun a b => tenure timeline b < tenure timeline a)
    (hmem : ∀ e, e ∈ line ↔ e ∈ line') : line = line' := by
  have hperm : line.Perm line' :=
    (List.perm_ext_iff_of_nodup (nodup_of_ranked hranked) (nodup_of_ranked hranked')).mpr hmem
  exact hperm.eq_of_pairwise (fun _ _ _ _ h h' => absurd h (Nat.lt_asymm h')) hranked hranked'

/-- The line of those who run among some endpoints, in the order in which they last came to run. -/
structure Lineup (timeline : List (List Endpoint)) (es line : List Endpoint) : Prop where
  mem_iff : ∀ e, e ∈ line ↔ e ∈ es ∧ e.active?.isSome
  ranked : line.Pairwise fun a b => tenure timeline b < tenure timeline a
  /-- Who runs was seen running at the latest snapshot. -/
  seen : ∀ e, e.active?.isSome → (0 < tenure timeline e ↔ e ∈ es)

namespace Lineup

variable {timeline : List (List Endpoint)} {line es es' done rest : List Endpoint}
  {x x' : Endpoint}

theorem nil : Lineup [] [] [] := ⟨by simp, List.Pairwise.nil, by simp [tenure]⟩

theorem nodup (h : Lineup timeline es line) : line.Nodup := nodup_of_ranked h.ranked

theorem seen_concat (timeline : List (List Endpoint)) (es : List Endpoint) (e : Endpoint) :
    0 < tenure (timeline ++ [es]) e ↔ e ∈ es := by
  rw [tenure_concat]
  split <;> simp [*]

/-- Whoever stays keeps the place in the line. -/
theorem ranked_concat (h : Lineup timeline es line) {kept : List Endpoint}
    (hkept : kept.Sublist line) (hstay : ∀ e ∈ kept, e ∈ es') :
    kept.Pairwise fun a b => tenure (timeline ++ [es']) b < tenure (timeline ++ [es']) a := by
  refine (h.ranked.sublist hkept).imp_of_mem fun {a b} ha hb hlt => ?_
  rw [tenure_concat, tenure_concat, if_pos (hstay a ha), if_pos (hstay b hb)]
  exact Nat.succ_lt_succ hlt

/-- Endpoints that do not run are of no concern. -/
theorem congr (h : Lineup timeline es line) (hmem : ∀ e, e.active?.isSome → (e ∈ es' ↔ e ∈ es)) :
    Lineup timeline es' line where
  mem_iff e := by
    rw [h.mem_iff]
    exact and_congr_left fun hactive => (hmem e hactive).symm
  ranked := h.ranked
  seen e hactive := (h.seen e hactive).trans (hmem e hactive).symm

/-- Another snapshot of the same endpoints. -/
theorem still (h : Lineup timeline es line) : Lineup (timeline ++ [es]) es line where
  mem_iff := h.mem_iff
  ranked := h.ranked_concat (List.Sublist.refl line) fun e he => ((h.mem_iff e).mp he).1
  seen e _ := seen_concat timeline es e

/-- **Who came to run goes to the end.** -/
theorem started (h : Lineup timeline (done ++ x :: rest) line)
    (hnodup : (done ++ x' :: rest).Nodup) (hidle : x.active? = none)
    (hactive : x'.active?.isSome) :
    Lineup (timeline ++ [done ++ x' :: rest]) (done ++ x' :: rest) (line ++ [x']) := by
  have hx : ∀ e, e.active?.isSome → e ≠ x := by
    rintro e he rfl
    rw [hidle] at he
    exact Bool.false_ne_true he
  have hmem : ∀ e, e.active?.isSome →
      (e ∈ done ++ x' :: rest ↔ e ∈ done ++ x :: rest ∨ e = x') := by
    intro e he
    simp only [List.mem_append, List.mem_cons, hx e he, false_or]
    tauto
  have hnew : x' ∉ done ++ x :: rest := by
    have hothers := (List.nodup_middle.mp hnodup).notMem
    simp only [List.mem_append, List.mem_cons, not_or] at hothers ⊢
    exact ⟨hothers.1, hx x' hactive, hothers.2⟩
  have hline : ∀ e ∈ line, e ∈ done ++ x' :: rest := fun e he =>
    (hmem e ((h.mem_iff e).mp he).2).mpr (.inl ((h.mem_iff e).mp he).1)
  refine ⟨fun e => ?_, ?_, fun e _ => seen_concat _ _ e⟩
  · rw [List.mem_append, List.mem_singleton, h.mem_iff]
    constructor
    · rintro (⟨hold, hrun⟩ | rfl)
      · exact ⟨(hmem e hrun).mpr (.inl hold), hrun⟩
      · exact ⟨(hmem e hactive).mpr (.inr rfl), hactive⟩
    · rintro ⟨he, hrun⟩
      exact ((hmem e hrun).mp he).imp (⟨·, hrun⟩) id
  · refine List.pairwise_append.mpr
      ⟨h.ranked_concat (List.Sublist.refl line) hline, List.pairwise_singleton _ _, ?_⟩
    intro a ha b hb
    obtain rfl := List.mem_singleton.mp hb
    obtain ⟨hes, hrun⟩ := (h.mem_iff a).mp ha
    -- the newcomer was not seen running before, all others were
    have hlong := (h.seen a hrun).mpr hes
    have hshort := mt (h.seen b hactive).mp hnew
    rw [tenure_concat, tenure_concat, if_pos (hline a ha), if_pos (by simp)]
    omega

/-- **Who ceased to run leaves.** -/
theorem stopped (h : Lineup timeline (done ++ x :: rest) line)
    (hnodup : (done ++ x :: rest).Nodup) (hidle : x'.active? = none) :
    Lineup (timeline ++ [done ++ x' :: rest]) (done ++ x' :: rest) (line.filter (· ≠ x)) := by
  have hx' : ∀ e, e.active?.isSome → e ≠ x' := by
    rintro e he rfl
    rw [hidle] at he
    exact Bool.false_ne_true he
  have hothers := (List.nodup_middle.mp hnodup).notMem
  have hmem : ∀ e, e.active?.isSome →
      (e ∈ done ++ x' :: rest ↔ e ∈ done ++ x :: rest ∧ e ≠ x) := by
    intro e he
    simp only [List.mem_append, List.mem_cons, hx' e he, false_or] at hothers ⊢
    constructor
    · rintro hstay
      exact ⟨by tauto, by rintro rfl; exact hothers hstay⟩
    · rintro ⟨hes, hne⟩
      tauto
  have hline : ∀ e, e ∈ line.filter (· ≠ x) ↔ e ∈ done ++ x' :: rest ∧ e.active?.isSome := by
    intro e
    rw [List.mem_filter, h.mem_iff, decide_eq_true_eq, and_right_comm]
    exact and_congr_left fun hrun => (hmem e hrun).symm
  exact ⟨hline, h.ranked_concat List.filter_sublist fun e he => ((hline e).mp he).1,
    fun e _ => seen_concat _ _ e⟩

end Lineup

end KeyRelay
