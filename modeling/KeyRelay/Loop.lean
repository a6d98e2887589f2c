/-!
# Loops, one round at a time

A loop is given by its round: a function from the state at the head of the round to what the round
comes to. A round can also come to nothing, and then it has asked for something that is not there.

`Loop.run` makes a bounded number of rounds, so it is defined whatever the round does. That a loop
needs no bound is a fact about it. `Loop.Descends` is what has to be shown of one round, and the
theorems after it are what follows for all rounds.
-/

namespace KeyRelay.Loop

/-- What a round comes to. -/
inductive Next (σ ρ : Type) where
  /-- Another round, from this state. -/
  | again (s : σ)
  /-- The end of the loop, with this result. -/
  | done (r : ρ)
deriving DecidableEq, Repr

variable {σ ρ : Type}

/-- Rounds until there is a result, at most `limit` of them. There is none if a round comes to
nothing. -/
def run (round : σ → Option (Next σ ρ)) : Nat → σ → Option ρ
  | 0, _ => none
  | limit + 1, s =>
    match round s with
    | none => none
    | some (.done r) => some r
    | some (.again s') => run round limit s'

/-- The states at the heads of the rounds, each with the number of rounds that went before. -/
inductive Reaches (round : σ → Option (Next σ ρ)) (first : σ) : Nat → σ → Prop where
  | first : Reaches round first 0 first
  | again {k : Nat} {s t : σ} :
      Reaches round first k s → round s = some (.again t) → Reaches round first (k + 1) t

/-- A round that never comes to nothing under an invariant: it is done, with a result as it should
be, or it keeps the invariant and lowers a weight. -/
structure Descends (round : σ → Option (Next σ ρ)) (Inv : σ → Prop) (weight : σ → Nat)
    (Post : ρ → Prop) : Prop where
  cases : ∀ {s}, Inv s →
    (∃ r, round s = some (.done r) ∧ Post r) ∨
    (∃ t, round s = some (.again t) ∧ Inv t ∧ weight t < weight s)

namespace Descends

variable {round : σ → Option (Next σ ρ)} {Inv : σ → Prop} {weight : σ → Nat} {Post : ρ → Prop}

theorem isSome (h : Descends round Inv weight Post) {s : σ} (hs : Inv s) :
    (round s).isSome = true := by
  rcases h.cases hs with ⟨r, hround, -⟩ | ⟨t, hround, -⟩ <;> rw [hround] <;> rfl

/-- **Each round is paid for by the weight**, so what is left of it bounds the rounds to come. -/
theorem reaches (h : Descends round Inv weight Post) {first s : σ} {k : Nat} (hfirst : Inv first)
    (hr : Reaches round first k s) : Inv s ∧ weight s + k ≤ weight first := by
  induction hr with
  | first => exact ⟨hfirst, Nat.le_refl _⟩
  | again _ hagain ih =>
      obtain ⟨hinv, hpaid⟩ := ih
      rcases h.cases hinv with ⟨r, hround, -⟩ | ⟨t, hround, hinv', hless⟩
      · exact absurd (hround.symm.trans hagain) (by simp)
      · obtain rfl := Next.again.inj (Option.some.inj (hround.symm.trans hagain))
        exact ⟨hinv', by omega⟩

/-- **With more rounds than the first state weighs, there is a result**, and it is as it should
be. -/
theorem run_eq (h : Descends round Inv weight Post) {s : σ} {limit : Nat} (hs : Inv s)
    (hlimit : weight s < limit) : ∃ r, run round limit s = some r ∧ Post r := by
  induction limit generalizing s with
  | zero => exact absurd hlimit (Nat.not_lt_zero _)
  | succ limit ih =>
      rw [run]
      rcases h.cases hs with ⟨r, hround, hpost⟩ | ⟨t, hround, ht, hless⟩
      · rw [hround]
        exact ⟨r, rfl, hpost⟩
      · rw [hround]
        exact ih ht (by omega)

end Descends

end KeyRelay.Loop
