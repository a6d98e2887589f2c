import KeyRelay.Glob.Token
/-!
# What a pattern means

The meaning of a pattern is a set of byte strings, and it is put together from its tokens: each
token stands for a set of its own, and a row of tokens stands for everything that can be cut into
one piece for each of them, in order. Nothing here says how to find the cuts. That is the matcher's
part, which finds them without ever trying an earlier star again.
-/

namespace KeyRelay.Glob

/-- What an item of a class holds: a byte alone holds itself, and a range all that lie between its
ends, whichever of them comes first. -/
inductive Item.Holds : Item → UInt8 → Prop where
  | single (b : UInt8) : Holds (.single b) b
  | upward {low high b : UInt8} : low ≤ b → b ≤ high → Holds (.range low high) b
  | downward {low high b : UInt8} : high ≤ b → b ≤ low → Holds (.range low high) b

/-- A class holds what some item of it holds, or if it is negated, what none does. -/
def Class.Holds (c : Class) (b : UInt8) : Prop :=
  if c.negated then ∀ item ∈ c.items, ¬ item.Holds b else ∃ item ∈ c.items, item.Holds b

theorem Item.contains_iff {item : Item} {b : UInt8} : item.contains b = true ↔ item.Holds b := by
  cases item with
  | single a =>
    refine ⟨fun h => eq_of_beq h ▸ .single a, fun h => ?_⟩
    cases h
    exact beq_self_eq_true b
  | range low high =>
    simp only [contains, Bool.or_eq_true, Bool.and_eq_true, decide_eq_true_eq]
    refine ⟨fun h => h.elim (fun h => .upward h.1 h.2) fun h => .downward h.1 h.2, fun h => ?_⟩
    cases h with
    | upward hlow hhigh => exact .inl ⟨hlow, hhigh⟩
    | downward hhigh hlow => exact .inr ⟨hhigh, hlow⟩

/-- The test of a class says what the class holds. -/
theorem Class.contains_iff {c : Class} {b : UInt8} : c.contains b = true ↔ c.Holds b := by
  have hany : c.items.any (·.contains b) = true ↔ ∃ item ∈ c.items, item.Holds b := by
    simp only [List.any_eq_true, Item.contains_iff]
  unfold contains Holds
  cases c.negated with
  | false => simpa using hany
  | true => simpa using not_congr hany

/-- Whether a token stands for a byte string. -/
def Token.Takes : Token → Bytes → Prop
  | .star, _ => True
  | .any, piece => ∃ b, piece = [b]
  | .bracket c, piece => ∃ b, piece = [b] ∧ c.Holds b
  | .literal a, piece => piece = [a]

/-- The byte strings that can be cut into one piece for each token. -/
inductive Cut : List Token → Bytes → Prop where
  /-- Without tokens there is nothing to cut. -/
  | nil : Cut [] []
  /-- The first token takes the first piece, the others take the rest. -/
  | cons {t : Token} {ts : List Token} {piece rest : Bytes} :
      t.Takes piece → Cut ts rest → Cut (t :: ts) (piece ++ rest)

def Language (pattern input : Bytes) : Prop := Cut (tokens pattern) input

/-- Whether a wildcard stands somewhere in a pattern. -/
def hasWildcard (pattern : Bytes) : Bool := (tokens pattern).any Token.isWildcard

end KeyRelay.Glob
