import Mathlib.Data.Finset.Card
import Mathlib.Data.List.Induction

/-!
# Elements in the order of their first occurrence

`List.eraseDups` keeps of each element the first occurrence. It is what "in order of
first use" means of a list of uses, and, of a list that is read backwards, what "those
used last" means. A list lengthened at its end either keeps its first occurrences or
has one more (`eraseDups_concat`), and the rest follows from that.
-/

namespace KeyRelay

variable {A : Type} [DecidableEq A]

/-- One more element is a first occurrence, or it changes nothing. -/
theorem eraseDups_concat (l : List A) (a : A) :
    (l ++ [a]).eraseDups = if a ∈ l then l.eraseDups else l.eraseDups ++ [a] := by
  rw [List.eraseDups_append, List.removeAll]
  by_cases h : a ∈ l
  · simp [h]
  · simp [h, List.eraseDups_cons]

theorem nodup_eraseDups (l : List A) : l.eraseDups.Nodup := by
  induction l using List.reverseRecOn with
  | nil => exact List.nodup_nil
  | append_singleton l a ih =>
      rw [eraseDups_concat]
      split
      · exact ih
      · rename_i h
        exact List.nodup_append'.mpr ⟨ih, List.nodup_singleton a, by simpa using h⟩

theorem eraseDups_filter (keep : A → Bool) (l : List A) :
    (l.filter keep).eraseDups = l.eraseDups.filter keep := by
  induction l using List.reverseRecOn with
  | nil => rfl
  | append_singleton l a ih =>
      rw [List.filter_append, eraseDups_concat]
      by_cases hkeep : keep a = true
      · rw [List.filter_cons_of_pos hkeep, List.filter_nil, eraseDups_concat, ih]
        by_cases h : a ∈ l
        · simp [h, hkeep]
        · simp [h, hkeep]
      · rw [List.filter_cons_of_neg hkeep, List.filter_nil, List.append_nil, ih]
        split
        · rfl
        · simp [hkeep]

/-- There are as many first occurrences as there are different elements. -/
theorem length_eraseDups (l : List A) : l.eraseDups.length = l.toFinset.card := by
  rw [← List.toFinset_card_of_nodup (nodup_eraseDups l)]
  congr 1
  ext a
  simp

end KeyRelay
