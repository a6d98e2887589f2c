import KeyRelay.Glob.Language
import KeyRelay.Glob.Match
import Mathlib.Data.List.Infix

/-!
# Cutting an input along the tokens of a pattern

`Cut` says that an input can be divided among the tokens of a pattern. This file
turns that into equations one can compute with, one for each kind of token:

* a **star** gives up any prefix of the input, so what it leaves is a suffix;
* every other token takes exactly one byte, and `Token.holds` says which.

The second point is what bounds the matcher's choices. A row of tokens without a
star takes as many bytes as it has tokens, so wherever such a row is laid
against the input, it ends at a position that is known beforehand.
-/

namespace KeyRelay.Glob

/-! ## Reading leaves a suffix -/

theorem readItems_suffix (bytes : Bytes) : (readItems bytes).2 <:+ bytes := by
  fun_induction readItems bytes with
  | case1 => exact List.suffix_rfl
  | case2 rest => exact List.suffix_cons _ _
  | case3 a => exact List.nil_suffix
  | case4 b more items after h _ ih =>
      rw [h] at ih
      exact (ih.trans (List.suffix_cons _ _)).trans (List.suffix_cons _ _)
  | case5 a _ _ c more items after h ih =>
      rw [h] at ih
      exact ((ih.trans (List.suffix_cons _ _)).trans (List.suffix_cons _ _)).trans
        (List.suffix_cons _ _)
  | case6 a _ _ b c more _ items after h ih =>
      rw [h] at ih
      exact ih.trans (List.suffix_cons _ _)
  | case7 a _ _ rest _ items after h ih =>
      rw [h] at ih
      exact ih.trans (List.suffix_cons _ _)

theorem Class.read_suffix (body : Bytes) : (Class.read body).2 <:+ body := by
  cases body with
  | nil => exact List.suffix_rfl
  | cons b rest =>
      rw [Class.read]
      split
      · exact (readItems_suffix rest).trans (List.suffix_cons _ _)
      · exact readItems_suffix (b :: rest)

/-- Only the end of a pattern has no first token. A first token leaves a suffix of what follows
its own first byte, and it is a star if and only if that byte is one. -/
theorem read?_cons (b : UInt8) (bytes : Bytes) :
    ∃ t rest, Token.read? (b :: bytes) = some (t, rest) ∧ rest <:+ bytes ∧
      (t = .star ↔ b = Glob.star) ∧ (b = Glob.star → rest = bytes) := by
  rw [Token.read?.eq_def]
  dsimp only
  by_cases hs : b = Glob.star
  · exact ⟨_, _, if_pos hs, List.suffix_rfl, by simp [hs], fun _ => rfl⟩
  · rw [if_neg hs]
    by_cases hq : b = question
    · exact ⟨_, _, if_pos hq, List.suffix_rfl, by simp [hs], fun h => absurd h hs⟩
    · rw [if_neg hq]
      by_cases ho : b = openBracket
      · exact ⟨_, _, if_pos ho, Class.read_suffix bytes, by simp [hs], fun h => absurd h hs⟩
      · rw [if_neg ho]
        by_cases he : b = backslash
        · rw [if_pos he]
          cases bytes with
          | nil => exact ⟨_, _, rfl, List.suffix_rfl, by simp [hs], fun h => absurd h hs⟩
          | cons escaped after =>
              exact ⟨_, _, rfl, List.suffix_cons _ _, by simp [hs], fun h => absurd h hs⟩
        · exact ⟨_, _, if_neg he, List.suffix_rfl, by simp [hs], fun h => absurd h hs⟩

/-! ## Tokens, one at a time -/

theorem tokens_nil : tokens [] = [] := by
  rw [tokens]
  split
  · rfl
  · rename_i h; exact absurd h (by simp [Token.read?])

/-- The tokens of a pattern are its first one and those of what is left. -/
theorem tokens_of_read? {pattern rest : Bytes} {t : Token}
    (h : Token.read? pattern = some (t, rest)) : tokens pattern = t :: tokens rest := by
  rw [tokens]
  split
  · rename_i h'; rw [h] at h'; exact absurd h' (by simp)
  · rename_i t' rest' h'
    rw [h] at h'
    obtain ⟨rfl, rfl⟩ := Prod.mk.inj (Option.some.inj h')
    rfl

/-- A pattern whose bytes are all stars is one whose tokens are. -/
theorem all_star_iff (pattern : Bytes) :
    pattern.all (· == Glob.star) = true ↔ ∀ t ∈ tokens pattern, t = .star := by
  induction pattern with
  | nil => simp [tokens_nil]
  | cons b bytes ih =>
      obtain ⟨t, rest, hread, _, hstar, hrest⟩ := read?_cons b bytes
      rw [tokens_of_read? hread, List.all_cons, Bool.and_eq_true, List.forall_mem_cons]
      by_cases hb : b = Glob.star
      · rw [hrest hb, ← ih]
        simp [hb, hstar.mpr hb]
      · have ht : t ≠ .star := fun h => hb (hstar.mp h)
        simp [hb, ht]

/-! ## Cutting, one token at a time -/

theorem cut_nil_iff {input : Bytes} : Cut [] input ↔ input = [] := by
  constructor
  · rintro ⟨⟩; rfl
  · rintro rfl; exact Cut.nil

/-- What a star leaves for the tokens after it is any suffix. -/
theorem cut_star_iff {ts : List Token} {input : Bytes} :
    Cut (.star :: ts) input ↔ ∃ rest, rest <:+ input ∧ Cut ts rest := by
  constructor
  · rintro (_ | @⟨_, _, piece, rest, _, hc⟩)
    exact ⟨rest, List.suffix_append piece rest, hc⟩
  · rintro ⟨rest, ⟨piece, rfl⟩, hc⟩
    exact Cut.cons trivial hc

/-- A token that is no star takes one byte, and it says which. -/
theorem Token.takes_iff {t : Token} (ht : t ≠ .star) (piece : Bytes) :
    t.Takes piece ↔ ∃ b, piece = [b] ∧ t.holds b = true := by
  cases t with
  | star => exact absurd rfl ht
  | any => simp [Token.Takes, Token.holds]
  | bracket c => simp only [Token.Takes, Token.holds, Class.contains_iff]
  | literal a =>
      constructor
      · intro h; exact ⟨a, h, beq_self_eq_true a⟩
      · rintro ⟨b, rfl, hb⟩; rw [eq_of_beq hb]; rfl

theorem cut_cons_iff {t : Token} (ht : t ≠ .star) {ts : List Token} {input : Bytes} :
    Cut (t :: ts) input ↔ ∃ b rest, input = b :: rest ∧ t.holds b = true ∧ Cut ts rest := by
  constructor
  · rintro (_ | @⟨_, _, piece, rest, hp, hc⟩)
    obtain ⟨b, rfl, hb⟩ := (Token.takes_iff ht piece).mp hp
    exact ⟨b, rest, rfl, hb, hc⟩
  · rintro ⟨b, rest, rfl, hb, hc⟩
    exact Cut.cons ((Token.takes_iff ht [b]).mpr ⟨b, rfl, hb⟩) hc

theorem cut_empty_iff {ts : List Token} : Cut ts [] ↔ ∀ t ∈ ts, t = .star := by
  induction ts with
  | nil => simp [cut_nil_iff]
  | cons t ts ih =>
      rw [List.forall_mem_cons]
      by_cases ht : t = .star
      · subst ht
        rw [cut_star_iff, ← ih]
        simp
      · rw [cut_cons_iff ht]
        simp [ht]

/-- **A row without a star takes as many bytes as it has tokens**, wherever it is laid. -/
theorem cut_row {row ts : List Token} (hrow : ∀ t ∈ row, t ≠ .star) {input : Bytes}
    (h : Cut (row ++ ts) input) :
    ∃ piece rest, input = piece ++ rest ∧ piece.length = row.length ∧ Cut ts rest := by
  induction row generalizing input with
  | nil => exact ⟨[], input, rfl, rfl, h⟩
  | cons t row ih =>
      obtain ⟨ht, hrow⟩ := List.forall_mem_cons.mp hrow
      obtain ⟨b, more, rfl, _, hc⟩ := (cut_cons_iff ht).mp h
      obtain ⟨piece, rest, rfl, hlen, hrest⟩ := ih hrow hc
      exact ⟨b :: piece, rest, rfl, by simp [hlen], hrest⟩

end KeyRelay.Glob
