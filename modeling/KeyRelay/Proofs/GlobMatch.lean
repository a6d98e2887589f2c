import KeyRelay.Proofs.GlobLanguage

/-!
# One way back is enough

The matcher remembers only its most recent star. This file is about why nothing
is lost by that.

The argument is an exchange. Between the remembered star and the cursor lies a
row of tokens without a star (`Cursor.Aligned`), so the row takes the same number
of bytes wherever it is laid. If an earlier star were given one byte more, the
row would end one byte later, and whatever is matched from there on lies in what
the cursor has before it. When the matcher comes upon a new star, that star can
skip the difference, so the old one has nothing left to offer.

`Cursor.Admits` says what can still be matched from a cursor. A round keeps it,
and the last round answers it.
-/

namespace KeyRelay.Glob

/-! ## What a head says about the tokens -/

theorem head_of_read_star {b : UInt8} {pattern rest : Bytes}
    (h : Token.read? pattern = some (.star, rest)) : Head.of b pattern = .star rest := by
  rw [Head.of_eq, h]

theorem head_of_read {b : UInt8} {pattern rest : Bytes} {t : Token}
    (h : Token.read? pattern = some (t, rest)) (ht : t ≠ .star) :
    Head.of b pattern = if t.holds b then .fits rest else .stuck := by
  rw [Head.of_eq, h]
  cases t with
  | star => exact absurd rfl ht
  | any => rfl
  | bracket c => rfl
  | literal a => rfl

theorem head_nil (b : UInt8) : Head.of b [] = .stuck := rfl

theorem head_star {b : UInt8} {pattern rest : Bytes} (h : Head.of b pattern = .star rest) :
    pattern = Glob.star :: rest ∧ tokens pattern = .star :: tokens rest := by
  cases pattern with
  | nil => exact absurd h (by simp [head_nil])
  | cons a bytes =>
      obtain ⟨t, after, hread, _, hstar, hafter⟩ := read?_cons a bytes
      by_cases ht : t = .star
      · subst ht
        rw [head_of_read_star hread] at h
        obtain rfl := Head.star.inj h
        exact ⟨by rw [hstar.mp rfl, hafter (hstar.mp rfl)], tokens_of_read? hread⟩
      · rw [head_of_read hread ht] at h
        split at h <;> exact absurd h (by simp)

theorem head_fits {b : UInt8} {pattern rest : Bytes} (h : Head.of b pattern = .fits rest) :
    ∃ a bytes t, pattern = a :: bytes ∧ rest <:+ bytes ∧ t ≠ .star ∧ t.holds b = true ∧
      tokens pattern = t :: tokens rest := by
  cases pattern with
  | nil => exact absurd h (by simp [head_nil])
  | cons a bytes =>
      obtain ⟨t, after, hread, hsuffix, _, _⟩ := read?_cons a bytes
      by_cases ht : t = .star
      · subst ht
        rw [head_of_read_star hread] at h
        exact absurd h (by simp)
      · rw [head_of_read hread ht] at h
        split at h
        · rename_i hb
          obtain rfl := Head.fits.inj h
          exact ⟨a, bytes, t, rfl, hsuffix, ht, hb, tokens_of_read? hread⟩
        · exact absurd h (by simp)

theorem not_cut_of_stuck {b : UInt8} {pattern input : Bytes} (h : Head.of b pattern = .stuck) :
    ¬ Cut (tokens pattern) (b :: input) := by
  cases pattern with
  | nil => rw [tokens_nil, cut_nil_iff]; exact List.cons_ne_nil _ _
  | cons a bytes =>
      obtain ⟨t, after, hread, _, _, _⟩ := read?_cons a bytes
      by_cases ht : t = .star
      · subst ht
        rw [head_of_read_star hread] at h
        exact absurd h (by simp)
      · rw [head_of_read hread ht] at h
        rw [tokens_of_read? hread, cut_cons_iff ht]
        rintro ⟨b', input', heq, hb, _⟩
        obtain ⟨rfl, rfl⟩ := List.cons.inj heq
        rw [if_pos hb] at h
        exact absurd h (by simp)

/-! ## What a round can do -/

/-- The three ways on: past a star, past a token that takes a byte, and back to the star. -/
theorem Cursor.step_next {c c' : Cursor} (h : c.step = .next c') :
    (∃ b input rest, c.input = b :: input ∧ Head.of b c.pattern = .star rest ∧
        c' = ⟨rest, c.input, some ⟨rest, c.input⟩⟩) ∨
    (∃ b input rest, c.input = b :: input ∧ Head.of b c.pattern = .fits rest ∧
        c' = ⟨rest, input, c.retry⟩) ∨
    (∃ b input pattern a more, c.input = b :: input ∧ Head.of b c.pattern = .stuck ∧
        c.retry = some ⟨pattern, a :: more⟩ ∧ c' = ⟨pattern, more, some ⟨pattern, more⟩⟩) := by
  rw [Cursor.step] at h
  split at h
  · exact absurd h (by simp)
  · rename_i b input hinput
    split at h
    · rename_i rest hhead
      exact Or.inl ⟨b, input, rest, hinput, hhead, (Round.next.inj h).symm⟩
    · rename_i rest hhead
      exact Or.inr (Or.inl ⟨b, input, rest, hinput, hhead, (Round.next.inj h).symm⟩)
    · rename_i hhead
      rw [Cursor.backtrack] at h
      split at h
      · rename_i pattern a more hretry
        exact Or.inr (Or.inr ⟨b, input, pattern, a, more, hinput, hhead, hretry,
          (Round.next.inj h).symm⟩)
      · exact absurd h (by simp)

/-- The two ways to an answer: at the end of the input, and where no star is left to go back to. -/
theorem Cursor.step_done {c : Cursor} {matched : Bool} (h : c.step = .done matched) :
    (c.input = [] ∧ matched = c.pattern.all (· == Glob.star)) ∨
    (∃ b input, c.input = b :: input ∧ Head.of b c.pattern = .stuck ∧ matched = false ∧
        ∀ pattern a more, c.retry ≠ some ⟨pattern, a :: more⟩) := by
  rw [Cursor.step] at h
  split at h
  · rename_i hinput
    exact Or.inl ⟨hinput, (Round.done.inj h).symm⟩
  · rename_i b input hinput
    split at h
    · exact absurd h (by simp)
    · exact absurd h (by simp)
    · rename_i hhead
      rw [Cursor.backtrack] at h
      split at h
      · exact absurd h (by simp)
      · rename_i hretry
        exact Or.inr ⟨b, input, hinput, hhead, (Round.done.inj h).symm, hretry⟩

/-! ## What can still be matched -/

/-- What is ahead can be matched as it stands, or else the star can be given at least one byte more
and what follows it matched from there. -/
def Cursor.Admits (c : Cursor) : Prop :=
  Cut (tokens c.pattern) c.input ∨
    ∃ pattern b more, c.retry = some ⟨pattern, b :: more⟩ ∧ Cut (.star :: tokens pattern) more

/-- From the star to the cursor there is a row of tokens without a star, and as much input as the
row has tokens. -/
def Cursor.Aligned (c : Cursor) : Prop :=
  ∀ r, c.retry = some r → ∃ (row : List Token) (piece : Bytes),
    (∀ t ∈ row, t ≠ .star) ∧ piece.length = row.length ∧
    tokens r.pattern = row ++ tokens c.pattern ∧ r.input = piece ++ c.input

theorem aligned_start (pattern input : Bytes) : (Cursor.start pattern input).Aligned := by
  intro r hr; exact absurd hr (by simp [Cursor.start])

/-- A cursor right after its star is aligned: the row is empty. -/
theorem aligned_at_star (pattern input : Bytes) :
    Cursor.Aligned ⟨pattern, input, some ⟨pattern, input⟩⟩ := by
  intro r hr
  obtain rfl := Option.some.inj hr
  exact ⟨[], [], by simp, rfl, rfl, rfl⟩

theorem aligned_step {c c' : Cursor} (h : c.Aligned) (hs : c.step = .next c') :
    c'.Aligned := by
  rcases Cursor.step_next hs with ⟨b, input, rest, _, _, rfl⟩ |
    ⟨b, input, rest, hinput, hhead, rfl⟩ | ⟨b, input, pattern, a, more, _, _, _, rfl⟩
  · exact aligned_at_star rest c.input
  · -- the row grows by the token that took the byte
    obtain ⟨_, _, t, _, _, ht, _, htokens⟩ := head_fits hhead
    intro r hr
    obtain ⟨row, piece, hrow, hlen, htok, hin⟩ := h r hr
    refine ⟨row ++ [t], piece ++ [b], ?_, by simp [hlen], ?_, ?_⟩
    · intro u hu
      rcases List.mem_append.mp hu with hu | hu
      · exact hrow u hu
      · rw [List.mem_singleton.mp hu]; exact ht
    · rw [htok, htokens, List.append_assoc]; rfl
    · rw [hin, hinput, List.append_assoc]; rfl
  · exact aligned_at_star pattern more

/--
**The exchange.** Whatever the star could match with one byte more goes through the tokens ahead of
the cursor as well, and from a later point of the input.
-/
theorem Cursor.Aligned.exchange {c : Cursor} (h : c.Aligned) {pattern more : Bytes} {b : UInt8}
    (hr : c.retry = some ⟨pattern, b :: more⟩) (hc : Cut (.star :: tokens pattern) more) :
    ∃ rest, rest <:+ c.input ∧ rest.length < c.input.length ∧ Cut (tokens c.pattern) rest := by
  obtain ⟨row, piece, hrow, hlen, htok, hin⟩ := h _ hr
  obtain ⟨later, hlater, hcut⟩ := cut_star_iff.mp hc
  dsimp only at htok hin
  rw [htok] at hcut
  obtain ⟨taken, rest, rfl, htaken, hrest⟩ := cut_row hrow hcut
  have hsuffix : rest <:+ piece ++ c.input :=
    hin ▸ ((List.suffix_append taken rest).trans hlater).trans (List.suffix_cons b more)
  have hshort : rest.length < c.input.length := by
    have h1 := congrArg List.length hin
    have h2 := hlater.length_le
    simp only [List.length_cons, List.length_append] at h1 h2
    omega
  exact ⟨rest, List.suffix_of_suffix_length_le hsuffix (List.suffix_append piece c.input)
    (Nat.le_of_lt hshort), hshort, hrest⟩

/-- Right after a star, what can still be matched is what the star leaves. -/
theorem admits_at_star (pattern input : Bytes) :
    Cursor.Admits ⟨pattern, input, some ⟨pattern, input⟩⟩ ↔
      Cut (.star :: tokens pattern) input := by
  constructor
  · rintro (hc | ⟨pattern', b, more, hr, hc⟩)
    · exact cut_star_iff.mpr ⟨input, List.suffix_rfl, hc⟩
    · obtain ⟨rfl, rfl⟩ := Retry.mk.inj (Option.some.inj hr)
      obtain ⟨rest, hrest, hcut⟩ := cut_star_iff.mp hc
      exact cut_star_iff.mpr ⟨rest, hrest.trans (List.suffix_cons _ _), hcut⟩
  · intro hc
    obtain ⟨rest, hrest, hcut⟩ := cut_star_iff.mp hc
    cases input with
    | nil => exact Or.inl (List.suffix_nil.mp hrest ▸ hcut)
    | cons b more =>
        rcases List.suffix_cons_iff.mp hrest with rfl | hmore
        · exact Or.inl hcut
        · exact Or.inr ⟨pattern, b, more, rfl, cut_star_iff.mpr ⟨rest, hmore, hcut⟩⟩

/-- **A round keeps what can be matched.** -/
theorem admits_step {c c' : Cursor} (h : c.Aligned) (hs : c.step = .next c') :
    c'.Admits ↔ c.Admits := by
  rcases Cursor.step_next hs with ⟨b, input, rest, _, hhead, rfl⟩ |
    ⟨b, input, rest, hinput, hhead, rfl⟩ |
    ⟨b, input, pattern, a, more, hinput, hhead, hretry, rfl⟩
  · -- the new star takes the place of the old one
    obtain ⟨_, htokens⟩ := head_star hhead
    rw [admits_at_star, Cursor.Admits, htokens]
    constructor
    · exact Or.inl
    · rintro (hc | ⟨pattern, b', more, hr, hc⟩)
      · exact hc
      · obtain ⟨later, hlater, _, hcut⟩ := h.exchange hr hc
        rw [htokens] at hcut
        obtain ⟨rest', hrest', hcut'⟩ := cut_star_iff.mp hcut
        exact cut_star_iff.mpr ⟨rest', hrest'.trans hlater, hcut'⟩
  · obtain ⟨_, _, t, _, _, ht, hb, htokens⟩ := head_fits hhead
    have hcut : Cut (tokens c.pattern) c.input ↔ Cut (tokens rest) input := by
      rw [htokens, hinput, cut_cons_iff ht]
      constructor
      · rintro ⟨b', input', heq, _, hc⟩
        obtain ⟨rfl, rfl⟩ := List.cons.inj heq
        exact hc
      · intro hc; exact ⟨b, input, rfl, hb, hc⟩
    rw [Cursor.Admits, Cursor.Admits, hcut]
  · -- nothing ahead fits, so all there is to match is what the star finds further on
    rw [admits_at_star, Cursor.Admits, hinput, hretry]
    constructor
    · intro hc; exact Or.inr ⟨pattern, a, more, rfl, hc⟩
    · rintro (hc | ⟨pattern', a', more', hr, hc⟩)
      · exact absurd hc (not_cut_of_stuck hhead)
      · obtain ⟨rfl, hin⟩ := Retry.mk.inj (Option.some.inj hr)
        obtain ⟨_, rfl⟩ := List.cons.inj hin
        exact hc

/-- **The last round answers it.** -/
theorem admits_done {c : Cursor} {matched : Bool} (h : c.Aligned) (hs : c.step = .done matched) :
    matched = true ↔ c.Admits := by
  rcases Cursor.step_done hs with ⟨hinput, rfl⟩ | ⟨b, input, hinput, hhead, rfl, hretry⟩
  · rw [Cursor.Admits, hinput, cut_empty_iff, all_star_iff]
    constructor
    · exact Or.inl
    · rintro (hc | ⟨pattern, b, more, hr, hc⟩)
      · exact hc
      · obtain ⟨rest, _, hshort, _⟩ := h.exchange hr hc
        rw [hinput] at hshort
        exact absurd hshort (Nat.not_lt_zero _)
  · rw [Cursor.Admits, hinput]
    constructor
    · intro hf; exact absurd hf (by simp)
    · rintro (hc | ⟨pattern, a, more, hr, _⟩)
      · exact absurd hc (not_cut_of_stuck hhead)
      · exact absurd hr (hretry pattern a more)

/-- A run answers whether anything can be matched from where it starts. -/
theorem run_admits {limit : Nat} {c : Cursor} {matched : Bool} (h : c.Aligned)
    (hrun : c.run limit = some matched) : matched = true ↔ c.Admits := by
  induction limit generalizing c with
  | zero => exact absurd hrun (by simp [Cursor.run])
  | succ limit ih =>
      rw [Cursor.run] at hrun
      split at hrun
      · rename_i m hs
        obtain rfl := Option.some.inj hrun
        exact admits_done h hs
      · rename_i c' hs
        exact (ih (aligned_step h hs) hrun).trans (admits_step h hs)

/-! ## Every run ends -/

/-- Where the cursor and its star stand in a pattern and an input. -/
structure Cursor.Within (pattern input : Bytes) (c : Cursor) : Prop where
  /-- The pattern ahead is an end of the pattern. -/
  patternAhead : c.pattern <:+ pattern
  /-- The input ahead is an end of the input. -/
  inputAhead : c.input <:+ input
  /-- There is a star before the pattern that it is followed by, and the cursor is past it. -/
  star : ∀ r, c.retry = some r → Glob.star :: r.pattern <:+ pattern ∧ r.input <:+ input ∧
    c.pattern <:+ r.pattern ∧ c.input <:+ r.input

theorem within_start (pattern input : Bytes) :
    (Cursor.start pattern input).Within pattern input where
  patternAhead := List.suffix_rfl
  inputAhead := List.suffix_rfl
  star := by intro r hr; exact absurd hr (by simp [Cursor.start])

theorem within_step {pattern input : Bytes} {c c' : Cursor} (h : c.Within pattern input)
    (hs : c.step = .next c') : c'.Within pattern input := by
  rcases Cursor.step_next hs with ⟨b, ahead, rest, _, hhead, rfl⟩ |
    ⟨b, ahead, rest, hinput, hhead, rfl⟩ |
    ⟨b, ahead, after, a, more, hinput, hhead, hretry, rfl⟩
  · obtain ⟨hpattern, _⟩ := head_star hhead
    have hstar : Glob.star :: rest <:+ pattern := hpattern ▸ h.patternAhead
    refine ⟨(List.suffix_cons _ _).trans hstar, h.inputAhead, ?_⟩
    intro r hr
    obtain rfl := Option.some.inj hr
    exact ⟨hstar, h.inputAhead, List.suffix_rfl, List.suffix_rfl⟩
  · obtain ⟨a, bytes, _, hpattern, hrest, _⟩ := head_fits hhead
    have hp : rest <:+ c.pattern := hpattern ▸ hrest.trans (List.suffix_cons _ _)
    have hi : ahead <:+ c.input := hinput ▸ List.suffix_cons _ _
    refine ⟨hp.trans h.patternAhead, hi.trans h.inputAhead, ?_⟩
    intro r hr
    obtain ⟨h1, h2, h3, h4⟩ := h.star r hr
    exact ⟨h1, h2, hp.trans h3, hi.trans h4⟩
  · obtain ⟨h1, h2, _, _⟩ := h.star _ hretry
    have hmore : more <:+ input := (List.suffix_cons _ _).trans h2
    refine ⟨(List.suffix_cons _ _).trans h1, hmore, ?_⟩
    intro r hr
    obtain rfl := Option.some.inj hr
    exact ⟨h1, hmore, List.suffix_rfl, List.suffix_rfl⟩

/-- The input on which the star was last tried. -/
def Cursor.tried (c : Cursor) : Bytes := c.retry.elim c.input (·.input)

theorem Cursor.Within.length_le_tried {pattern input : Bytes} {c : Cursor}
    (h : c.Within pattern input) : c.input.length ≤ c.tried.length := by
  unfold Cursor.tried
  cases hr : c.retry with
  | none => exact Nat.le_refl _
  | some r => exact (h.star r hr).2.2.2.length_le

/-- What a run has to go through: the input on which the star can still be tried, and below that the
pattern ahead. The one shrinks when the matcher goes back, the other in between. -/
def Cursor.weight (pattern : Bytes) (c : Cursor) : Nat :=
  c.tried.length * (pattern.length + 1) + c.pattern.length

theorem weight_step {pattern input : Bytes} {c c' : Cursor} (h : c.Within pattern input)
    (hs : c.step = .next c') : c'.weight pattern < c.weight pattern := by
  unfold Cursor.weight
  rcases Cursor.step_next hs with ⟨b, ahead, rest, _, hhead, rfl⟩ |
    ⟨b, ahead, rest, hinput, hhead, rfl⟩ |
    ⟨b, ahead, after, a, more, hinput, hhead, hretry, rfl⟩
  · have hpattern := congrArg List.length (head_star hhead).1
    have htried := Nat.mul_le_mul_right (pattern.length + 1) h.length_le_tried
    simp only [Cursor.tried, Option.elim_some, List.length_cons] at hpattern htried ⊢
    omega
  · obtain ⟨a, bytes, _, hpattern, hrest, _⟩ := head_fits hhead
    have hshort : rest.length < c.pattern.length := by
      rw [hpattern]; exact Nat.lt_succ_of_le hrest.length_le
    have htried : Cursor.tried ⟨rest, ahead, c.retry⟩ <:+ c.tried := by
      unfold Cursor.tried
      cases c.retry with
      | none => exact hinput ▸ List.suffix_cons _ _
      | some r => exact List.suffix_rfl
    have := Nat.mul_le_mul_right (pattern.length + 1) htried.length_le
    dsimp only
    omega
  · obtain ⟨hstar, _⟩ := h.star _ hretry
    have hlen := hstar.length_le
    simp only [Cursor.tried, hretry, Option.elim_some, List.length_cons, Nat.add_mul] at hlen ⊢
    omega

/-- A run with more rounds than its cursor weighs comes to an answer. -/
theorem run_isSome {pattern input : Bytes} {limit : Nat} {c : Cursor} (h : c.Within pattern input)
    (hw : c.weight pattern < limit) : (c.run limit).isSome = true := by
  induction limit generalizing c with
  | zero => exact absurd hw (Nat.not_lt_zero _)
  | succ limit ih =>
      rw [Cursor.run]
      split
      · rfl
      · rename_i c' hs
        exact ih (within_step h hs) (Nat.lt_of_lt_of_le (weight_step h hs) (Nat.le_of_lt_succ hw))

theorem run_rounds_isSome (pattern input : Bytes) :
    ((Cursor.start pattern input).run (Cursor.rounds pattern input)).isSome = true := by
  refine run_isSome (within_start pattern input) ?_
  simp only [Cursor.weight, Cursor.tried, Cursor.start, Cursor.rounds, Option.elim_none,
    Nat.add_mul]
  omega

/-! ## At the top -/

theorem run_rounds (pattern input : Bytes) :
    (Cursor.start pattern input).run (Cursor.rounds pattern input) =
      some (isMatch pattern input) := by
  obtain ⟨matched, hrun⟩ := Option.isSome_iff_exists.mp (run_rounds_isSome pattern input)
  rw [isMatch, hrun]
  rfl

/--
**The matcher decides the language.** It comes to an answer on every pattern and every input, and
the answer is yes exactly if the input can be cut into one piece for each token of the pattern.
-/
theorem isMatch_iff_language (pattern input : Bytes) :
    (Cursor.start pattern input).run (Cursor.rounds pattern input) =
        some (isMatch pattern input) ∧
      (isMatch pattern input = true ↔ Language pattern input) := by
  have hrun := run_rounds pattern input
  refine ⟨hrun, (run_admits (aligned_start pattern input) hrun).trans ?_⟩
  simp [Cursor.Admits, Cursor.start, Language]

end KeyRelay.Glob
