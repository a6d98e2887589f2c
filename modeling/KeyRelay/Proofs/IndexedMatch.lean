import KeyRelay.Glob.Position
import KeyRelay.Proofs.GlobMatch

/-!
# The matcher stays in range, and ends

`Glob.Position` writes the matcher with indices, every one of which could be out of
range. None is, and this file is about why.

An index stands for what lies from it on. Read so, a position is a cursor
(`Position.cursor`), and a round of the one is a round of the other
(`Position.round_cases`), as long as the position is in range: its indices do not lie
past the ends, and its star is a star that it has passed. A round keeps that. So what is
known of cursors holds of positions, above all that they weigh less from round to round.
Both indices may go back when the matcher returns to its star, but only together with
a step of the star's own index in the input, and `Cursor.weight` counts that step for more
than a whole pattern.

A class is a loop of its own. Its index only goes on, by the length of an item, and where
the items are cut short it stops at the end of the body at the latest
(`ClassPosition.round_cases`). What byte is tested has no influence on where it stops.
-/

namespace KeyRelay.Glob

/-! ## An index and what lies from it on -/

section

variable {bytes ahead : Bytes} {i : Nat}

theorem getElem?_of_drop (h : bytes.drop i = ahead) (n : Nat) : bytes[i + n]? = ahead[n]? := by
  rw [← h, List.getElem?_drop]

theorem drop_of_drop (h : bytes.drop i = ahead) (n : Nat) :
    bytes.drop (i + n) = ahead.drop n := by
  rw [← h, List.drop_drop]

theorem length_of_drop (h : bytes.drop i = ahead) (hi : i ≤ bytes.length) :
    bytes.length = i + ahead.length := by
  rw [← h, List.length_drop]; omega

end

/-! ## One item of a class -/

section

variable {byte a : UInt8} {found : Bool} {rest : Bytes}

theorem testItems_close : testItems byte found (closeBracket :: rest) = (found, rest) := by
  rw [testItems.eq_def]; rfl

theorem testItems_escape {b : UInt8} : testItems byte found (backslash :: b :: rest) =
    testItems byte (found || (Item.single b).contains byte) rest := by
  rw [testItems.eq_def]; rfl

theorem testItems_range {c : UInt8} (hclose : a ≠ closeBracket) (hescape : a ≠ backslash) :
    testItems byte found (a :: hyphen :: c :: rest) =
      testItems byte (found || (Item.range a c).contains byte) rest := by
  rw [testItems.eq_def]
  dsimp only
  rw [if_neg hclose, if_neg hescape, if_pos rfl]

/-- A byte is an item by itself where it does not close the class, and neither an escape nor a
range begins with it. -/
theorem testItems_single (hclose : a ≠ closeBracket) (hescape : a = backslash → rest = [])
    (hrange : ∀ c more, rest ≠ hyphen :: c :: more) :
    testItems byte found (a :: rest) =
      testItems byte (found || (Item.single a).contains byte) rest := by
  rw [testItems.eq_def]
  dsimp only
  rw [if_neg hclose]
  by_cases ha : a = backslash
  · rw [if_pos ha, hescape ha]; rfl
  · rw [if_neg ha]
    -- only two bytes more can make a range
    rcases rest with _ | ⟨b, _ | ⟨c, more⟩⟩
    · rfl
    · rfl
    · have hb : b ≠ hyphen := by
        rintro rfl; exact hrange c more rfl
      dsimp only
      rw [if_neg hb]

end

/-! ## The rounds of a class -/

/-- What testing comes to from a position on: whether an item holds the byte, and what follows the
class. -/
def ClassPosition.left (body : Bytes) (byte : UInt8) (q : ClassPosition) : Bool × Bytes :=
  testItems byte q.found (body.drop q.index)

/-- **A round of a class stays in its body.** It takes the item that `testItems` would take, or
stops where that would stop. -/
theorem ClassPosition.round_cases {body : Bytes} {q : ClassPosition} (h : q.index ≤ body.length)
    (byte : UInt8) :
    (∃ q', q.round body byte = some (.done q') ∧ q'.index ≤ body.length ∧
        q.left body byte = (q'.found, body.drop q'.index)) ∨
    (∃ q', q.round body byte = some (.again q') ∧ q.index < q'.index ∧ q'.index ≤ body.length ∧
        q.left body byte = q'.left body byte) := by
  obtain ⟨ahead, hahead⟩ : ∃ ahead, body.drop q.index = ahead := ⟨_, rfl⟩
  have hlen := length_of_drop hahead h
  have hget := getElem?_of_drop hahead
  have hdrop := drop_of_drop hahead
  have h0 : body[q.index]? = ahead[0]? := hget 0
  -- the cases are those of the round: each guard says how many bytes lie ahead
  rw [ClassPosition.round, ClassPosition.left, h0, hahead]
  cases ahead with
  | nil => exact .inl ⟨q, rfl, h, by rw [hahead, testItems]⟩
  | cons a rest =>
      rw [List.length_cons] at hlen
      dsimp only [List.getElem?_cons_zero]
      by_cases hclose : a = closeBracket
      · subst hclose
        refine .inl ⟨⟨q.index + 1, q.found⟩, if_pos rfl, by dsimp only; omega, ?_⟩
        rw [testItems_close, hdrop 1]; rfl
      rw [if_neg hclose]
      by_cases hescape : a = backslash ∧ q.index + 1 < body.length
      · obtain ⟨b, more, rfl⟩ := List.exists_cons_of_length_pos (l := rest) (by omega)
        rw [List.length_cons] at hlen
        obtain rfl : a = backslash := hescape.1
        rw [if_pos hescape, hget 1]
        refine .inr ⟨_, rfl, by dsimp only; omega, by dsimp only; omega, ?_⟩
        rw [testItems_escape, ClassPosition.left, hdrop 2]; rfl
      rw [if_neg hescape]
      by_cases hrange : body[q.index + 1]? = some hyphen ∧ q.index + 2 < body.length
      · obtain ⟨b, more, rfl⟩ := List.exists_cons_of_length_pos (l := rest) (by omega)
        rw [List.length_cons] at hlen
        obtain ⟨c, more, rfl⟩ := List.exists_cons_of_length_pos (l := more) (by omega)
        rw [List.length_cons] at hlen
        obtain rfl : b = hyphen := Option.some.inj ((hget 1).symm.trans hrange.1)
        have hescape' : a ≠ backslash := fun ha => hescape ⟨ha, by omega⟩
        rw [if_pos hrange, hget 2]
        refine .inr ⟨_, rfl, by dsimp only; omega, by dsimp only; omega, ?_⟩
        rw [testItems_range hclose hescape', ClassPosition.left, hdrop 3]; rfl
      · -- neither guard holds, so a backslash ends the body and a hyphen makes no range
        have hescape' : a = backslash → rest = [] := fun ha =>
          List.eq_nil_of_length_eq_zero (by have := mt (And.intro ha) hescape; omega)
        have hrange' : ∀ c more, rest ≠ hyphen :: c :: more := by
          rintro c more rfl
          simp only [List.length_cons] at hlen
          exact hrange ⟨hget 1, by omega⟩
        rw [if_neg hrange]
        refine .inr ⟨_, rfl, Nat.lt_succ_self _, by dsimp only; omega, ?_⟩
        rw [testItems_single hclose hescape' hrange', ClassPosition.left, hdrop 1]; rfl

/-- A class comes to its end, since its index only goes on and stays in its body. It ends where what
is left to be tested says so. -/
theorem ClassPosition.descends (body : Bytes) (byte : UInt8) (answer : Bool × Bytes) :
    Loop.Descends (ClassPosition.round body byte)
      (fun q => q.index ≤ body.length ∧ q.left body byte = answer)
      (fun q => body.length - q.index)
      (fun q => q.index ≤ body.length ∧ answer = (q.found, body.drop q.index)) where
  cases := by
    rintro q ⟨hle, rfl⟩
    rcases ClassPosition.round_cases hle byte with ⟨q', hround, hle', hleft⟩ |
      ⟨q', hround, hless, hle', hleft⟩
    · exact .inl ⟨q', hround, hle', hleft⟩
    · exact .inr ⟨q', hround, ⟨hle', hleft.symm⟩, by omega⟩

theorem ClassPosition.start_le (body : Bytes) : (ClassPosition.start body).index ≤ body.length := by
  cases body with
  | nil => exact Nat.le_refl 0
  | cons b rest =>
      rw [ClassPosition.start, List.length_cons]
      dsimp only
      split <;> omega

/-- Testing a class is testing what is left at the start of it, the other way round behind a
caret. -/
theorem Class.test_eq_left (body : Bytes) (byte : UInt8) :
    Class.test body byte =
      ((((ClassPosition.start body).left body byte).1 != (body[0]? == some caret)),
        ((ClassPosition.start body).left body byte).2) := by
  cases body with
  | nil => rfl
  | cons b rest =>
      by_cases hb : b = caret
      · simp [Class.test, ClassPosition.start, ClassPosition.left, hb]
      · have hfirst : (b == caret) = false := beq_eq_false_iff_ne.mpr hb
        simp [Class.test, ClassPosition.start, ClassPosition.left, hb, hfirst]

/-- **Testing by indices is testing.** It stops where the class ends, whatever byte is tested. -/
theorem Class.testAt_eq (body : Bytes) (byte : UInt8) :
    Class.testAt body byte = some ((Class.read body).1.contains byte,
      body.length - (Class.read body).2.length) := by
  have hdescends := ClassPosition.descends body byte ((ClassPosition.start body).left body byte)
  obtain ⟨q, hrun, hle, hleft⟩ :=
    hdescends.run_eq ⟨ClassPosition.start_le body, rfl⟩ (Nat.lt_succ_of_le (Nat.sub_le ..))
  have htest := Class.test_eq_left body byte
  rw [Class.test_eq, hleft] at htest
  obtain ⟨hcontains, hrest⟩ := Prod.mk.inj htest
  have hindex : body.length - (body.drop q.index).length = q.index := by
    rw [List.length_drop]; omega
  rw [Class.testAt, hrun, hcontains, hrest, hindex]; rfl

/-- What follows a class is what lies from its end on. -/
theorem Class.drop_eq_read (body : Bytes) :
    body.drop (body.length - (Class.read body).2.length) = (Class.read body).2 :=
  (List.suffix_iff_eq_drop.mp (Class.read_suffix body)).symm

/-! ## What is found at an index -/

/-- What a spot is for a matcher that knows only what lies ahead. -/
def Spot.head (pattern : Bytes) (i : Nat) : Spot → Head
  | .star => .star (pattern.drop (i + 1))
  | .fits after => .fits (pattern.drop after)
  | .stuck => .stuck

/-- A star stands where it is found, and a token that takes a byte is one of the pattern's. -/
def Spot.InRange (pattern : Bytes) (i : Nat) : Spot → Prop
  | .star => pattern[i]? = some Glob.star
  | .fits after => i < after ∧ after ≤ pattern.length
  | .stuck => True

theorem rest?_of_le {bytes : Bytes} {i : Nat} (h : i ≤ bytes.length) :
    rest? bytes i = some (bytes.drop i) :=
  if_pos h

section

variable {byte b : UInt8} {rest : Bytes}

theorem head_bracket : Head.of byte (openBracket :: rest) =
    if (Class.read rest).1.contains byte then .fits (Class.read rest).2 else .stuck := by
  have h : Head.of byte (openBracket :: rest) =
      if (Class.test rest byte).1 then .fits (Class.test rest byte).2 else .stuck := by
    rw [Head.of.eq_def]; rfl
  rw [h, Class.test_eq]

theorem head_escape : Head.of byte (backslash :: b :: rest) =
    if b = byte then .fits rest else .stuck := by
  rw [Head.of.eq_def]; rfl

theorem head_literal (hstar : b ≠ Glob.star) (hquestion : b ≠ question)
    (hbracket : b ≠ openBracket) (hescape : b = backslash → rest = []) :
    Head.of byte (b :: rest) = if b = byte then .fits rest else .stuck := by
  rw [Head.of.eq_def]
  dsimp only
  rw [if_neg hstar, if_neg hquestion, if_neg hbracket]
  by_cases hb : b = backslash
  · rw [if_pos hb, hescape hb]
  · rw [if_neg hb]

end

/-- A token that takes the byte under a condition, and ends at an index in range. -/
theorem Spot.fits_or_stuck {pattern rest : Bytes} {i after : Nat} (hless : i < after)
    (hle : after ≤ pattern.length) (hrest : pattern.drop after = rest) (p : Prop) [Decidable p] :
    ∃ spot, some (if p then Spot.fits after else .stuck) = some spot ∧ spot.InRange pattern i ∧
      (if p then Head.fits rest else .stuck) = spot.head pattern i := by
  by_cases hp : p
  · exact ⟨.fits after, congrArg some (if_pos hp), ⟨hless, hle⟩, by rw [if_pos hp, head, hrest]⟩
  · exact ⟨.stuck, congrArg some (if_neg hp), trivial, if_neg hp⟩

/-- **At an index in range, every access finds its byte**, and what is found there is what is found
at the head of what lies ahead. -/
theorem Spot.of_cases {pattern : Bytes} {i : Nat} (h : i ≤ pattern.length) (byte : UInt8) :
    ∃ spot, Spot.of byte pattern i = some spot ∧ spot.InRange pattern i ∧
      Head.of byte (pattern.drop i) = spot.head pattern i := by
  obtain ⟨ahead, hahead⟩ : ∃ ahead, pattern.drop i = ahead := ⟨_, rfl⟩
  have hlen := length_of_drop hahead h
  have hget := getElem?_of_drop hahead
  have hdrop := drop_of_drop hahead
  have h0 : pattern[i]? = ahead[0]? := hget 0
  rw [Spot.of, h0, hahead]
  cases ahead with
  | nil => exact ⟨.stuck, rfl, trivial, rfl⟩
  | cons b rest =>
      rw [List.length_cons] at hlen
      have hrest : pattern.drop (i + 1) = rest := hdrop 1
      dsimp only [List.getElem?_cons_zero]
      by_cases hstar : b = Glob.star
      · subst hstar
        exact ⟨.star, if_pos rfl, h0, by rw [Head.of.eq_def, Spot.head, hrest]; rfl⟩
      rw [if_neg hstar]
      by_cases hquestion : b = question
      · subst hquestion
        refine ⟨.fits (i + 1), if_pos rfl, ⟨Nat.lt_succ_self i, by omega⟩, ?_⟩
        rw [Head.of.eq_def, Spot.head, hrest]; rfl
      rw [if_neg hquestion]
      by_cases hbracket : b = openBracket
      · subst hbracket
        -- the class is read from what follows its bracket, so its length is counted from there
        have hafter := drop_of_drop hrest (rest.length - (Class.read rest).2.length)
        rw [Class.drop_eq_read] at hafter
        rw [if_pos rfl, rest?_of_le (by omega), hrest, head_bracket]
        dsimp only [Option.bind_eq_bind, Option.bind_some]
        rw [Class.testAt_eq]
        exact Spot.fits_or_stuck (by omega) (by omega) hafter _
      rw [if_neg hbracket]
      by_cases hescape : b = backslash ∧ i + 1 < pattern.length
      · obtain ⟨a, after, rfl⟩ := List.exists_cons_of_length_pos (l := rest) (by omega)
        rw [List.length_cons] at hlen
        obtain rfl : b = backslash := hescape.1
        rw [if_pos hescape, hget 1, head_escape]
        exact Spot.fits_or_stuck (by omega) (by omega) (hdrop 2) _
      · have hescape' : b = backslash → rest = [] := fun hb =>
          List.eq_nil_of_length_eq_zero (by have := mt (And.intro hb) hescape; omega)
        rw [if_neg hescape, head_literal hstar hquestion hbracket hescape']
        exact Spot.fits_or_stuck (Nat.lt_succ_self i) (by omega) hrest _

/-! ## The rounds of the matcher -/

/-- A position stands for the cursor that has before it what lies from its indices on. -/
def Position.cursor (pattern input : Bytes) (p : Position) : Cursor :=
  ⟨pattern.drop p.pattern, input.drop p.input,
    p.star.map fun s => ⟨pattern.drop (s.pattern + 1), input.drop s.input⟩⟩

/-- A position whose indices point into the pattern and the input, or to their ends. -/
structure Position.InRange (pattern input : Bytes) (p : Position) : Prop where
  pattern_le : p.pattern ≤ pattern.length
  input_le : p.input ≤ input.length
  /-- The most recent star is a star, it has been passed, and it was not tried later than here. -/
  star : ∀ s, p.star = some s →
    pattern[s.pattern]? = some Glob.star ∧ s.pattern < p.pattern ∧ s.input ≤ p.input

theorem Position.inRange_start (pattern input : Bytes) :
    Position.start.InRange pattern input where
  pattern_le := Nat.zero_le _
  input_le := Nat.zero_le _
  star := by intro s hs; exact absurd hs (by simp [Position.start])

/-- Right after a star a position is in range: the star is the one before it, and is tried from
here. -/
theorem Position.inRange_at_star {pattern input : Bytes} {j i : Nat}
    (hstar : pattern[j]? = some Glob.star) (hi : i ≤ input.length) :
    Position.InRange pattern input ⟨j + 1, i, some ⟨j, i⟩⟩ where
  pattern_le := (List.getElem?_eq_some_iff.mp hstar).1
  input_le := hi
  star := by
    intro s hs
    obtain rfl := Option.some.inj hs
    exact ⟨hstar, Nat.lt_succ_self _, Nat.le_refl _⟩

/-- **A round of the matcher stays in range.** It makes of a position what the cursor's round makes
of what lies ahead. -/
theorem Position.round_cases {pattern input : Bytes} {p : Position}
    (h : p.InRange pattern input) :
    (∃ matched, p.round pattern input = some (.done matched) ∧
        (p.cursor pattern input).step = .done matched) ∨
    (∃ p', p.round pattern input = some (.again p') ∧ p'.InRange pattern input ∧
        (p.cursor pattern input).step = .next (p'.cursor pattern input)) := by
  rw [Position.round, Cursor.step]
  by_cases hinput : p.input < input.length
  · have hbyte : input[p.input]? = some input[p.input] := List.getElem?_eq_getElem hinput
    have hahead : (p.cursor pattern input).input = input[p.input] :: input.drop (p.input + 1) :=
      List.drop_eq_getElem_cons hinput
    obtain ⟨spot, hspot, hrange, hhead⟩ := Spot.of_cases h.pattern_le input[p.input]
    have hhead' : Head.of input[p.input] (p.cursor pattern input).pattern = _ := hhead
    rw [if_pos hinput, hbyte, hahead]
    dsimp only [Option.bind_eq_bind, Option.bind_some]
    rw [hspot, hhead']
    cases spot with
    | star =>
        refine .inr ⟨_, rfl, Position.inRange_at_star hrange h.input_le, ?_⟩
        rw [← hahead]; rfl
    | fits after =>
        obtain ⟨hless, hle⟩ := hrange
        refine .inr ⟨_, rfl, ⟨hle, hinput, ?_⟩, rfl⟩
        intro s hs
        obtain ⟨hstar, hpassed, htried⟩ := h.star s hs
        exact ⟨hstar, Nat.lt_trans hpassed hless, Nat.le_succ_of_le htried⟩
    | stuck =>
        cases hs : p.star with
        | none =>
            have hretry : (p.cursor pattern input).retry = none := by
              rw [Position.cursor, hs]; rfl
            exact .inl ⟨false, rfl, by dsimp only [Spot.head]; rw [Cursor.backtrack, hretry]⟩
        | some s =>
            -- the star takes one byte more; there is one, for it was not tried later than here
            obtain ⟨hstar, -, htried⟩ := h.star s hs
            have hless : s.input < input.length := Nat.lt_of_le_of_lt htried hinput
            have hretry : (p.cursor pattern input).retry = some
                ⟨pattern.drop (s.pattern + 1), input[s.input] :: input.drop (s.input + 1)⟩ := by
              rw [Position.cursor, hs, ← List.drop_eq_getElem_cons hless]; rfl
            refine .inr ⟨_, rfl, Position.inRange_at_star hstar hless, ?_⟩
            dsimp only [Spot.head]
            rw [Cursor.backtrack, hretry]; rfl
  · have hend : p.input = input.length := Nat.le_antisymm h.input_le (Nat.not_lt.mp hinput)
    have hahead : (p.cursor pattern input).input = [] :=
      List.drop_eq_nil_of_le (hend ▸ Nat.le_refl _)
    have hmin : p.pattern.min pattern.length = p.pattern := Nat.min_eq_left h.pattern_le
    rw [if_neg hinput, hahead, hmin, rest?_of_le h.pattern_le]
    exact .inl ⟨_, rfl, rfl⟩

theorem Position.InRange.within {pattern input : Bytes} {p : Position}
    (h : p.InRange pattern input) : (p.cursor pattern input).Within pattern input where
  patternAhead := List.drop_suffix _ _
  inputAhead := List.drop_suffix _ _
  star := by
    intro r hr
    obtain ⟨s, hs, rfl⟩ := Option.map_eq_some_iff.mp hr
    obtain ⟨hstar, hpassed, htried⟩ := h.star s hs
    obtain ⟨hless, hbyte⟩ := List.getElem?_eq_some_iff.mp hstar
    have hdrop : Glob.star :: pattern.drop (s.pattern + 1) = pattern.drop s.pattern := by
      rw [List.drop_eq_getElem_cons hless, hbyte]
    exact ⟨hdrop ▸ List.drop_suffix _ _, List.drop_suffix _ _,
      List.drop_suffix_drop_left _ hpassed, List.drop_suffix_drop_left _ htried⟩

/-- The matcher comes to its end, since the cursor gets lighter. -/
theorem Position.descends (pattern input : Bytes) :
    Loop.Descends (Position.round pattern input) (Position.InRange pattern input)
      (fun p => (p.cursor pattern input).weight pattern) (fun _ => True) where
  cases := by
    intro p h
    rcases Position.round_cases h with ⟨matched, hround, -⟩ | ⟨p', hround, hrange, hstep⟩
    · exact .inl ⟨matched, hround, trivial⟩
    · exact .inr ⟨p', hround, hrange, weight_step h.within hstep⟩

/-- **A run by indices is a run of cursors**, round for round. -/
theorem Position.run_eq {pattern input : Bytes} {p : Position} (h : p.InRange pattern input)
    (limit : Nat) :
    Loop.run (Position.round pattern input) limit p = (p.cursor pattern input).run limit := by
  induction limit generalizing p with
  | zero => rfl
  | succ limit ih =>
      rw [Loop.run, Cursor.run]
      rcases Position.round_cases h with ⟨matched, hround, hstep⟩ | ⟨p', hround, hrange, hstep⟩
      · rw [hround, hstep]
      · rw [hround, hstep]
        exact ih hrange

/-! ## At the top -/

theorem weight_start (pattern input : Bytes) :
    (Cursor.start pattern input).weight pattern + 1 =
      (input.length + 1) * (pattern.length + 1) := by
  simp only [Cursor.weight, Cursor.tried, Cursor.start, Option.elim_none, Nat.add_mul]
  omega

/-- Any number of rounds that is enough gives the same answer: whether something can be matched from
the start. -/
theorem run_of_weight_lt {pattern input : Bytes} {limit : Nat}
    (h : (Cursor.start pattern input).weight pattern < limit) :
    (Cursor.start pattern input).run limit = some (isMatch pattern input) := by
  obtain ⟨matched, hrun⟩ :=
    Option.isSome_iff_exists.mp (run_isSome (within_start pattern input) h)
  have hsame : matched = isMatch pattern input := by
    rw [Bool.eq_iff_iff]
    have hstart := aligned_start pattern input
    exact (run_admits hstart hrun).trans (run_admits hstart (run_rounds pattern input)).symm
  rw [hrun, hsame]

/--
**The matcher ends, and stays in range on its way.** Let a pattern and an input be any bytes, and
let the matcher go by indices.

* A run by indices is a run of the matcher: after any number of rounds the one has an answer exactly
  if the other has, and then it is the same.
* No more than (length of the input + 1) * (length of the pattern + 1) rounds are needed for the
  answer. The round that finds the input at its end is one of them.
* Whenever a round begins, both indices lie in their texts or at their ends; the star that is
  remembered is a star of the pattern before the index, and was not tried later than at the index of
  the input; and every access of the round finds its byte.
* A class belongs to the pattern as far as a length that is the same for all bytes tested and is no
  more than that of its body. Its end is found within one round more than the body has bytes, its
  index does not leave the body, and every access finds its byte. The test answers what the
  matcher's own test answers, and that goes on behind this length.
-/
theorem matcher_ends_in_range (pattern input : Bytes) :
    (∀ limit, Loop.run (Position.round pattern input) limit Position.start =
      (Cursor.start pattern input).run limit) ∧
    Loop.run (Position.round pattern input) ((input.length + 1) * (pattern.length + 1))
      Position.start = some (isMatch pattern input) ∧
    (∀ k p, Loop.Reaches (Position.round pattern input) Position.start k p →
      k < (input.length + 1) * (pattern.length + 1) ∧
      p.pattern ≤ pattern.length ∧ p.input ≤ input.length ∧
      (∀ s, p.star = some s →
        pattern[s.pattern]? = some star ∧ s.pattern < p.pattern ∧ s.input ≤ p.input) ∧
      (p.round pattern input).isSome = true) ∧
    ∀ body : Bytes, ∃ length ≤ body.length, ∀ byte,
      Class.testAt body byte = some ((Class.read body).1.contains byte, length) ∧
      Class.test body byte = ((Class.read body).1.contains byte, body.drop length) ∧
      ∀ k q, Loop.Reaches (ClassPosition.round body byte) (ClassPosition.start body) k q →
        k ≤ body.length ∧ q.index ≤ body.length ∧ (q.round body byte).isSome = true := by
  have hstart := Position.inRange_start pattern input
  have hrun := Position.run_eq hstart
  have hweight := weight_start pattern input
  refine ⟨hrun, ?_, ?_, ?_⟩
  · rw [hrun]
    exact run_of_weight_lt (hweight ▸ Nat.lt_succ_self _)
  · intro k p hreaches
    have hdescends := Position.descends pattern input
    obtain ⟨hrange, hpaid⟩ := hdescends.reaches hstart hreaches
    have hless : k < (input.length + 1) * (pattern.length + 1) := by
      have hfirst : Position.start.cursor pattern input = Cursor.start pattern input := rfl
      rw [hfirst] at hpaid
      omega
    exact ⟨hless, hrange.pattern_le, hrange.input_le, hrange.star, hdescends.isSome hrange⟩
  · intro body
    refine ⟨body.length - (Class.read body).2.length, Nat.sub_le _ _, fun byte => ?_⟩
    refine ⟨Class.testAt_eq body byte, ?_, ?_⟩
    · rw [Class.test_eq, Class.drop_eq_read]
    · intro k q hreaches
      have hdescends :=
        ClassPosition.descends body byte ((ClassPosition.start body).left body byte)
      obtain ⟨hinv, hpaid⟩ :=
        hdescends.reaches ⟨ClassPosition.start_le body, rfl⟩ hreaches
      exact ⟨by omega, hinv.1, hdescends.isSome hinv⟩

/-- A class that is cut short makes the matcher go back, in the pattern and in the input: it has
come upon the class behind two bytes, and is then behind the star again. The hyphen that ends the
body of this class is an item. -/
theorem matcher_ends_in_range_going_back :
    (Loop.Reaches (Position.round (Utf8.encode "*aa[b-") (Utf8.encode "aaab")) Position.start 3
        ⟨3, 2, some ⟨0, 0⟩⟩ ∧
      Loop.Reaches (Position.round (Utf8.encode "*aa[b-") (Utf8.encode "aaab")) Position.start 4
        ⟨1, 1, some ⟨0, 1⟩⟩ ∧
      4 < ((Utf8.encode "aaab").length + 1) * ((Utf8.encode "*aa[b-").length + 1) ∧
      ((Utf8.encode "*aa[b-")[0]? = some star ∧ 0 < 1 ∧ 1 ≤ 1) ∧
      (Position.round (Utf8.encode "*aa[b-") (Utf8.encode "aaab") ⟨1, 1, some ⟨0, 1⟩⟩).isSome =
        true) ∧
    Loop.Reaches (ClassPosition.round (Utf8.encode "b-") hyphen)
        (ClassPosition.start (Utf8.encode "b-")) 2 ⟨2, true⟩ ∧
      2 ≤ (Utf8.encode "b-").length ∧
      (ClassPosition.round (Utf8.encode "b-") hyphen ⟨2, true⟩).isSome = true := by
  have hclassMet : Loop.Reaches (Position.round (Utf8.encode "*aa[b-") (Utf8.encode "aaab"))
      Position.start 3 ⟨3, 2, some ⟨0, 0⟩⟩ := by
    refine .again (s := ⟨2, 1, some ⟨0, 0⟩⟩) ?_ (by decide +kernel)
    refine .again (s := ⟨1, 0, some ⟨0, 0⟩⟩) ?_ (by decide +kernel)
    exact .again .first (by decide +kernel)
  have hback := hclassMet.again (t := ⟨1, 1, some ⟨0, 1⟩⟩) (by decide +kernel)
  have hclass : Loop.Reaches (ClassPosition.round (Utf8.encode "b-") hyphen)
      (ClassPosition.start (Utf8.encode "b-")) 2 ⟨2, true⟩ := by
    refine .again (s := ⟨1, false⟩) ?_ (by decide +kernel)
    exact .again .first (by decide +kernel)
  obtain ⟨-, -, hrounds, hclasses⟩ :=
    matcher_ends_in_range (Utf8.encode "*aa[b-") (Utf8.encode "aaab")
  obtain ⟨hfew, -, -, hstar, hround⟩ := hrounds 4 _ hback
  obtain ⟨length, -, htest⟩ := hclasses (Utf8.encode "b-")
  obtain ⟨hfew', -, hround'⟩ := (htest hyphen).2.2 2 _ hclass
  exact ⟨⟨hclassMet, hback, hfew, hstar _ rfl, hround⟩, hclass, hfew', hround'⟩

end KeyRelay.Glob
