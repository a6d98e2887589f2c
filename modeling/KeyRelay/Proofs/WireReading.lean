import KeyRelay.Keys.WireRequest
import Mathlib.Data.List.Basic

/-!
# Every command is read as it was meant

A receiver has only byte strings, and some of them are what a client chose: a key,
a value, a comparand. These lemmas show that none of them can be mistaken for a
keyword. A keyword is looked for at places that a client's bytes never occupy, and
where an optional part is left out, what stands in its place is no keyword of that
part (`condition?_px`).
-/

namespace KeyRelay

/-! ## Numbers -/

namespace Spelled

/-- More digits never make a number smaller. -/
theorem le_ofDigitChars (n : Nat) (digits : List Char) : n ≤ Nat.ofDigitChars 10 digits n := by
  induction digits generalizing n with
  | nil => simp
  | cons c rest ih =>
      rw [Nat.ofDigitChars_cons]
      have := ih (10 * n + (c.toNat - '0'.toNat))
      omega

theorem foldlM_appendDigit {limit : Nat} (n : Nat) (digits : List Char)
    (h : Nat.ofDigitChars 10 digits n ≤ limit) :
    digits.foldlM (appendDigit limit) n = some (Nat.ofDigitChars 10 digits n) := by
  induction digits generalizing n with
  | nil => simp
  | cons c rest ih =>
      rw [Nat.ofDigitChars_cons] at h ⊢
      have hfirst := Nat.le_trans (le_ofDigitChars _ rest) h
      rw [List.foldlM_cons, appendDigit]
      rw [Nat.mul_comm] at hfirst
      rw [if_pos hfirst, Nat.mul_comm n 10]
      exact ih _ h

/-- A number is read as it was written. -/
theorem natural?_toString {n : Nat} (h : n ≤ maxWord) : natural? (toString n).toList = some n := by
  have hdigits : (toString n).toList = Nat.toDigits 10 n := by
    rw [Nat.toString_eq_repr, Nat.toList_repr]
  have hall : (Nat.toDigits 10 n).all Char.isDigit = true :=
    List.all_eq_true.mpr fun c hc => Nat.isDigit_of_mem_toDigits (by decide) (by decide) hc
  have hread : digits? maxWord (Nat.toDigits 10 n) = some n := by
    rw [digits?, if_pos ⟨Nat.toDigits_ne_nil, hall⟩, foldlM_appendDigit,
      Nat.ofDigitChars_ten_toDigits]
    rwa [Nat.ofDigitChars_ten_toDigits]
  rw [hdigits, natural?.eq_def]
  dsimp only
  split
  · rename_i rest hplus
    -- a sign is no digit
    rw [hplus] at hall
    exact absurd hall (by simp)
  · exact hread

end Spelled

theorem Duration.expirationMilliseconds_le (d : Duration) : d.expirationMilliseconds ≤ maxWord := by
  unfold Duration.expirationMilliseconds
  exact Nat.max_le.mpr ⟨Nat.min_le_right _ _, by decide⟩

/-! ## The parts of a command -/

namespace WireRequest

theorem text?_encode (text : String) : text? (Utf8.encode text) = some text := by
  rw [text?, Utf8.decode_encode]
  rfl

/-- A condition is read as it was written. -/
theorem condition?_keyword (c : Condition) :
    condition? (Utf8.encode c.keyword) c.comparand.wire = some c := by
  obtain ⟨operator, comparand⟩ := c
  unfold condition?
  rw [text?_encode]
  cases operator <;> cases comparand <;>
    simp [Condition.keyword, Comparand.wire, text?_encode, Condition.ifEquals,
      Condition.ifNotEquals, Condition.ifDigestEquals, Condition.ifDigestNotEquals]

/-- The keyword of an expiration announces no condition. -/
theorem condition?_px (amount : Bytes) : condition? (Utf8.encode "PX") amount = none := by
  unfold condition?
  rw [text?_encode]
  rfl

theorem takeCondition_arguments (c : Option Condition) (d : Option Duration) :
    takeCondition (WireCommand.conditionArguments c ++ WireCommand.expirationArguments d) =
      (c, WireCommand.expirationArguments d) := by
  cases c with
  | some c =>
      show takeCondition (Utf8.encode c.keyword :: c.comparand.wire :: _) = _
      rw [takeCondition, condition?_keyword]
      rfl
  | none =>
      cases d with
      | none => rfl
      | some d =>
          show takeCondition [Utf8.encode "PX", _] = _
          rw [takeCondition, condition?_px]
          rfl

theorem expiration?_arguments (d : Option Duration) :
    expiration? (WireCommand.expirationArguments d) =
      some (d.map Duration.expirationMilliseconds) := by
  cases d with
  | none => rfl
  | some d =>
      show expiration? [Utf8.encode "PX", _] = _
      rw [expiration?, text?_encode, text?_encode]
      show (Spelled.natural? (toString d.expirationMilliseconds).toList).bind _ = _
      rw [Spelled.natural?_toString d.expirationMilliseconds_le]
      rfl

end WireRequest

/-! ## Commands -/

namespace WireCommand

theorem read?_get (key : String) : (get key).read? = some (.get (Utf8.encode key)) := rfl

theorem read?_digest (key : String) : (digest key).read? = some (.digest (Utf8.encode key)) := rfl

theorem read?_delete (key : String) (condition : Option Condition) :
    (delete key condition).read? = some (.delete (Utf8.encode key) condition) := by
  cases condition with
  | none => rfl
  | some c =>
      show (WireRequest.condition? (Utf8.encode c.keyword) c.comparand.wire).map _ = _
      rw [WireRequest.condition?_keyword]
      rfl

/-- **A write is read with its key, its value, its condition and its milliseconds**, whatever bytes
they are made of. -/
theorem read?_set (key : String) (value : Bytes) (options : SetOptions) :
    (set key value options).read? =
      some (.set (Utf8.encode key) value options.condition
        (options.expiration.map Duration.expirationMilliseconds)) := by
  show (WireRequest.expiration? (WireRequest.takeCondition (conditionArguments options.condition ++
      expirationArguments options.expiration)).2).map (WireRequest.set (Utf8.encode key) value
        (WireRequest.takeCondition (conditionArguments options.condition ++
          expirationArguments options.expiration)).1) = _
  rw [WireRequest.takeCondition_arguments]
  dsimp only
  rw [WireRequest.expiration?_arguments]
  rfl

end WireCommand

end KeyRelay
