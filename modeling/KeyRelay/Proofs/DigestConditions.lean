import KeyRelay.Proofs.LaterMoves

/-!
# What a digest decides

A digest is sixteen lowercase hexadecimal digits, and they spell the first eight bytes
of a hash. Whoever has read the digest of a key can ask for it, or for any other, in a
later change of the key, and may write its letters in either case.

Whether two texts are equal up to the case of their letters is nothing but whether they
are equal in lower case (`equalUpToCase_iff`), and a digest is in lower case already. So
what a condition on a digest comes to depends on the text alone, and a text that is
not made of sixteen digits is no digest of anything.

The digest that was read goes on to decide for as long as its key is there and nobody
changes it, because the value is the same all the while
(`Memory.live?_afterMoves_of_unchanged`).
-/

namespace KeyRelay

/-! ## Hexadecimal text -/

namespace Hex

/-- A digit as it is written, in lower case. -/
def IsWritten (c : Char) : Prop := ('0' ≤ c ∧ c ≤ '9') ∨ ('a' ≤ c ∧ c ≤ 'f')

/-- A digit of either case. -/
def IsDigit (c : Char) : Prop := IsWritten c ∨ ('A' ≤ c ∧ c ≤ 'F')

instance (c : Char) : Decidable (IsWritten c) := inferInstanceAs (Decidable (_ ∨ _))

theorem isWritten_digit : ∀ n < 16, IsWritten (digit n) := by decide

theorem digitValue?_digit : ∀ n < 16, digitValue? (digit n) = some n := by decide

/-- The two halves of a byte. -/
theorem halves_lt (b : UInt8) : b.toNat / 16 < 16 ∧ b.toNat % 16 < 16 := by
  have hbyte : b.toNat < 256 := b.toNat_lt_size
  omega

theorem decodeCharacters_flatMap (bytes : Bytes) :
    decodeCharacters (bytes.flatMap ofByte) = some bytes := by
  induction bytes with
  | nil => rfl
  | cons b rest ih =>
      obtain ⟨hhigh, hlow⟩ := halves_lt b
      have hbyte : b.toNat / 16 * 16 + b.toNat % 16 = b.toNat := by omega
      rw [List.flatMap_cons]
      show (do
        let h ← digitValue? (digit (b.toNat / 16))
        let l ← digitValue? (digit (b.toNat % 16))
        return UInt8.ofNat (h * 16 + l) :: (← decodeCharacters (rest.flatMap ofByte))) = _
      rw [digitValue?_digit _ hhigh, digitValue?_digit _ hlow, ih]
      show some (UInt8.ofNat (b.toNat / 16 * 16 + b.toNat % 16) :: rest) = _
      rw [hbyte, UInt8.ofNat_toNat]

/-- What is written can be read. -/
theorem decode?_encode (bytes : Bytes) : decode? (encode bytes) = some bytes := by
  rw [decode?, encode, String.toList_ofList]
  exact decodeCharacters_flatMap bytes

theorem length_encode (bytes : Bytes) : (encode bytes).length = 2 * bytes.length := by
  rw [encode, String.length_ofList]
  induction bytes with
  | nil => rfl
  | cons b rest ih =>
      have hbyte : (ofByte b).length = 2 := rfl
      rw [List.flatMap_cons, List.length_append, List.length_cons, ih, hbyte]
      omega

theorem isWritten_encode {bytes : Bytes} {c : Char} (h : c ∈ (encode bytes).toList) :
    IsWritten c := by
  rw [encode, String.toList_ofList] at h
  obtain ⟨b, -, hc⟩ := List.mem_flatMap.mp h
  obtain ⟨hhigh, hlow⟩ := halves_lt b
  rcases List.mem_cons.mp hc with rfl | hc
  · exact isWritten_digit _ hhigh
  · rw [List.mem_singleton.mp hc]
    exact isWritten_digit _ hlow

end Hex

/-! ## Upper and lower case -/

theorem char_le_iff_toNat {a b : Char} : a ≤ b ↔ a.toNat ≤ b.toNat := by
  rw [Char.le_def, UInt32.le_iff_toNat_le]
  rfl

theorem toNat_toLower (c : Char) :
    c.toLower.toNat = if 'A' ≤ c ∧ c ≤ 'Z' then c.toNat + 32 else c.toNat := by
  unfold Char.toLower
  split
  · rename_i hvalues
    have hupper : 'A' ≤ c ∧ c ≤ 'Z' := hvalues
    have hbound : c.val.toNat ≤ 90 := UInt32.le_iff_toNat_le.mp hvalues.2
    rw [if_pos hupper]
    show (c.val.toNat + 32) % 2 ^ 32 = c.val.toNat + 32
    omega
  · rename_i hvalues
    have hother : ¬ ('A' ≤ c ∧ c ≤ 'Z') := hvalues
    rw [if_neg hother]

theorem foldCase_eq_toLower (c : Char) : foldCase c = c.toLower := by
  rw [foldCase, ← Char.ofNat_toNat c.toLower, toNat_toLower]
  split
  · rfl
  · rw [Char.ofNat_toNat]

/-- **Equal up to case is equal in lower case.** -/
theorem equalUpToCase_iff {a b : String} :
    equalUpToCase a b = true ↔ a.toLower = b.toLower := by
  have hfold : foldCase = Char.toLower := funext foldCase_eq_toLower
  rw [equalUpToCase, hfold, beq_iff_eq, ← String.toList_inj]
  unfold String.toLower
  rw [String.toList_map, String.toList_map]

namespace Hex

/-- Only a digit becomes one in lower case. -/
theorem isDigit_of_toLower {c : Char} (h : IsWritten c.toLower) : IsDigit c := by
  have hlower := toNat_toLower c
  simp only [IsDigit, IsWritten, char_le_iff_toNat, Char.reduceToNat] at *
  split at hlower <;> omega

theorem toLower_of_isWritten {c : Char} (h : IsWritten c) : c.toLower = c := by
  have hlower := toNat_toLower c
  rw [← Char.toNat_inj]
  simp only [IsWritten, char_le_iff_toNat, Char.reduceToNat] at *
  split at hlower <;> omega

/-- A text that becomes written digits in lower case is made of as many digits. -/
theorem isDigit_of_sameUpToCase {e d : String} (hd : ∀ c ∈ d.toList, IsWritten c)
    (h : e.toLower = d.toLower) : e.length = d.length ∧ ∀ c ∈ e.toList, IsDigit c := by
  have hlists : e.toList.map Char.toLower = d.toList.map Char.toLower := by
    have hsame := congrArg String.toList h
    unfold String.toLower at hsame
    rwa [String.toList_map, String.toList_map] at hsame
  refine ⟨?_, fun c hc => ?_⟩
  · have hlength := congrArg List.length hlists
    rwa [List.length_map, List.length_map, String.length_toList, String.length_toList] at hlength
  · have hmem : c.toLower ∈ d.toList.map Char.toLower := hlists ▸ List.mem_map_of_mem hc
    obtain ⟨x, hx, hxc⟩ := List.mem_map.mp hmem
    rw [toLower_of_isWritten (hd x hx)] at hxc
    exact isDigit_of_toLower (hxc ▸ hd x hx)

end Hex

/-! ## Digests -/

theorem length_valueDigest (v : Bytes) : (valueDigest v).length = 16 := by
  rw [valueDigest, Hex.length_encode, List.length_take, Sha256.length_hash]
  rfl

theorem isWritten_valueDigest {v : Bytes} {c : Char} (h : c ∈ (valueDigest v).toList) :
    Hex.IsWritten c := Hex.isWritten_encode h

theorem decode?_valueDigest (v : Bytes) :
    Hex.decode? (valueDigest v) = some ((Sha256.hash v).take 8) := Hex.decode?_encode _

/-- Two values share a digest exactly if the bytes that it spells are the same. -/
theorem valueDigest_inj {v w : Bytes} :
    valueDigest v = valueDigest w ↔ (Sha256.hash v).take 8 = (Sha256.hash w).take 8 := by
  constructor
  · intro h
    have hdecoded := congrArg Hex.decode? h
    rw [decode?_valueDigest, decode?_valueDigest] at hdecoded
    exact Option.some.inj hdecoded
  · intro h
    rw [valueDigest, valueDigest, h]

/-! ## Conditions on a key that is there -/

namespace Memory

/-- What a condition on a key comes to: a delete, and a write of anything whose deadline fits the
clock, go through exactly if `applies`, and are answered in any case. -/
structure Grants (m : Memory) (key : String) (c : Condition) (applies : Prop) : Prop where
  delete : ∃ yes, m.answer (commands.delete key (some c)) = .ok (.ok yes) ∧ (yes = true ↔ applies)
  set : ∀ value expiration, SetOptions.fits ⟨some c, expiration⟩ m.now = true →
    ∃ yes, m.answer (commands.set key value ⟨some c, expiration⟩) = .ok (.ok yes) ∧
      (yes = true ↔ applies)

variable {m : Memory} {key : String} {v : Bytes}

/-- Where a key has a value, a condition comes to whether it holds of it. -/
theorem grants_of_live (hlive : m.live? key = some v) (c : Condition) :
    m.Grants key c (c.holds v = true) where
  delete := by
    obtain ⟨yes, hanswer, hyes⟩ := m.answer_delete key (some c)
    refine ⟨yes, hanswer, hyes.trans ?_⟩
    rw [hlive]
    simp [Deletable]
  set value expiration hfits := by
    obtain ⟨yes, hanswer, hyes⟩ := m.answer_set key value ⟨some c, expiration⟩
    rw [if_neg (by simp [hfits])] at hanswer
    refine ⟨yes, hanswer, hyes.trans ?_⟩
    rw [hlive]
    simp [Writable]

theorem Grants.of_iff {c : Condition} {p q : Prop} (h : m.Grants key c p) (hpq : p ↔ q) :
    m.Grants key c q := by
  rwa [← propext hpq]

/-- **A text decides by its lower case**: it is the digest or it is not. -/
theorem grants_digest (hlive : m.live? key = some v) (e : String) :
    m.Grants key (.ifDigestEquals e) (e.toLower = (valueDigest v).toLower) ∧
      m.Grants key (.ifDigestNotEquals e) (e.toLower ≠ (valueDigest v).toLower) := by
  have hequal : (Condition.ifDigestEquals e).holds v = equalUpToCase e (valueDigest v) := rfl
  have hdiffer : (Condition.ifDigestNotEquals e).holds v = !equalUpToCase e (valueDigest v) := rfl
  refine ⟨(grants_of_live hlive _).of_iff ?_, (grants_of_live hlive _).of_iff ?_⟩
  · rw [hequal, equalUpToCase_iff]
  · rw [hdiffer, Bool.not_eq_true', Bool.eq_false_iff, Ne, Ne, equalUpToCase_iff]

theorem answer_digest_eq_some_iff {d : String} :
    m.answer (commands.digest key) = .ok (.ok (some d)) ↔
      ∃ v, m.live? key = some v ∧ valueDigest v = d := by
  show Except.ok (Except.ok ((m.live? key).map valueDigest)) = _ ↔ _
  rw [Except.ok.injEq, Except.ok.injEq, Option.map_eq_some_iff]

/-! ## Reading a digest, and using it later -/

/-- A key that is still there, and that nobody has changed, has the value that it had. -/
theorem live?_afterMoves_of_unchanged {moves : List Move}
    (h : ∀ e ∈ Trace.since m moves, e.changes key = false)
    (hlive : m.live? key = some v) (hstill : ((m.afterMoves moves).live? key).isSome = true) :
    (m.afterMoves moves).live? key = some v := by
  rw [live?_eq, entry_afterMoves_of_unchanged m h] at hstill ⊢
  rw [live?_eq] at hlive
  obtain ⟨entry, hentry, hvalue⟩ := Option.map_eq_some_iff.mp hlive
  rw [hentry] at hstill ⊢
  cases hlives : entry.lives (m.afterMoves moves).now with
  | true =>
      rw [Option.filter_some_pos hlives, Option.map_some, hvalue]
  | false =>
      rw [Option.filter_some_neg (by simp [hlives])] at hstill
      exact absurd hstill (by simp)

end Memory

/--
**A digest that was read decides, in either case of its letters, for as long as its key is there
and nobody changes it.** Take any history, a key that has the digest `d` at the end of it, and
whatever moves follow that do not change the key while it lives; none may follow.

* The key still has that digest. A delete or a write that asks for the digest `e` goes through
  exactly if `e` is `d` up to the case of its letters, and one that asks for another digest goes
  through exactly if it is not.
* What is `d` up to case is made of sixteen hexadecimal digits. So nothing else ever matches.
* `d` itself is made of sixteen digits in lower case. They spell the first eight bytes of the hash
  of the value, and another key has the same digest exactly if these bytes are the same for it.
-/
theorem digest_decides (earlier later : List Move) (key d : String)
    (hread : (Trace.of earlier).memory.answer (Memory.commands.digest key) = .ok (.ok (some d)))
    (hunchanged : ∀ e ∈ Trace.since (Trace.of earlier).memory later, e.changes key = false)
    (hstill : ((Trace.of (earlier ++ later)).memory.live? key).isSome = true) :
    let now := (Trace.of (earlier ++ later)).memory
    now.answer (Memory.commands.digest key) = .ok (.ok (some d)) ∧
    (∀ e : String, now.Grants key (.ifDigestEquals e) (e.toLower = d.toLower) ∧
      now.Grants key (.ifDigestNotEquals e) (e.toLower ≠ d.toLower)) ∧
    (∀ e : String, e.toLower = d.toLower → e.length = 16 ∧ ∀ c ∈ e.toList, Hex.IsDigit c) ∧
    d.length = 16 ∧ (∀ c ∈ d.toList, Hex.IsWritten c) ∧
    ∃ v, now.live? key = some v ∧ Hex.decode? d = some ((Sha256.hash v).take 8) ∧
      ∀ other w d', now.live? other = some w →
        now.answer (Memory.commands.digest other) = .ok (.ok (some d')) →
        (d' = d ↔ (Sha256.hash w).take 8 = (Sha256.hash v).take 8) := by
  intro now
  obtain ⟨v, hlive, rfl⟩ := Memory.answer_digest_eq_some_iff.mp hread
  have hnow : now = (Trace.of earlier).memory.afterMoves later :=
    congrArg Trace.memory (Trace.of_append earlier later)
  have hlater : now.live? key = some v := by
    rw [Trace.of_append] at hstill
    rw [hnow]
    exact Memory.live?_afterMoves_of_unchanged hunchanged hlive hstill
  refine ⟨Memory.answer_digest_eq_some_iff.mpr ⟨v, hlater, rfl⟩,
    fun e => Memory.grants_digest hlater e, fun e he => ?_, length_valueDigest v,
    fun c hc => isWritten_valueDigest hc, v, hlater, decode?_valueDigest v, ?_⟩
  · rw [← length_valueDigest v]
    exact Hex.isDigit_of_sameUpToCase (fun c hc => isWritten_valueDigest hc) he
  · intro other w d' hother hdigest
    obtain ⟨w', hw', rfl⟩ := Memory.answer_digest_eq_some_iff.mp hdigest
    obtain rfl : w' = w := Option.some.inj (hw'.symm.trans hother)
    exact valueDigest_inj

/-- A digest is read, its key is asked for and written in vain, and time passes. Then the digest
still decides, here in capital letters, and a text with a letter more does not. -/
theorem digest_decides_in_capitals :
    let earlier : List Move := [.ask (.set "k" [1] { expiration := some ⟨9⟩ })]
    let later : List Move := [.ask (.digest "k"), .wait ⟨5⟩,
      .ask (.set "k" [2] { condition := some (.ifDigestEquals "4bf5122f344554c") }), .wait ⟨3⟩]
    let d := valueDigest [1]
    let now := (Trace.of (earlier ++ later)).memory
    (Trace.of earlier).memory.answer (Memory.commands.digest "k") = .ok (.ok (some d)) ∧
      (∀ e ∈ Trace.since (Trace.of earlier).memory later, e.changes "k" = false) ∧
      (now.live? "k").isSome = true ∧
      now.answer (Memory.commands.delete "k" (some (.ifDigestEquals "4BF5122F344554C5"))) =
        .ok (.ok true) ∧
      now.answer (Memory.commands.delete "k" (some (.ifDigestNotEquals "4BF5122F344554C5"))) =
        .ok (.ok false) ∧
      now.answer (Memory.commands.delete "k" (some (.ifDigestEquals "4BF5122F344554C5F"))) =
        .ok (.ok false) := by
  intro earlier later d now
  have hread : (Trace.of earlier).memory.answer (Memory.commands.digest "k") =
      .ok (.ok (some d)) :=
    Memory.answer_digest_eq_some_iff.mpr ⟨[1], by decide +kernel, rfl⟩
  have hunchanged : ∀ e ∈ Trace.since (Trace.of earlier).memory later, e.changes "k" = false := by
    decide +kernel
  have hstill : (now.live? "k").isSome = true := by decide +kernel
  have hcapitals : "4BF5122F344554C5".toLower = d.toLower :=
    equalUpToCase_iff.mp (by decide +kernel)
  obtain ⟨-, hdecides, hdigits, -⟩ := digest_decides earlier later "k" d hread hunchanged hstill
  have hlonger : "4BF5122F344554C5F".toLower ≠ d.toLower :=
    fun h => absurd (hdigits _ h).1 (by decide)
  obtain ⟨hequal, hdiffer⟩ := hdecides "4BF5122F344554C5"
  obtain ⟨yes, hdelete, hyes⟩ := hequal.delete
  obtain ⟨no, hkeep, hno⟩ := hdiffer.delete
  obtain ⟨other, hother, hfalse⟩ := (hdecides "4BF5122F344554C5F").1.delete
  obtain rfl := hyes.mpr hcapitals
  obtain rfl : no = false := Bool.eq_false_iff.mpr fun h => hno.mp h hcapitals
  obtain rfl : other = false := Bool.eq_false_iff.mpr fun h => hlonger (hfalse.mp h)
  exact ⟨hread, hunchanged, hstill, hdelete, hkeep, hother⟩

end KeyRelay
