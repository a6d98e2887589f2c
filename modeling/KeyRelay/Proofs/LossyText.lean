import KeyRelay.Text.Utf8

/-!
# Reading back what was written, whatever the reader

`Utf8.decode` reads back every text that `Utf8.encode` wrote. Here the same is shown
of `Utf8.lossy`, which never refuses and would put a replacement where it finds a
fault: in what was written it finds none (`lossy_encode`).

A character is written in one to four bytes, and the leading byte tells how many. So
the proof has a lemma for each of these lengths (`head_two` to `head_four`): the
bytes are taken for one character, and their bits are put together to the number
that was taken apart. That overlong forms, surrogates and numbers past the last code
point are refused is no hindrance, since no character is written like that; it shows
as a bound on the second byte where the leading byte is the first or the last of its
length, or the one before the surrogates.
-/

namespace KeyRelay.Utf8

/-! ## Bytes by their numbers -/

theorem tail_cons {size count : Nat} {low high b : UInt8} (h : low ≤ b ∧ b ≤ high) (rest : Bytes) :
    tail size (count + 1) low high (b :: rest) = tail (size + 1) count 0x80 0xBF rest := by
  rw [tail, if_pos h]

/-- What follows a leading byte, by its number. -/
theorem followers_ofNat {n : Nat} (hn : n < 256) :
    followers (UInt8.ofNat n) =
      if n < 0x80 then some (0, 0x80, 0xBF)
      else if n < 0xC2 then none
      else if n < 0xE0 then some (1, 0x80, 0xBF)
      else if n = 0xE0 then some (2, 0xA0, 0xBF)
      else if n = 0xED then some (2, 0x80, 0x9F)
      else if n < 0xF0 then some (2, 0x80, 0xBF)
      else if n = 0xF0 then some (3, 0x90, 0xBF)
      else if n < 0xF4 then some (3, 0x80, 0xBF)
      else if n = 0xF4 then some (3, 0x80, 0x8F)
      else none := by
  have hlt : ∀ k, k < 256 → (UInt8.ofNat n < UInt8.ofNat k) = (n < k) :=
    fun k hk => propext (UInt8.ofNat_lt_iff_lt hn hk)
  have heq : ∀ k, k < 256 → (UInt8.ofNat n = UInt8.ofNat k) = (n = k) := by
    intro k hk
    rw [← UInt8.toNat_inj, UInt8.toNat_ofNat_of_lt' hn, UInt8.toNat_ofNat_of_lt' hk]
  unfold followers
  simp only [← hlt 0x80 (by decide), ← hlt 0xC2 (by decide), ← hlt 0xE0 (by decide),
    ← heq 0xE0 (by decide), ← heq 0xED (by decide), ← hlt 0xF0 (by decide),
    ← heq 0xF0 (by decide), ← hlt 0xF4 (by decide), ← heq 0xF4 (by decide)]
  rfl

/-- A byte that may follow a leading one, by the number that it adds. -/
theorem follower_mem {n : Nat} (h : n < 64) :
    (0x80 : UInt8) ≤ UInt8.ofNat (n + 128) ∧ UInt8.ofNat (n + 128) ≤ 0xBF := by
  have hn : n + 128 < 256 := by omega
  constructor
  · exact (UInt8.ofNat_le_iff_le (a := 128) (by decide) hn).mpr (by omega)
  · exact (UInt8.ofNat_le_iff_le (b := 191) hn (by decide)).mpr (by omega)

theorem tail_follower {n : Nat} (hn : n < 64) (size count : Nat) (rest : Bytes) :
    tail size (count + 1) 0x80 0xBF (UInt8.ofNat (n + 128) :: rest) =
      tail (size + 1) count 0x80 0xBF rest := tail_cons (follower_mem hn) rest

theorem toNat_follower {n : Nat} (hn : n < 64) : (UInt8.ofNat (n + 128)).toNat % 64 = n := by
  rw [UInt8.toNat_ofNat_of_lt' (by show n + 128 < 256; omega)]
  omega

/-! ## Characters by their lengths -/

/-- The bytes of a character of two bytes. -/
theorem head_two {a b : Nat} (ha : 2 ≤ a) (ha' : a < 32) (hb : b < 64) (rest : Bytes) :
    head (UInt8.ofNat (a + 192)) (UInt8.ofNat (b + 128) :: rest) = .character 2 ∧
      codePoint 2 (UInt8.ofNat (a + 192)) (UInt8.ofNat (b + 128) :: rest) = a * 64 + b := by
  have hn : a + 192 < 256 := by omega
  constructor
  · rw [head, followers_ofNat hn, if_neg (by omega), if_neg (by omega), if_pos (by omega)]
    exact (tail_follower hb 1 0 rest).trans rfl
  · have hlead : (UInt8.ofNat (a + 192)).toNat % 32 = a := by
      rw [UInt8.toNat_ofNat_of_lt' hn]
      omega
    show (UInt8.ofNat (a + 192)).toNat % 32 * 64 + (UInt8.ofNat (b + 128)).toNat % 64 = _
    rw [hlead, toNat_follower hb]

/-- The bytes of a character of three bytes. The second is bounded more closely after the first and
the fourteenth of the leading bytes. -/
theorem head_three {a b c : Nat} (ha : a < 16) (hb : b < 64) (hc : c < 64)
    (hlow : a = 0 → 32 ≤ b) (hhigh : a = 13 → b < 32) (rest : Bytes) :
    head (UInt8.ofNat (a + 224)) (UInt8.ofNat (b + 128) :: UInt8.ofNat (c + 128) :: rest) =
        .character 3 ∧
      codePoint 3 (UInt8.ofNat (a + 224))
        (UInt8.ofNat (b + 128) :: UInt8.ofNat (c + 128) :: rest) = (a * 64 + b) * 64 + c := by
  have hn : a + 224 < 256 := by omega
  have hb' : b + 128 < 256 := by omega
  constructor
  · rw [head, followers_ofNat hn, if_neg (by omega), if_neg (by omega), if_neg (by omega)]
    have hrest : ∀ low high, low ≤ UInt8.ofNat (b + 128) ∧ UInt8.ofNat (b + 128) ≤ high →
        tail 1 2 low high (UInt8.ofNat (b + 128) :: UInt8.ofNat (c + 128) :: rest) =
          .character 3 := by
      intro low high hbounds
      rw [tail_cons hbounds, tail_follower hc]
      rfl
    by_cases h0 : a = 0
    · rw [if_pos (by omega)]
      refine hrest _ _ ⟨?_, (follower_mem hb).2⟩
      exact (UInt8.ofNat_le_iff_le (a := 0xA0) (by decide) hb').mpr (by have := hlow h0; omega)
    · rw [if_neg (by omega)]
      by_cases h13 : a = 13
      · rw [if_pos (by omega)]
        refine hrest _ _ ⟨(follower_mem hb).1, ?_⟩
        exact (UInt8.ofNat_le_iff_le (b := 0x9F) hb' (by decide)).mpr (by have := hhigh h13; omega)
      · rw [if_neg (by omega), if_pos (by omega)]
        exact hrest _ _ (follower_mem hb)
  · have hlead : (UInt8.ofNat (a + 224)).toNat % 16 = a := by
      rw [UInt8.toNat_ofNat_of_lt' hn]
      omega
    show ((UInt8.ofNat (a + 224)).toNat % 16 * 64 + (UInt8.ofNat (b + 128)).toNat % 64) * 64 +
      (UInt8.ofNat (c + 128)).toNat % 64 = _
    rw [hlead, toNat_follower hb, toNat_follower hc]

/-- The bytes of a character of four bytes. -/
theorem head_four {a b c d : Nat} (ha : a ≤ 4) (hb : b < 64) (hc : c < 64) (hd : d < 64)
    (hlow : a = 0 → 16 ≤ b) (hhigh : a = 4 → b < 16) (rest : Bytes) :
    head (UInt8.ofNat (a + 240))
        (UInt8.ofNat (b + 128) :: UInt8.ofNat (c + 128) :: UInt8.ofNat (d + 128) :: rest) =
        .character 4 ∧
      codePoint 4 (UInt8.ofNat (a + 240))
        (UInt8.ofNat (b + 128) :: UInt8.ofNat (c + 128) :: UInt8.ofNat (d + 128) :: rest) =
        ((a * 64 + b) * 64 + c) * 64 + d := by
  have hn : a + 240 < 256 := by omega
  have hb' : b + 128 < 256 := by omega
  constructor
  · rw [head, followers_ofNat hn, if_neg (by omega), if_neg (by omega), if_neg (by omega),
      if_neg (by omega), if_neg (by omega), if_neg (by omega)]
    have hrest : ∀ low high, low ≤ UInt8.ofNat (b + 128) ∧ UInt8.ofNat (b + 128) ≤ high →
        tail 1 3 low high (UInt8.ofNat (b + 128) :: UInt8.ofNat (c + 128) ::
          UInt8.ofNat (d + 128) :: rest) = .character 4 := by
      intro low high hbounds
      rw [tail_cons hbounds, tail_follower hc, tail_follower hd]
      rfl
    by_cases h0 : a = 0
    · rw [if_pos (by omega)]
      refine hrest _ _ ⟨?_, (follower_mem hb).2⟩
      exact (UInt8.ofNat_le_iff_le (a := 0x90) (by decide) hb').mpr (by have := hlow h0; omega)
    · rw [if_neg (by omega)]
      by_cases h4 : a = 4
      · rw [if_neg (by omega), if_pos (by omega)]
        refine hrest _ _ ⟨(follower_mem hb).1, ?_⟩
        exact (UInt8.ofNat_le_iff_le (b := 0x8F) hb' (by decide)).mpr (by have := hhigh h4; omega)
      · rw [if_pos (by omega)]
        exact hrest _ _ (follower_mem hb)
  · have hlead : (UInt8.ofNat (a + 240)).toNat % 8 = a := by
      rw [UInt8.toNat_ofNat_of_lt' hn]
      omega
    show (((UInt8.ofNat (a + 240)).toNat % 8 * 64 + (UInt8.ofNat (b + 128)).toNat % 64) * 64 +
      (UInt8.ofNat (c + 128)).toNat % 64) * 64 + (UInt8.ofNat (d + 128)).toNat % 64 = _
    rw [hlead, toNat_follower hb, toNat_follower hc, toNat_follower hd]

/-! ## Texts -/

theorem lossyCharacters_cons {lead : UInt8} {rest : Bytes} {size : Nat}
    (h : head lead rest = .character size) :
    lossyCharacters (lead :: rest) =
      Char.ofNat (codePoint size lead rest) :: lossyCharacters (rest.drop (size - 1)) := by
  rw [lossyCharacters]
  simp only [h]

/-- **A character is read as it was written**, whatever comes after it. -/
theorem lossyCharacters_append (c : Char) (rest : Bytes) :
    lossyCharacters (String.utf8EncodeChar c ++ rest) = c :: lossyCharacters rest := by
  have hvalid : c.toNat < 0xD800 ∨ 0xDFFF < c.toNat ∧ c.toNat < 0x110000 := c.valid
  have read : ∀ (size : Nat) {lead : UInt8} {after : Bytes},
      head lead after = .character size → codePoint size lead after = c.toNat →
      after.drop (size - 1) = rest → lossyCharacters (lead :: after) = c :: lossyCharacters rest := by
    intro size lead after hhead hpoint hrest
    rw [lossyCharacters_cons hhead, hpoint, hrest, Char.ofNat_toNat]
  have hv : c.val.toNat = c.toNat := rfl
  unfold String.utf8EncodeChar
  rw [hv]
  generalize c.toNat = v at hvalid read
  dsimp only
  by_cases h1 : v ≤ 127
  · rw [if_pos h1]
    have hn : v < 256 := by omega
    refine read 1 ?_ (UInt8.toNat_ofNat_of_lt' hn) rfl
    rw [head, followers_ofNat hn, if_pos (by omega)]
    rfl
  · rw [if_neg h1]
    by_cases h2 : v ≤ 2047
    · rw [if_pos h2]
      obtain ⟨hhead, hpoint⟩ := head_two (a := v / 64 % 32) (b := v % 64) (by omega) (by omega)
        (by omega) rest
      exact read _ hhead (hpoint.trans (by omega)) rfl
    · rw [if_neg h2]
      by_cases h3 : v ≤ 65535
      · rw [if_pos h3]
        obtain ⟨hhead, hpoint⟩ := head_three (a := v / 4096 % 16) (b := v / 64 % 64) (c := v % 64)
          (by omega) (by omega) (by omega) (by omega) (by omega) rest
        exact read _ hhead (hpoint.trans (by omega)) rfl
      · rw [if_neg h3]
        obtain ⟨hhead, hpoint⟩ := head_four (a := v / 262144 % 8) (b := v / 4096 % 64)
          (c := v / 64 % 64) (d := v % 64) (by omega) (by omega) (by omega) (by omega) (by omega)
          (by omega) rest
        exact read _ hhead (hpoint.trans (by omega)) rfl

/-- A text is a list of characters, written one after the other. -/
theorem encode_ofList (characters : List Char) :
    encode (String.ofList characters) = characters.flatMap String.utf8EncodeChar := by
  unfold encode
  rw [String.toByteArray_ofList, List.utf8Encode, List.data_toByteArray]

theorem lossyCharacters_flatMap (characters : List Char) :
    lossyCharacters (characters.flatMap String.utf8EncodeChar) = characters := by
  induction characters with
  | nil => rw [List.flatMap_nil, lossyCharacters]
  | cons c rest ih => rw [List.flatMap_cons, lossyCharacters_append, ih]

/-- **What was written is read back, without replacements.** -/
theorem lossy_encode (text : String) : lossy (encode text) = text := by
  have h : encode text = text.toList.flatMap String.utf8EncodeChar := by
    rw [← encode_ofList, String.ofList_toList]
  rw [lossy, h, lossyCharacters_flatMap, String.ofList_toList]

end KeyRelay.Utf8
