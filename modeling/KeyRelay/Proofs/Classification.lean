import KeyRelay.Glob.Classify
import KeyRelay.Proofs.GlobMatch
import KeyRelay.Proofs.ResolverCaches

/-!
# What counts as a pattern has a wildcard

Two readers look at the name of a destination. The matcher reads it from left to right,
and what a byte means to it depends on the tokens before: a star may be escaped, or
stand in a class. The classifier looks at bytes and their neighbours only, and asks of
each mark whether it ever follows a backslash. So it takes the second half of an escaped
backslash for an escape, and knows nothing of classes.

It errs in one direction only. Any mark that the matcher comes upon begins a wildcard
(`read?_cases`), so a name is read without wildcards only if all its marks are taken by
escapes, and then each of them follows a backslash (`escaped_of_no_wildcard`). Where there
are no backslashes there are no escapes, and the two readers agree.
-/

namespace KeyRelay.Glob

/-! ## What the classifier looks for -/

/-- A byte occurs escaped where it follows a backslash. -/
theorem occursEscaped_iff {mark : UInt8} {bytes : Bytes} :
    occursEscaped mark bytes = true ↔ [backslash, mark] <:+: bytes := by
  induction bytes with
  | nil => simp [occursEscaped]
  | cons a rest ih =>
      cases rest with
      | nil => simp [occursEscaped, List.infix_cons_iff, List.cons_prefix_cons]
      | cons b rest =>
          have hwithin : [backslash, mark] <:+: a :: b :: rest ↔
              [backslash, mark] <+: a :: b :: rest ∨ [backslash, mark] <:+: b :: rest :=
            List.infix_cons_iff
          rw [occursEscaped, Bool.or_eq_true, ih, hwithin, Bool.and_eq_true, beq_iff_eq, beq_iff_eq,
            List.cons_prefix_cons, List.cons_prefix_cons]
          simp [eq_comm]

/-- A name is a pattern if some mark occurs in it and never follows a backslash. -/
theorem isPattern_iff {name : String} :
    isPattern name = true ↔
      ∃ mark ∈ marks, mark ∈ Utf8.encode name ∧ ¬ [backslash, mark] <:+: Utf8.encode name := by
  simp only [isPattern, occursUnescaped, List.any_eq_true, Bool.and_eq_true, Bool.not_eq_true',
    ← Bool.not_eq_true, occursEscaped_iff, List.contains_iff_mem]

theorem backslash_notMem_marks : backslash ∉ marks := by decide

/-! ## What the matcher reads -/

/-- **A mark begins a wildcard**, a backslash takes the byte after it, and any other byte stands for
itself. So does a backslash that ends the pattern. -/
theorem read?_cases (b : UInt8) (bytes : Bytes) :
    (b ∈ marks ∧ ∃ t rest, Token.read? (b :: bytes) = some (t, rest) ∧ t.isWildcard = true) ∨
    (∃ a rest, b = backslash ∧ bytes = a :: rest ∧
      Token.read? (b :: bytes) = some (.literal a, rest)) ∨
    (b ∉ marks ∧ Token.read? (b :: bytes) = some (.literal b, bytes)) := by
  rw [Token.read?.eq_def]
  dsimp only
  by_cases hs : b = Glob.star
  · exact .inl ⟨by simp [marks, hs], _, _, if_pos hs, rfl⟩
  · rw [if_neg hs]
    by_cases hq : b = question
    · exact .inl ⟨by simp [marks, hq], _, _, if_pos hq, rfl⟩
    · rw [if_neg hq]
      by_cases ho : b = openBracket
      · exact .inl ⟨by simp [marks, ho], _, _, if_pos ho, rfl⟩
      · rw [if_neg ho]
        have hmark : b ∉ marks := by simp [marks, hs, hq, ho]
        by_cases he : b = backslash
        · rw [if_pos he]
          cases bytes with
          | nil => exact .inr (.inr ⟨hmark, rfl⟩)
          | cons a rest => exact .inr (.inl ⟨a, rest, he, rfl, rfl⟩)
        · exact .inr (.inr ⟨hmark, if_neg he⟩)

theorem hasWildcard_of_read? {pattern rest : Bytes} {t : Token}
    (h : Token.read? pattern = some (t, rest)) :
    hasWildcard pattern = (t.isWildcard || hasWildcard rest) := by
  rw [hasWildcard, tokens_of_read? h, List.any_cons]
  rfl

/-- **Without a wildcard every mark is escaped.** The tokens are read one by one. A mark cannot
begin any of them, so it is the byte that a backslash took. -/
theorem escaped_of_no_wildcard {pattern : Bytes} (h : hasWildcard pattern = false) {mark : UInt8}
    (hmark : mark ∈ marks) (hmem : mark ∈ pattern) : [backslash, mark] <:+: pattern := by
  induction pattern using tokens.induct with
  | case1 pattern hread =>
      cases pattern with
      | nil => exact absurd hmem List.not_mem_nil
      | cons b bytes =>
          obtain ⟨t, rest, hsome, -⟩ := read?_cons b bytes
          exact absurd (hread.symm.trans hsome) nofun
  | case2 pattern t rest hread ih =>
      rw [hasWildcard_of_read? hread, Bool.or_eq_false_iff] at h
      cases pattern with
      | nil => exact absurd hread nofun
      | cons b bytes =>
          rcases read?_cases b bytes with ⟨-, t', rest', hread', hwild⟩ |
            ⟨a, rest', rfl, rfl, hread'⟩ | ⟨hb, hread'⟩
          · obtain ⟨rfl, rfl⟩ := Prod.mk.inj (Option.some.inj (hread.symm.trans hread'))
            exact absurd (h.1.symm.trans hwild) nofun
          · obtain ⟨rfl, rfl⟩ := Prod.mk.inj (Option.some.inj (hread.symm.trans hread'))
            -- the mark is what the backslash takes, or it comes later
            rcases List.mem_cons.mp hmem with rfl | hmem
            · exact absurd hmark backslash_notMem_marks
            · rcases List.mem_cons.mp hmem with rfl | hmem
              · exact ⟨[], rest, rfl⟩
              · exact ((ih h.2 hmem).trans (List.infix_cons List.infix_rfl)).trans
                  (List.infix_cons List.infix_rfl)
          · obtain ⟨rfl, rfl⟩ := Prod.mk.inj (Option.some.inj (hread.symm.trans hread'))
            rcases List.mem_cons.mp hmem with rfl | hmem
            · exact absurd hmark hb
            · exact (ih h.2 hmem).trans (List.infix_cons List.infix_rfl)

/-! ## Names without marks and backslashes -/

/-- Bytes without a special meaning are read as themselves. -/
theorem tokens_of_plain {pattern : Bytes} (hmarks : ∀ b ∈ pattern, b ∉ marks)
    (hescape : backslash ∉ pattern) : tokens pattern = pattern.map .literal := by
  induction pattern with
  | nil => exact tokens_nil
  | cons b bytes ih =>
      obtain ⟨hb, hbytes⟩ := List.forall_mem_cons.mp hmarks
      obtain ⟨hfirst, hrest⟩ := not_or.mp (mt List.mem_cons.mpr hescape)
      rcases read?_cases b bytes with ⟨hmark, -⟩ | ⟨-, -, rfl, -⟩ | ⟨-, hread⟩
      · exact absurd hmark hb
      · exact absurd rfl hfirst
      · rw [tokens_of_read? hread, ih hbytes hrest, List.map_cons]

/-- Tokens that stand for single bytes leave one way to cut. -/
theorem cut_literals_iff {bytes input : Bytes} :
    Cut (bytes.map .literal) input ↔ input = bytes := by
  induction bytes generalizing input with
  | nil => exact cut_nil_iff
  | cons b bytes ih =>
      have hliteral : Token.literal b ≠ .star := nofun
      rw [List.map_cons, cut_cons_iff hliteral]
      constructor
      · rintro ⟨b', rest, rfl, hb, hrest⟩
        rw [eq_of_beq hb, ih.mp hrest]
      · rintro rfl
        exact ⟨b, bytes, rfl, beq_self_eq_true b, ih.mpr rfl⟩

theorem isMatch_iff_cut {pattern input : Bytes} :
    isMatch pattern input = true ↔ Cut (tokens pattern) input := by
  have hrun := run_rounds pattern input
  refine (run_admits (aligned_start pattern input) hrun).trans ?_
  simp [Cursor.Admits, Cursor.start]

theorem marks_of_hasWildcard {pattern : Bytes} (hescape : backslash ∉ pattern)
    (h : hasWildcard pattern = true) : ∃ mark ∈ marks, mark ∈ pattern := by
  by_contra hnone
  have hmarks : ∀ b ∈ pattern, b ∉ marks := fun b hb hmark => hnone ⟨b, hmark, hb⟩
  rw [hasWildcard, tokens_of_plain hmarks hescape, List.any_map, List.any_eq_true] at h
  obtain ⟨b, -, hb⟩ := h
  exact absurd hb nofun

/-! ## Both readers of a name -/

section

variable {name : String}

/-- **A name that counts as a pattern has a wildcard.** -/
theorem hasWildcard_of_isPattern (h : isPattern name = true) :
    hasWildcard (Utf8.encode name) = true := by
  obtain ⟨mark, hmark, hmem, hfree⟩ := isPattern_iff.mp h
  by_contra hnone
  exact hfree (escaped_of_no_wildcard (Bool.eq_false_iff.mpr hnone) hmark hmem)

/-- Nothing follows a backslash where there is none. -/
theorem not_escaped_of_notMem {mark : UInt8} {bytes : Bytes} (h : backslash ∉ bytes) :
    ¬ [backslash, mark] <:+: bytes :=
  fun hwithin => h (hwithin.subset (List.mem_cons_self ..))

/-- **Without a backslash the readers agree.** -/
theorem isPattern_eq_hasWildcard (h : backslash ∉ Utf8.encode name) :
    isPattern name = hasWildcard (Utf8.encode name) := by
  rw [Bool.eq_iff_iff]
  refine ⟨hasWildcard_of_isPattern, fun hwild => ?_⟩
  obtain ⟨mark, hmark, hmem⟩ := marks_of_hasWildcard h hwild
  exact isPattern_iff.mpr ⟨mark, hmark, hmem, not_escaped_of_notMem h⟩

/-- A name with neither marks nor backslashes matches itself only. -/
theorem isMatch_of_not_isPattern (h : backslash ∉ Utf8.encode name)
    (hpattern : isPattern name = false) {input : Bytes} :
    isMatch (Utf8.encode name) input = true ↔ input = Utf8.encode name := by
  have hmarks : ∀ b ∈ Utf8.encode name, b ∉ marks := by
    intro b hb hmark
    have hcounts : isPattern name = true :=
      isPattern_iff.mpr ⟨b, hmark, hb, not_escaped_of_notMem h⟩
    exact absurd (hpattern.symm.trans hcounts) nofun
  rw [isMatch_iff_cut, tokens_of_plain hmarks h, cut_literals_iff]

theorem not_isPattern_of_escaped
    (h : ∀ mark ∈ marks, mark ∈ Utf8.encode name → [backslash, mark] <:+: Utf8.encode name) :
    isPattern name = false := by
  rw [Bool.eq_false_iff]
  intro hpattern
  obtain ⟨mark, hmark, hmem, hfree⟩ := isPattern_iff.mp hpattern
  exact hfree (h mark hmark hmem)

/-- A name that does not count as a pattern is resolved as a channel, whatever was resolved
before. -/
theorem resolve_channel (hblank : isBlank name = false) (hpattern : isPattern name = false)
    (capacity : Nat) (before : List String) :
    (((Resolver.ofCapacity capacity).resolveAll before).2.resolve name).1 =
      .ok (.channel name) := by
  obtain ⟨-, hrecalls⟩ := (Resolver.recalls_ofCapacity capacity).resolveAll before
  rw [(hrecalls.sound.resolve name).1, Topic.ofDestination, Topic.named, hblank, hpattern]
  rfl

end

/-- A wildcard is a star, a question mark or a class. -/
theorem hasWildcard_iff {pattern : Bytes} :
    hasWildcard pattern = true ↔
      ∃ t ∈ tokens pattern, t = .star ∨ t = .any ∨ ∃ c, t = .bracket c := by
  have hkind : ∀ t : Token, t.isWildcard = true ↔ t = .star ∨ t = .any ∨ ∃ c, t = .bracket c := by
    intro t
    cases t <;> simp [Token.isWildcard]
  simp only [hasWildcard, List.any_eq_true, hkind]

/--
**Classification and matching agree.** Let a name be any text, and let it be read as a pattern.

* The tokens that are read are what the matcher goes by.
* If the name counts as a pattern, a wildcard is read in it: a star, a question mark or a class.
* If there is no backslash in the name, it counts as a pattern exactly if a wildcard is read. If
  it does not, it is resolved as a channel unless it is blank, and it matches nothing but itself, so
  that a pattern of the same name would match what the channel does.
* If each of the marks that occur in the name also follows a backslash in it somewhere, the name is
  resolved as a channel, unless it is blank.

A resolver resolves a name in the same way whatever it has resolved before.
-/
theorem classification_agrees (name : String) :
    let bytes := Utf8.encode name
    let readsWildcard := ∃ t ∈ tokens bytes, t = .star ∨ t = .any ∨ ∃ c, t = .bracket c
    let isResolvedAsChannel := ∀ capacity before,
      (((Resolver.ofCapacity capacity).resolveAll before).2.resolve name).1 = .ok (.channel name)
    (∀ input, isMatch bytes input = true ↔ Cut (tokens bytes) input) ∧
    (isPattern name = true → readsWildcard) ∧
    (backslash ∉ bytes →
      (isPattern name = true ↔ readsWildcard) ∧
      (isPattern name = false →
        (isBlank name = false → isResolvedAsChannel) ∧
        (∀ input, isMatch bytes input = true ↔ input = bytes) ∧
        ∀ channel, (Topic.pattern name).isMatch channel = (Topic.channel name).isMatch channel)) ∧
    (isBlank name = false →
      (∀ mark ∈ [question, star, openBracket], mark ∈ bytes → [backslash, mark] <:+: bytes) →
      isResolvedAsChannel) := by
  intro bytes readsWildcard isResolvedAsChannel
  have hreads : hasWildcard bytes = true ↔ readsWildcard := hasWildcard_iff
  refine ⟨fun input => isMatch_iff_cut, fun hpattern => ?_, fun hescape => ⟨?_, ?_⟩, ?_⟩
  · exact hreads.mp (hasWildcard_of_isPattern hpattern)
  · rw [isPattern_eq_hasWildcard hescape]
    exact hreads
  · intro hpattern
    have hitself : ∀ {input}, isMatch bytes input = true ↔ input = bytes :=
      isMatch_of_not_isPattern hescape hpattern
    refine ⟨fun hblank => resolve_channel hblank hpattern, fun input => hitself, fun channel => ?_⟩
    rw [Bool.eq_iff_iff, Topic.isMatch, Topic.isMatch, hitself, beq_iff_eq]
    exact eq_comm
  · intro hblank hescaped
    exact resolve_channel hblank (not_isPattern_of_escaped hescaped)

/-- A star in a class makes a pattern and is read as a class; a name with neither marks nor
backslashes matches itself; and a star behind an escaped backslash is resolved as a channel, though
the matcher would read it as a star. -/
theorem classification_agrees_behind_backslashes :
    (isPattern "[*" = true ∧ ∃ t ∈ tokens (Utf8.encode "[*"), t = .star ∨ t = .any ∨
        ∃ c, t = .bracket c) ∧
      (backslash ∉ Utf8.encode "a]-" ∧ isPattern "a]-" = false ∧
        (∀ input, isMatch (Utf8.encode "a]-") input = true ↔ input = Utf8.encode "a]-")) ∧
      (∀ mark ∈ [question, star, openBracket], mark ∈ Utf8.encode "\\\\*" →
        [backslash, mark] <:+: Utf8.encode "\\\\*") ∧
      isBlank "\\\\*" = false ∧ hasWildcard (Utf8.encode "\\\\*") = true ∧
      (((Resolver.ofCapacity 1).resolveAll ["*"]).2.resolve "\\\\*").1 =
        .ok (.channel "\\\\*") := by
  have hclass : isPattern "[*" = true := by decide +kernel
  have hplain : backslash ∉ Utf8.encode "a]-" := by decide +kernel
  have hchannel : isPattern "a]-" = false := by decide +kernel
  have hescaped : ∀ mark ∈ [question, star, openBracket], mark ∈ Utf8.encode "\\\\*" →
      [backslash, mark] <:+: Utf8.encode "\\\\*" := by decide +kernel
  have hblank : isBlank "\\\\*" = false := by decide +kernel
  obtain ⟨-, hreads, -, -⟩ := classification_agrees "[*"
  obtain ⟨-, -, hagree, -⟩ := classification_agrees "a]-"
  obtain ⟨-, -, -, hresolves⟩ := classification_agrees "\\\\*"
  obtain ⟨-, hitself⟩ := hagree hplain
  exact ⟨⟨hclass, hreads hclass⟩, ⟨hplain, hchannel, (hitself hchannel).2.1⟩, hescaped, hblank,
    by decide +kernel, hresolves hblank hescaped 1 ["*"]⟩

end KeyRelay.Glob
