import KeyRelay.Proofs.TrialRules

/-!
# The suite can be run at any time

The suite leaves keys behind, and some of its trials need a key to be missing. It can be
run again all the same, because it relies on little (`Ready`): five of its keys are
missing, since no trial ever writes them, and two more are missing or have the value that
the last run gave them, which is not the one that their conditions name. Every other key
it writes before it asks.

What each trial writes and deletes is listed (`changes`), and nothing in the list takes
away what the suite relies on (`harmless_changes`). So the trials pass one after another,
and in any round: what others do in between cannot take it away either, as long as they
leave the suite's keys alone.
-/

namespace KeyRelay.Conformance

/-! ## Digests of the suite's values -/

/-- A written digit in upper case is equal to it, up to case. -/
theorem foldCase_ofChar_digit : ∀ n < 16,
    (UpperCase.ofChar (Hex.digit n)).map foldCase = [foldCase (Hex.digit n)] := by decide +kernel

theorem eq_digit_of_isWritten {c : Char} (h : Hex.IsWritten c) : ∃ n < 16, c = Hex.digit n := by
  simp only [Hex.IsWritten, char_le_iff_toNat, Char.reduceToNat] at h
  rcases h with ⟨hlow, hhigh⟩ | ⟨hlow, hhigh⟩
  · refine ⟨c.toNat - 0x30, by omega, ?_⟩
    rw [Hex.digit, if_pos (by omega), Nat.add_sub_cancel' hlow, Char.ofNat_toNat]
  · refine ⟨c.toNat - 0x57, by omega, ?_⟩
    rw [Hex.digit, if_neg (by omega), Nat.add_sub_cancel' (by omega), Char.ofNat_toNat]

/-- A digest matches itself in upper case. -/
theorem holds_upperCase (v : Bytes) :
    (Condition.ifDigestEquals (UpperCase.ofString (valueDigest v))).holds v = true := by
  have hfold : ∀ cs : List Char, (∀ c ∈ cs, Hex.IsWritten c) →
      (cs.flatMap UpperCase.ofChar).map foldCase = cs.map foldCase := by
    intro cs hcs
    rw [List.map_flatMap, List.map_eq_flatMap]
    refine List.flatMap_congr fun c hc => ?_
    obtain ⟨n, hn, rfl⟩ := eq_digit_of_isWritten (hcs c hc)
    exact foldCase_ofChar_digit n hn
  show equalUpToCase (UpperCase.ofString (valueDigest v)) (valueDigest v) = true
  rw [equalUpToCase, UpperCase.ofString, String.toList_ofList, beq_iff_eq]
  exact hfold _ fun c hc => isWritten_valueDigest hc

theorem holds_own (v : Bytes) : (Condition.ifDigestEquals (valueDigest v)).holds v = true :=
  equalUpToCase_iff.mpr rfl

theorem fails_own (v : Bytes) : (Condition.ifDigestNotEquals (valueDigest v)).holds v = false := by
  show (!equalUpToCase (valueDigest v) (valueDigest v)) = false
  rw [equalUpToCase_iff.mpr rfl]
  rfl

/-- No value that is compared with the foreign digest has it. -/
theorem foreign_digest : ∀ value ∈ ["payload", "v2"],
    (Condition.ifDigestEquals foreignDigest).holds (Utf8.encode value) = false ∧
      (Condition.ifDigestNotEquals foreignDigest).holds (Utf8.encode value) = true := by
  decide +kernel

theorem replaced_digest :
    (Condition.ifDigestEquals (valueDigest (Utf8.encode "v1"))).holds (Utf8.encode "v2") =
      false := by decide +kernel

theorem digests_differ :
    (valueDigest (Utf8.encode "same") != valueDigest (Utf8.encode "other")) = true := by
  decide +kernel

theorem hexadecimal_digest (v : Bytes) :
    ((valueDigest v).toList.all fun c => (Hex.digitValue? c).isSome) = true := by
  rw [List.all_eq_true]
  intro c hc
  obtain ⟨n, hn, rfl⟩ := eq_digit_of_isWritten (isWritten_valueDigest hc)
  rw [Hex.digitValue?_digit n hn]
  rfl

/-! ## What the suite changes -/

/-- How long the suite lets a value live. -/
def hour : Duration := .ofSeconds 3600

/-- What a key of the suite is made to show. -/
abbrev Change := String × Option Entry

/-- A text that is there for good. -/
def forGood (text : String) : Option Entry := some ⟨Utf8.encode text, none⟩

/-- What the trials write and delete, a row for each trial, in order. -/
def changes (now : Instant) : List (List Change) :=
  [[],
   [("set-get", forGood "hello")],
   [("delete", forGood "bye"), ("delete", none)],
   [("delete-ifeq", forGood "v1"), ("delete-ifeq", none)],
   [("delete-ifne", forGood "v1"), ("delete-ifne", none)],
   [],
   [("delete-ifdeq", forGood "payload"), ("delete-ifdeq", none)],
   [("delete-ifdne", forGood "payload"), ("delete-ifdne", none)],
   [("empty", forGood ""), ("empty", none)],
   [("set-missing-ifne", forGood "v2"), ("set-missing-ifdne", forGood "v2")],
   [("set-ifeq", forGood "v1"), ("set-ifeq", forGood "v2")],
   [("set-ifdeq", forGood "v1"), ("set-ifdeq", forGood "v2")],
   [("set-px", some ⟨Utf8.encode "ephemeral", some (now + hour.nanoseconds)⟩)],
   [("digest-a", forGood "same"), ("digest-b", forGood "same"), ("digest-c", forGood "other")]]

/-- A view after changes. -/
def View.after (f : View) (changes : List Change) : View :=
  changes.foldl (fun f c => Function.update f (key c.1) c.2) f

theorem View.after_append (f : View) (first second : List Change) :
    f.after (first ++ second) = (f.after first).after second := List.foldl_append

theorem key_injective : Function.Injective key := fun _ _ h => String.append_right_inj _ |>.mp h

theorem update_other {f : View} {name other : String} (hne : other ≠ name) (found : Option Entry) :
    Function.update f (key name) found (key other) = f (key other) :=
  Function.update_of_ne (key_injective.ne hne) _ _

/-- A key that is not the suite's. -/
def Foreign (k : String) : Prop := ∀ name, k ≠ key name

theorem View.after_of_foreign {k : String} (hk : Foreign k) (f : View) (changes : List Change) :
    f.after changes k = f k := by
  induction changes generalizing f with
  | nil => rfl
  | cons c rest ih =>
      refine (ih _).trans ?_
      exact Function.update_of_ne (hk c.1) _ _

/-! ## What the suite relies on -/

/-- The keys that no trial ever writes. -/
def missingNames : List String :=
  ["missing", "delete-missing", "set-missing-ifeq", "set-missing-ifdeq", "digest-missing"]

/-- The keys that a trial writes unless they have a certain other value. -/
def keptNames : List String := ["set-missing-ifne", "set-missing-ifdne"]

/-- What has to be the case when a trial begins. -/
structure Ready (f : View) : Prop where
  missing : ∀ name ∈ missingNames, f (key name) = none
  kept : ∀ name ∈ keptNames, ∀ e, f (key name) = some e → e.value = Utf8.encode "v2"

/-- Whether a change takes nothing away that the suite relies on. -/
def harmless (c : Change) : Bool :=
  !missingNames.contains c.1 &&
    (!keptNames.contains c.1 || c.2.all fun e => e.value == Utf8.encode "v2")

theorem Ready.update {f : View} (h : Ready f) {c : Change} (hc : harmless c = true) :
    Ready (Function.update f (key c.1) c.2) := by
  rw [harmless, Bool.and_eq_true, Bool.or_eq_true, Bool.not_eq_true', Bool.not_eq_true'] at hc
  obtain ⟨hwritten, hvalue⟩ := hc
  refine ⟨fun name hname => ?_, fun name hname e he => ?_⟩
  · have hne : name ≠ c.1 := by
      rintro rfl
      rw [List.contains_iff_mem.mpr hname] at hwritten
      exact absurd hwritten nofun
    rw [update_other hne]
    exact h.missing name hname
  · by_cases hsame : name = c.1
    · subst hsame
      rw [Function.update_self] at he
      rw [List.contains_iff_mem.mpr hname, he] at hvalue
      exact eq_of_beq (hvalue.resolve_left nofun)
    · rw [update_other hsame] at he
      exact h.kept name hname e he

/-- No row of changes takes anything away. -/
theorem Ready.after {f : View} (h : Ready f) {changes : List Change}
    (hchanges : changes.all harmless = true) : Ready (f.after changes) := by
  induction changes generalizing f with
  | nil => exact h
  | cons c rest ih =>
      rw [List.all_cons, Bool.and_eq_true] at hchanges
      exact ih (h.update hchanges.1) hchanges.2

theorem harmless_changes (now : Instant) : (changes now).flatten.all harmless = true := rfl

/-- A trial goes through whenever what the suite relies on is the case, and makes these changes. -/
def Passes (now : Instant) (t : Trial MemoryM Unit) (changes : List Change) : Prop :=
  ∀ f, Ready f → Goes now t f () (f.after changes)

/-! ## The trials -/

section

variable (now : Instant)

theorem passes_getMissing : Passes now (getMissing Memory.commands) [] :=
  fun _ hready => goes_absent (hready.missing _ (by decide)) _

theorem passes_setAndGet :
    Passes now (setAndGet Memory.commands) [("set-get", forGood "hello")] := by
  intro f _
  refine Goes.bind goes_put ?_
  refine Goes.bind (goes_check rfl _) ?_
  exact goes_holds (Function.update_self ..) rfl

theorem passes_unconditionalDelete :
    Passes now (unconditionalDelete Memory.commands)
      [("delete", forGood "bye"), ("delete", none)] := by
  intro f _
  refine Goes.bind goes_put ?_
  refine Goes.bind (goes_remove (Function.update_self ..)) ?_
  refine Goes.bind (goes_check rfl _) ?_
  refine Goes.bind (goes_absent (Function.update_self ..) _) ?_
  refine Goes.bind (goes_delete_missing (Function.update_self ..) _) ?_
  exact goes_check rfl _

theorem passes_deleteIfEquals :
    Passes now (deleteIfEquals Memory.commands)
      [("delete-ifeq", forGood "v1"), ("delete-ifeq", none)] := by
  intro f _
  refine Goes.bind goes_put ?_
  refine Goes.bind (goes_deleteGiven_refused (Function.update_self ..) rfl) ?_
  refine Goes.bind (goes_check rfl _) ?_
  refine Goes.bind goes_get ?_
  refine Goes.bind (goes_check (by rw [Function.update_self]; rfl) _) ?_
  refine Goes.bind (goes_deleteGiven (Function.update_self ..) rfl) ?_
  refine Goes.bind (goes_check rfl _) ?_
  exact goes_absent (Function.update_self ..) _

theorem passes_deleteIfNotEquals :
    Passes now (deleteIfNotEquals Memory.commands)
      [("delete-ifne", forGood "v1"), ("delete-ifne", none)] := by
  intro f _
  refine Goes.bind goes_put ?_
  refine Goes.bind (goes_deleteGiven_refused (Function.update_self ..) rfl) ?_
  refine Goes.bind (goes_check rfl _) ?_
  refine Goes.bind (goes_deleteGiven (Function.update_self ..) rfl) ?_
  exact goes_check rfl _

theorem passes_conditionalDeleteMissing :
    Passes now (conditionalDeleteMissing Memory.commands) [] := by
  intro f hready
  have hmissing : f (key "delete-missing") = none := hready.missing _ (by decide)
  unfold conditionalDeleteMissing
  refine Goes.bind (goes_forIn fun c _ => ?_) (goes_pure ())
  refine Goes.bind (goes_delete_missing hmissing (some c)) ?_
  exact Goes.bind (goes_check rfl _) (goes_pure _)

theorem passes_deleteIfDigestEquals :
    Passes now (deleteIfDigestEquals Memory.commands)
      [("delete-ifdeq", forGood "payload"), ("delete-ifdeq", none)] := by
  intro f _
  obtain ⟨hforeign, -⟩ := foreign_digest "payload" (by decide)
  refine Goes.bind goes_put ?_
  refine Goes.bind (goes_digest (Function.update_self ..) _) ?_
  refine Goes.bind (goes_deleteGiven_refused (Function.update_self ..) hforeign) ?_
  refine Goes.bind (goes_check rfl _) ?_
  refine Goes.bind (goes_deleteGiven (Function.update_self ..) (holds_upperCase _)) ?_
  exact goes_check rfl _

theorem passes_deleteIfDigestNotEquals :
    Passes now (deleteIfDigestNotEquals Memory.commands)
      [("delete-ifdne", forGood "payload"), ("delete-ifdne", none)] := by
  intro f _
  obtain ⟨-, hforeign⟩ := foreign_digest "payload" (by decide)
  refine Goes.bind goes_put ?_
  refine Goes.bind (goes_digest (Function.update_self ..) _) ?_
  refine Goes.bind (goes_deleteGiven_refused (Function.update_self ..) (fails_own _)) ?_
  refine Goes.bind (goes_check rfl _) ?_
  refine Goes.bind (goes_deleteGiven (Function.update_self ..) hforeign) ?_
  exact goes_check rfl _

theorem passes_emptyComparand :
    Passes now (emptyComparand Memory.commands) [("empty", forGood ""), ("empty", none)] := by
  intro f _
  refine Goes.bind goes_put ?_
  refine Goes.bind (goes_deleteGiven (Function.update_self ..) rfl) ?_
  exact goes_check rfl _

/-- A key that is asked for another value is written, whether it is there or not. -/
theorem goes_set_kept {f : View} {name : String} {c : Condition} (hready : Ready f)
    (hname : name ∈ keptNames) (hmissing : c.holdsForMissing = true)
    (hholds : c.holds (Utf8.encode "v2") = true) :
    Goes now (set Memory.commands name "v2" (given c)) f true
      (Function.update f (key name) (some ⟨Utf8.encode "v2", none⟩)) := by
  cases hfound : f (key name) with
  | none => exact goes_setGiven_missing hfound hmissing
  | some e => exact goes_setGiven hfound ((hready.kept name hname e hfound).symm ▸ hholds)

theorem passes_setConditionsOnMissing :
    Passes now (setConditionsOnMissing Memory.commands)
      [("set-missing-ifne", forGood "v2"), ("set-missing-ifdne", forGood "v2")] := by
  intro f hready
  obtain ⟨-, hforeign⟩ := foreign_digest "v2" (by decide)
  have hifeq : f (key "set-missing-ifeq") = none := hready.missing _ (by decide)
  have hifdeq : f (key "set-missing-ifdeq") = none := hready.missing _ (by decide)
  refine Goes.bind (goes_setGiven_missing_refused hifeq rfl) ?_
  refine Goes.bind (goes_check rfl _) ?_
  refine Goes.bind (goes_absent hifeq _) ?_
  refine Goes.bind (goes_setGiven_missing_refused hifdeq rfl) ?_
  refine Goes.bind (goes_check rfl _) ?_
  refine Goes.bind (goes_set_kept now hready (by decide) rfl rfl) ?_
  refine Goes.bind (goes_check rfl _) ?_
  refine Goes.bind (goes_holds (Function.update_self ..) rfl) ?_
  -- the second write of a kept key starts from what the first has left
  have hsecond : Ready (f.after [("set-missing-ifne", forGood "v2")]) := hready.after rfl
  refine Goes.bind (goes_set_kept now hsecond (by decide) rfl hforeign) ?_
  exact goes_check rfl _

theorem passes_digests :
    Passes now (digests Memory.commands)
      [("digest-a", forGood "same"), ("digest-b", forGood "same"),
        ("digest-c", forGood "other")] := by
  intro f hready
  have hmissing : f (key "digest-missing") = none := hready.missing _ (by decide)
  refine Goes.bind goes_answer_digest ?_
  refine Goes.bind (goes_check (by rw [hmissing]; rfl) _) ?_
  refine Goes.bind goes_put ?_
  refine Goes.bind goes_put ?_
  refine Goes.bind goes_put ?_
  -- each key is looked up past the writes of the keys after it
  refine Goes.bind (goes_digest
    (by rw [update_other (by decide), update_other (by decide), Function.update_self]) _) ?_
  refine Goes.bind (goes_digest
    (by rw [update_other (by decide), Function.update_self]) _) ?_
  refine Goes.bind (goes_digest (Function.update_self ..) _) ?_
  refine Goes.bind (goes_check (hexadecimal_digest _) _) ?_
  refine Goes.bind (goes_check (beq_self_eq_true _) _) ?_
  exact goes_check digests_differ _

theorem passes_setIfEquals :
    Passes now (setIfEquals Memory.commands)
      [("set-ifeq", forGood "v1"), ("set-ifeq", forGood "v2")] := by
  intro f _
  refine Goes.bind goes_put ?_
  refine Goes.bind (goes_setGiven_refused (Function.update_self ..) rfl) ?_
  refine Goes.bind (goes_check rfl _) ?_
  refine Goes.bind (goes_holds (Function.update_self ..) rfl) ?_
  refine Goes.bind (goes_setGiven (Function.update_self ..) rfl) ?_
  refine Goes.bind (goes_check rfl _) ?_
  exact goes_holds (Function.update_self ..) rfl

theorem passes_setIfDigestEquals :
    Passes now (setIfDigestEquals Memory.commands)
      [("set-ifdeq", forGood "v1"), ("set-ifdeq", forGood "v2")] := by
  intro f _
  refine Goes.bind goes_put ?_
  refine Goes.bind (goes_digest (Function.update_self ..) _) ?_
  -- the digest that was read is the one of `v1`; from here on the key shows `v2`
  refine Goes.bind (goes_setGiven (Function.update_self ..) (holds_own _)) ?_
  refine Goes.bind (goes_check rfl _) ?_
  refine Goes.bind (goes_setGiven_refused (Function.update_self ..) replaced_digest) ?_
  refine Goes.bind (goes_check rfl _) ?_
  exact goes_holds (Function.update_self ..) rfl

theorem passes_setWithExpiration (hclock : now + hour.nanoseconds < Instant.limit) :
    Passes now (setWithExpiration Memory.commands)
      [("set-px", some ⟨Utf8.encode "ephemeral", some (now + hour.nanoseconds)⟩)] := by
  intro f _
  have hlasts : ∀ deadline, SetOptions.deadline { expiration := some hour } now = some deadline →
      now < deadline ∧ deadline < Instant.limit := by
    rintro _ ⟨⟩
    exact ⟨Nat.lt_add_of_pos_right (by decide), hclock⟩
  refine Goes.bind (goes_set rfl hlasts) ?_
  refine Goes.bind (goes_check rfl _) ?_
  exact goes_holds (Function.update_self ..) rfl

/-- Every trial makes the changes of its row. -/
theorem passes_trials (hclock : now + hour.nanoseconds < Instant.limit) :
    List.Forall₂ (Passes now) (trials Memory.commands) (changes now) :=
  .cons (passes_getMissing now) <| .cons (passes_setAndGet now) <|
  .cons (passes_unconditionalDelete now) <| .cons (passes_deleteIfEquals now) <|
  .cons (passes_deleteIfNotEquals now) <| .cons (passes_conditionalDeleteMissing now) <|
  .cons (passes_deleteIfDigestEquals now) <| .cons (passes_deleteIfDigestNotEquals now) <|
  .cons (passes_emptyComparand now) <| .cons (passes_setConditionsOnMissing now) <|
  .cons (passes_setIfEquals now) <| .cons (passes_setIfDigestEquals now) <|
  .cons (passes_setWithExpiration now hclock) <| .cons (passes_digests now) .nil

end

/-! ## The suite -/

/-- One trial after another: what the suite relies on is kept all along. -/
theorem passes_runAll {now : Instant} {ts : List (Trial MemoryM Unit)} {rows : List (List Change)}
    (h : List.Forall₂ (Passes now) ts rows) (hrows : rows.flatten.all harmless = true) :
    Passes now (runAll ts) rows.flatten := by
  induction h with
  | nil => exact fun f _ => goes_pure ()
  | @cons t row ts rows ht _ ih =>
      intro f hready
      rw [List.flatten_cons, List.all_append, Bool.and_eq_true] at hrows
      rw [List.flatten_cons, View.after_append]
      exact Goes.bind (ht f hready) (ih hrows.2 _ (hready.after hrows.1))

/-- The suite passes wherever what it relies on is the case, and these are the changes it makes. -/
theorem suite_passes {m : Memory} (hready : Ready m.entry)
    (hclock : m.now + hour.nanoseconds < Instant.limit) :
    m.answer (suite Memory.commands) = .ok (.ok ()) ∧
      (m.after (suite Memory.commands)).now = m.now ∧
      (m.after (suite Memory.commands)).entry =
        View.after m.entry (changes m.now).flatten := by
  have hpasses := passes_runAll (passes_trials m.now hclock) (harmless_changes m.now)
  obtain ⟨m', hrun, hnow, hentry⟩ := hpasses m.entry hready m rfl rfl
  have hanswer : m.answer (suite Memory.commands) = .ok (.ok ()) := congrArg Prod.fst hrun
  have hafter : m.after (suite Memory.commands) = m' := congrArg Prod.snd hrun
  rw [hafter]
  exact ⟨hanswer, hnow, hentry⟩

/-! ## Rounds -/

/-- Moves that leave the suite's keys alone. -/
def Spare (moves : List Move) : Prop := ∀ move ∈ moves, ∀ name, move.Spares (key name)

/-- What others do does not matter as long as they leave the suite's keys alone. -/
theorem Ready.afterMoves {m : Memory} (h : Ready m.entry) {moves : List Move}
    (hspare : Spare moves) : Ready (m.afterMoves moves).entry where
  missing name hname := by
    rw [Memory.entry_afterMoves m fun move hmove => hspare move hmove name, h.missing name hname]
    rfl
  kept name hname e he := by
    rw [Memory.entry_afterMoves m fun move hmove => hspare move hmove name] at he
    exact h.kept name hname e (Option.filter_eq_some_iff.mp he).1

/-- Rounds, in each of which the suite is run and then others make their moves. -/
def afterRounds (m : Memory) (rounds : List (List Move)) : Memory :=
  rounds.foldl (fun m moves => (m.after (suite Memory.commands)).afterMoves moves) m

theorem ready_afterRounds {m : Memory} (hready : Ready m.entry) {rounds : List (List Move)}
    (hspare : ∀ moves ∈ rounds, Spare moves)
    (hclock : ∀ n, (afterRounds m (rounds.take n)).now + hour.nanoseconds < Instant.limit) :
    Ready (afterRounds m rounds).entry := by
  induction rounds generalizing m with
  | nil => exact hready
  | cons moves rest ih =>
      obtain ⟨-, -, hentry⟩ := suite_passes hready (hclock 0)
      -- the suite keeps what it relies on, and so do the moves after it
      have hdone : Ready (m.after (suite Memory.commands)).entry :=
        hentry ▸ hready.after (harmless_changes m.now)
      have hround := hdone.afterMoves (hspare moves List.mem_cons_self)
      exact ih hround (fun other hother => hspare other (List.mem_cons_of_mem _ hother))
        fun n => hclock (n + 1)

/-- Of a round, only the waiting of others takes time. -/
theorem now_afterRounds_wait {m : Memory} (hready : Ready m.entry) {d : Duration}
    (hclock : m.now + hour.nanoseconds < Instant.limit)
    (hfits : m.now + d.nanoseconds < Instant.limit) (request : Request) :
    (afterRounds m [[.wait d, .ask request]]).now = m.now + d.nanoseconds := by
  obtain ⟨-, hnow, -⟩ := suite_passes hready hclock
  show ((((m.after (suite Memory.commands)).make (.wait d)).2.make (.ask request)).2).now = _
  rw [Memory.now_make_ask, Memory.make_wait, hnow, if_pos hfits]

/-- What the suite relies on is the case in particular where none of its keys is used. -/
theorem ready_of_unused {m : Memory} (h : ∀ name, m.live? (key name) = none) : Ready m.entry := by
  have hnone : ∀ name, m.entry (key name) = none := by
    intro name
    have hlive := h name
    rwa [Memory.live?_eq, Option.map_eq_none_iff] at hlive
  exact ⟨fun name _ => hnone name, fun name _ e he => nomatch (hnone name).symm.trans he⟩

/--
**The suite passes, and again in every round.** Start from any memory in which none of the suite's
keys is live, whatever else it holds. Run the suite, let others make moves that leave its keys
alone, and so on for as many rounds as you like; time may go on in any of them, as long as the
clock can show the hour that a value of the suite is to live. Then wherever this has led,

* the suite passes, and the clock stands still meanwhile;
* it makes the changes that are listed, in their order, and no other: a key that is not the suite's
  has the same entry afterwards as before, its deadline included;
* and nothing that is asked of such keys from then on can tell whether the suite was run.
-/
theorem suite_passes_every_round (m : Memory) (rounds : List (List Move))
    (hunused : ∀ name, m.live? (key name) = none)
    (hspare : ∀ moves ∈ rounds, Spare moves)
    (hclock : ∀ n, (afterRounds m (rounds.take n)).now + hour.nanoseconds < Instant.limit) :
    let here := afterRounds m rounds
    let done := here.after (suite Memory.commands)
    here.answer (suite Memory.commands) = .ok (.ok ()) ∧
      done.now = here.now ∧
      done.entry = View.after here.entry (changes here.now).flatten ∧
      (∀ k, Foreign k → done.entry k = here.entry k) ∧
      ∀ later, Spare later → Trace.since done later = Trace.since here later := by
  intro here done
  have hready : Ready here.entry := ready_afterRounds (ready_of_unused hunused) hspare hclock
  have hfits : here.now + hour.nanoseconds < Instant.limit := by
    have hlast := hclock rounds.length
    rwa [List.take_length] at hlast
  obtain ⟨hpasses, hnow, hentry⟩ := suite_passes hready hfits
  have helsewhere : ∀ k, Foreign k → done.entry k = here.entry k :=
    fun k hk => (congrFun hentry k).trans (View.after_of_foreign hk _ _)
  have hsame : here.SameOn Foreign done := ⟨hnow, helsewhere⟩
  refine ⟨hpasses, hnow, hentry, helsewhere, fun later hlater => hsame.since ?_⟩
  -- what is not foreign is a key of the suite, and those are spared
  intro move hmove k hk
  obtain ⟨name, rfl⟩ : ∃ name, k = key name := by
    by_contra hnot
    exact hk fun name hname => hnot ⟨name, hname⟩
  exact hlater move hmove name

/-- A key of someone else is there, and a key of the suite has just expired. A day passes after the
first run of the suite and the other key is written. Then the suite passes again, and the other key
is as it was written. -/
theorem suite_passes_next_day :
    let m : Memory := ⟨⟨(Table.empty.insert "user" ⟨[1], some 100⟩).insert "conformance:missing"
      ⟨[2], some 5⟩⟩, 10⟩
    let rounds : List (List Move) := [[.wait (.ofSeconds 86400), .ask (.set "user" [3] {})]]
    let here := afterRounds m rounds
    m.live? "user" = some [1] ∧ (∀ name, m.live? (key name) = none) ∧
      (∀ moves ∈ rounds, Spare moves) ∧
      (∀ n, (afterRounds m (rounds.take n)).now + hour.nanoseconds < Instant.limit) ∧
      here.answer (suite Memory.commands) = .ok (.ok ()) ∧
      (here.after (suite Memory.commands)).entry "user" = here.entry "user" := by
  intro m rounds here
  have hforeign : Foreign "user" := by
    intro name h
    have hheads := congrArg (fun k => k.toList.head?) h
    rw [key, String.toList_append] at hheads
    have hfirst : 'u' = 'c' := Option.some.inj hheads
    exact absurd hfirst (by decide)
  have hunused : ∀ name, m.live? (key name) = none := by
    intro name
    -- one of the two entries has expired, and the other is not the suite's
    have hentry : m.entry (key name) = none := by
      refine (Store.entryAt_insert ⟨_⟩ _ _ _ _).trans ?_
      split
      · rfl
      · refine (Store.entryAt_insert ⟨_⟩ _ _ _ _).trans ?_
        rw [if_neg (hforeign name)]
        rfl
    rw [Memory.live?_eq, hentry]
    rfl
  have hspare : ∀ moves ∈ rounds, Spare moves := by
    intro moves hmoves move hmove name
    obtain rfl := List.mem_singleton.mp hmoves
    rcases List.mem_cons.mp hmove with rfl | hmove
    · trivial
    · obtain rfl := List.mem_singleton.mp hmove
      exact hforeign name
  have hnow : here.now = m.now + (Duration.ofSeconds 86400).nanoseconds :=
    now_afterRounds_wait (ready_of_unused hunused) (by decide) (by decide) _
  have hclock : ∀ n, (afterRounds m (rounds.take n)).now + hour.nanoseconds < Instant.limit := by
    intro n
    cases n with
    | zero => show 10 + hour.nanoseconds < Instant.limit; decide
    | succ n =>
        have hall : rounds.take (n + 1) = rounds := List.take_of_length_le (by simp [rounds])
        rw [hall]
        show here.now + hour.nanoseconds < Instant.limit
        rw [hnow]
        decide
  obtain ⟨hpasses, -, -, hsame, -⟩ := suite_passes_every_round m rounds hunused hspare hclock
  exact ⟨by decide, hunused, hspare, hclock, hpasses, hsame "user" hforeign⟩

end KeyRelay.Conformance
