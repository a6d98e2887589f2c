import KeyRelay.Proofs.History
import KeyRelay.Proofs.WireReading
import KeyRelay.Remote.Server

/-!
# A server answers as the store in memory does

Two backends that have nothing in common but what they promise. The one keeps a
table of texts and evicts lazily; the other is a client that writes commands, and
a server that reads them into a keyspace of bytes.

They are held together by one relation (`Mirrors`): the clocks agree, and what the
server keeps under the rendered key is what the store keeps under the key, dead
entries left out on both sides. A request is followed all the way round, to the
command, to the request that the server reads, to the reply and back to an answer,
and at the end of it the relation still holds. Milliseconds are where the two could
drift apart, so a history may only ask for whole ones (`Move.InRange`).
-/

namespace KeyRelay

/-! ## Histories that both backends can follow -/

/-- A whole number of milliseconds that fits a word, and at least one. -/
def Duration.IsWhole (d : Duration) : Prop :=
  d = .ofMilliseconds d.milliseconds ∧ 1 ≤ d.milliseconds ∧ d.milliseconds ≤ maxWord

theorem Duration.IsWhole.expirationMilliseconds {d : Duration} (h : d.IsWhole) :
    Duration.ofMilliseconds d.expirationMilliseconds = d := by
  obtain ⟨hd, hlow, hhigh⟩ := h
  rw [Duration.expirationMilliseconds, Nat.min_eq_left hhigh, Nat.max_eq_left hlow, ← hd]

/-- Whether the clock can show what a move makes of it, and every expiration is a whole number of
milliseconds. -/
def Move.InRange (now : Instant) : Move → Prop
  | .ask (.set _ _ options) =>
    ∀ d, options.expiration = some d → d.IsWhole ∧ now + d.nanoseconds < Instant.limit
  | .ask _ => True
  | .wait d => now + d.nanoseconds < Instant.limit

/-- What the clock says after a move. -/
def Move.after (now : Instant) : Move → Instant
  | .ask _ => now
  | .wait d => now + d.nanoseconds

/-- Whether all moves of a history are in range. -/
def InRange (now : Instant) : List Move → Prop
  | [] => True
  | move :: rest => move.InRange now ∧ InRange (move.after now) rest

end KeyRelay

namespace KeyRelay.Remote

/-! ## What a server makes of a request -/

namespace Server

/-- The entry of a key, unless its deadline has come. -/
def entry (s : Server) (key : Bytes) : Option Entry := (s.keyspace key).filter (Entry.lives s.now)

theorem value?_eq (s : Server) (key : Bytes) : s.value? key = (s.entry key).map (·.value) := by
  unfold value? entry
  cases s.keyspace key with
  | none => rfl
  | some e =>
      obtain ⟨value, deadline⟩ := e
      cases deadline with
      | none => rfl
      | some deadline =>
          rw [filter_lives_some]
          show (if s.now < deadline then some value else none) = _
          split <;> rfl

theorem entry_keep (s : Server) (key other : Bytes) (e : Option Entry) :
    (s.keep key e).entry other =
      if other = key then e.filter (Entry.lives s.now) else s.entry other := by
  unfold entry keep
  dsimp only
  split <;> rfl

/-- A stored value is compared alike on both sides. -/
theorem agrees_some (v : Bytes) (c : Condition) :
    c.operator.apply (agrees (some v) c.comparand) = c.holds v := by
  obtain ⟨operator, comparand⟩ := c
  unfold Condition.holds agrees
  cases comparand with
  | value expected => simp [Bool.beq_comm]
  | digest expected => simp [equalUpToCase, Bool.beq_comm]

theorem permits_some (value : Option Bytes) (c : Condition) :
    permits value (some c) = c.operator.apply (agrees value c.comparand) := by
  obtain ⟨operator, comparand⟩ := c
  cases operator <;> rfl

/-- A server lets a write through exactly when the store would. -/
theorem permits_iff (value : Option Bytes) (condition : Option Condition) :
    permits value condition = true ↔ Writable value condition := by
  unfold Writable
  cases condition with
  | none => simp [permits]
  | some c =>
      rw [permits_some]
      cases value with
      | some v => simp [agrees_some]
      | none =>
          have hnone : agrees none c.comparand = false := by cases c.comparand <;> rfl
          cases h : c.operator <;> simp [hnone, h, Operator.apply]

/-- A server lets a delete through exactly when the store would. -/
theorem permits_delete_iff (value : Option Bytes) (condition : Option Condition) :
    (value.isSome && permits value condition) = true ↔ Deletable value condition := by
  rw [Bool.and_eq_true, permits_iff]
  unfold Writable Deletable
  cases value <;> cases condition <;> simp

end Server

/-! ## A request, all the way round -/

namespace Client

/-- A client of a server, with the clock that is the server's. -/
def timed (c : Client) : Timed (StateM Server) :=
  ⟨c.commands Server.exchange, fun d => modify (·.advance d)⟩

/-- With connections to be had, the client reads what the server answers. -/
theorem ask_run {A : Type} {c : Client} (hpool : c.config.poolSize ≠ 0) (command : WireCommand)
    (read : Reply → Except CommandError A) (s : Server) :
    (c.ask Server.exchange command read).run s =
      (read (s.answer command).1, (s.answer command).2) := by
  unfold ask request
  rw [if_neg hpool]
  rfl

/-- What the server knows of a key of this client. -/
def remote? (c : Client) (s : Server) (key : String) : Option Bytes :=
  s.value? (Utf8.encode (c.config.renderKey key))

variable {c : Client} (hpool : c.config.poolSize ≠ 0) (s : Server) (key : String)
include hpool

theorem make_get :
    (c.timed.make (.ask (.get key))).run s = (some (.ok (.value (c.remote? s key))), s) := by
  have h : ((c.commands Server.exchange).get key).run s = (.ok (c.remote? s key), s) := by
    refine (ask_run hpool _ _ s).trans ?_
    rw [Server.answer, WireCommand.read?_get, remote?]
    dsimp only [Server.execute]
    cases s.value? (Utf8.encode (c.config.renderKey key)) <;> rfl
  exact congrArg (fun r => (some (r.1.map Answer.value), r.2)) h

theorem make_digest :
    (c.timed.make (.ask (.digest key))).run s =
      (some (.ok (.digest ((c.remote? s key).map valueDigest))), s) := by
  have h : ((c.commands Server.exchange).digest key).run s =
      (.ok ((c.remote? s key).map valueDigest), s) := by
    refine (ask_run hpool _ _ s).trans ?_
    rw [Server.answer, WireCommand.read?_digest, remote?]
    dsimp only [Server.execute]
    cases s.value? (Utf8.encode (c.config.renderKey key)) with
    | none => rfl
    | some v =>
        simp only [Option.map_some, Server.bulkOrNull, Reply.text, Utf8.decode_encode]
  exact congrArg (fun r => (some (r.1.map Answer.digest), r.2)) h

theorem make_delete (condition : Option Condition) :
    (c.timed.make (.ask (.delete key condition))).run s =
      if (c.remote? s key).isSome && Server.permits (c.remote? s key) condition then
        (some (.ok (.applied true)), s.keep (Utf8.encode (c.config.renderKey key)) none)
      else (some (.ok (.applied false)), s) := by
  have h : ((c.commands Server.exchange).delete key condition).run s =
      if (c.remote? s key).isSome && Server.permits (c.remote? s key) condition then
        (.ok true, s.keep (Utf8.encode (c.config.renderKey key)) none)
      else (.ok false, s) := by
    refine (ask_run hpool _ _ s).trans ?_
    rw [Server.answer, WireCommand.read?_delete, remote?]
    dsimp only [Server.execute]
    split <;> rfl
  refine (congrArg (fun r => (some (r.1.map Answer.applied), r.2)) h).trans ?_
  split <;> rfl

theorem make_set (value : Bytes) (options : SetOptions) :
    (c.timed.make (.ask (.set key value options))).run s =
      if Server.permits (c.remote? s key) options.condition then
        (some (.ok (.applied true)), s.keep (Utf8.encode (c.config.renderKey key))
          (some ⟨value, (options.expiration.map Duration.expirationMilliseconds).map fun n =>
            s.now + (Duration.ofMilliseconds n).nanoseconds⟩))
      else (some (.ok (.applied false)), s) := by
  have h : ((c.commands Server.exchange).set key value options).run s =
      if Server.permits (c.remote? s key) options.condition then
        (.ok true, s.keep (Utf8.encode (c.config.renderKey key))
          (some ⟨value, (options.expiration.map Duration.expirationMilliseconds).map fun n =>
            s.now + (Duration.ofMilliseconds n).nanoseconds⟩))
      else (.ok false, s) := by
    refine (ask_run hpool _ _ s).trans ?_
    rw [Server.answer, WireCommand.read?_set, remote?]
    dsimp only [Server.execute]
    split <;> rfl
  refine (congrArg (fun r => (some (r.1.map Answer.applied), r.2)) h).trans ?_
  split <;> rfl

end Client

/-! ## The two together -/

theorem Config.renderKey_inj (config : Config) {key other : String} :
    config.renderKey key = config.renderKey other ↔ key = other := by
  unfold Config.renderKey
  cases config.keyPrefix with
  | none => exact Iff.rfl
  | some p => exact String.append_right_inj _

/-- Two keys of a client are one key of the server only if they are the same. -/
theorem Config.encode_renderKey_inj (config : Config) {key other : String} :
    Utf8.encode (config.renderKey key) = Utf8.encode (config.renderKey other) ↔ key = other :=
  Utf8.encode_inj.trans config.renderKey_inj

/-- The server keeps for a client what the store keeps. -/
structure Mirrors (config : Config) (m : Memory) (s : Server) : Prop where
  now : m.now = s.now
  /-- A key has the entry that the rendered key has. -/
  entry : ∀ key, m.entry key = s.entry (Utf8.encode (config.renderKey key))

theorem mirrors_start (config : Config) : Mirrors config {} {} := ⟨rfl, fun _ => rfl⟩

theorem Mirrors.live? {c : Client} {m : Memory} {s : Server} (h : Mirrors c.config m s)
    (key : String) : m.live? key = c.remote? s key := by
  rw [Memory.live?_eq, h.entry key, Client.remote?, Server.value?_eq]

/-- A key changed on both sides in the same way, and no other key on either. -/
theorem Mirrors.keep {config : Config} {m m' : Memory} {s : Server} (h : Mirrors config m s)
    {key : String} {e : Option Entry} (hnow : m'.now = m.now)
    (hentry : ∀ other, m'.entry other =
      if key = other then e.filter (Entry.lives m.now) else m.entry other) :
    Mirrors config m' (s.keep (Utf8.encode (config.renderKey key)) e) := by
  refine ⟨hnow.trans h.now, ?_⟩
  intro other
  rw [hentry other, Server.entry_keep, h.now]
  by_cases hk : key = other
  · rw [if_pos hk, if_pos (config.encode_renderKey_inj.mpr hk.symm)]
  · rw [if_neg hk, if_neg fun he => hk (config.encode_renderKey_inj.mp he).symm]
    exact h.entry other

/-- A move to which both sides answer alike, and after which the server still keeps what the store
keeps. -/
structure Agree (c : Client) (m : Memory) (s : Server) (move : Move) : Prop where
  /-- The store does not crash, and the client is told the same. -/
  outcome : (m.make move).1 = .ok ((c.timed.make move).run s).1
  /-- The clock goes on as the move says. -/
  now : (m.make move).2.now = move.after m.now
  /-- The server keeps what the store keeps. -/
  mirrors : Mirrors c.config (m.make move).2 ((c.timed.make move).run s).2

section

variable {c : Client} (hpool : c.config.poolSize ≠ 0) {m : Memory} {s : Server}
  (h : Mirrors c.config m s)
include hpool h

theorem agree_get (key : String) : Agree c m s (.ask (.get key)) := by
  refine ⟨?_, rfl, ?_⟩
  · rw [Memory.make_get, Client.make_get hpool, ← h.live? key]
  · rw [Memory.make_get, Client.make_get hpool]
    exact ⟨h.now, fun other => (Store.entryAt_evict _ _ _ _).trans (h.entry other)⟩

theorem agree_digest (key : String) : Agree c m s (.ask (.digest key)) := by
  refine ⟨?_, rfl, ?_⟩
  · rw [Memory.make_digest, Client.make_digest hpool, ← h.live? key]
  · rw [Memory.make_digest, Client.make_digest hpool]
    exact ⟨h.now, fun other => (Store.entryAt_evict _ _ _ _).trans (h.entry other)⟩

theorem agree_delete (key : String) (condition : Option Condition) :
    Agree c m s (.ask (.delete key condition)) := by
  have hstore := m.store.delete_fst m.now key condition
  have hserver := Server.permits_delete_iff (c.remote? s key) condition
  have hentry := fun other => m.store.entryAt_delete m.now key other condition
  rw [← h.live? key] at hserver
  by_cases hd : Deletable (m.live? key) condition
  · have hs : (m.store.delete m.now key condition).1 = true := hstore.mpr hd
    refine ⟨?_, rfl, ?_⟩
    · rw [Memory.make_delete, Client.make_delete hpool, ← h.live? key, if_pos (hserver.mpr hd), hs]
    · rw [Memory.make_delete, Client.make_delete hpool, ← h.live? key, if_pos (hserver.mpr hd)]
      refine h.keep rfl fun other => (hentry other).trans ?_
      simp only [hs, true_and]
      rfl
  · have hs : (m.store.delete m.now key condition).1 = false :=
      Bool.eq_false_iff.mpr fun ht => hd (hstore.mp ht)
    have hrefused := fun ht => hd (hserver.mp ht)
    refine ⟨?_, rfl, ?_⟩
    · rw [Memory.make_delete, Client.make_delete hpool, ← h.live? key, if_neg hrefused, hs]
    · rw [Memory.make_delete, Client.make_delete hpool, ← h.live? key, if_neg hrefused]
      refine ⟨h.now, fun other => ((hentry other).trans ?_).trans (h.entry other)⟩
      rw [if_neg (by simp [hs])]
      rfl

theorem agree_set (key : String) (value : Bytes) (options : SetOptions)
    (hrange : Move.InRange m.now (.ask (.set key value options))) :
    Agree c m s (.ask (.set key value options)) := by
  have hstore := m.store.allows_iff m.now key options.condition
  have hserver := Server.permits_iff (c.remote? s key) options.condition
  rw [← h.live? key] at hserver
  by_cases hw : Writable (m.live? key) options.condition
  · have hfits : options.fits m.now = true := by
      unfold SetOptions.fits SetOptions.deadline
      cases hd : options.expiration with
      | none => rfl
      | some d => simpa using (hrange d hd).2
    -- whole milliseconds come out of the command as they went in
    have hdeadline : (options.expiration.map Duration.expirationMilliseconds).map
        (fun n => s.now + (Duration.ofMilliseconds n).nanoseconds) = options.deadline m.now := by
      unfold SetOptions.deadline
      cases hd : options.expiration with
      | none => rfl
      | some d => simp [(hrange d hd).1.expirationMilliseconds, h.now]
    refine ⟨?_, ?_, ?_⟩
    · rw [Memory.make_set, Client.make_set hpool, ← h.live? key, if_pos (hstore.mpr hw),
        if_pos hfits, if_pos (hserver.mpr hw)]
    · rw [Memory.make_set, if_pos (hstore.mpr hw), if_pos hfits]; rfl
    · rw [Memory.make_set, Client.make_set hpool, ← h.live? key, if_pos (hstore.mpr hw),
        if_pos hfits, if_pos (hserver.mpr hw), hdeadline]
      exact h.keep rfl fun other => Store.entryAt_insert _ _ _ _ _
  · have hrefused := fun ht => hw (hserver.mp ht)
    have hdenied := fun ht => hw (hstore.mp ht)
    refine ⟨?_, ?_, ?_⟩
    · rw [Memory.make_set, Client.make_set hpool, ← h.live? key, if_neg hdenied, if_neg hrefused]
    · rw [Memory.make_set, if_neg hdenied]; rfl
    · rw [Memory.make_set, Client.make_set hpool, ← h.live? key, if_neg hdenied, if_neg hrefused]
      exact h

omit hpool in
theorem agree_wait (d : Duration) (hrange : m.now + d.nanoseconds < Instant.limit) :
    Agree c m s (.wait d) := by
  refine ⟨?_, ?_, ?_⟩
  · rw [Memory.make_wait, if_pos hrange]; rfl
  · rw [Memory.make_wait, if_pos hrange]; rfl
  · rw [Memory.make_wait, if_pos hrange]
    have hnow : m.now + d.nanoseconds = s.now + d.nanoseconds := by rw [h.now]
    refine ⟨hnow, fun key => ?_⟩
    -- what counts later is seen from what counts now, on both sides
    refine (m.store.entryAt_later (Nat.le_add_right _ _) key).trans ?_
    refine (congrArg (Option.filter _) (h.entry key)).trans ?_
    rw [hnow]
    exact filter_later (Nat.le_add_right _ _) _

end

/-- **One move.** -/
theorem agree_move {c : Client} (hpool : c.config.poolSize ≠ 0) {m : Memory} {s : Server}
    (h : Mirrors c.config m s) {move : Move} (hrange : move.InRange m.now) :
    Agree c m s move := by
  cases move with
  | ask request =>
      cases request with
      | get key => exact agree_get hpool h key
      | digest key => exact agree_digest hpool h key
      | delete key condition => exact agree_delete hpool h key condition
      | set key value options => exact agree_set hpool h key value options hrange
  | wait d => exact agree_wait h d hrange

/-- **All of them.** -/
theorem agree_run {c : Client} (hpool : c.config.poolSize ≠ 0) {m : Memory} {s : Server}
    (h : Mirrors c.config m s) {moves : List Move} (hrange : InRange m.now moves) :
    m.answer (Memory.timed.run moves) = .ok ((c.timed.run moves).run s).1 := by
  induction moves generalizing m s with
  | nil => rfl
  | cons move rest ih =>
      obtain ⟨houtcome, hnow, hmirrors⟩ := agree_move hpool h hrange.1
      have hrest := ih hmirrors (hnow ▸ hrange.2)
      rw [Memory.answer_run_cons]
      rcases hmake : m.make move with ⟨outcome, after⟩
      rw [hmake] at houtcome hrest
      dsimp only at houtcome hrest
      rw [houtcome]
      dsimp only
      rw [hrest]
      rfl

/-! ## From the beginning -/

/--
**A server and the store in memory cannot be told apart.** A client with connections to be had, of
whatever prefix, is told at every move of a history what the store in memory answers, and the store
answers every one of them.
-/
theorem client_agrees_with_memory (c : Client) (hpool : c.config.poolSize ≠ 0) (moves : List Move)
    (hrange : InRange 0 moves) :
    Memory.answer {} (Memory.timed.run moves) = .ok ((c.timed.run moves).run {}).1 :=
  agree_run hpool (mirrors_start c.config) hrange

/-- A key that is written for five milliseconds is missing after five, on a server as in memory. -/
theorem client_agrees_after_deadline :
    InRange 0 [.ask (.set "k" [1] { expiration := some (.ofMilliseconds 5) }),
        .wait (.ofMilliseconds 5), .ask (.set "k" [2] { condition := some (.ifEquals [1]) })] ∧
      Memory.answer {} (Memory.timed.run
        [.ask (.set "k" [1] { expiration := some (.ofMilliseconds 5) }),
          .wait (.ofMilliseconds 5), .ask (.set "k" [2] { condition := some (.ifEquals [1]) })]) =
        .ok (((Client.mk { keyPrefix := some "app" }).timed.run
          [.ask (.set "k" [1] { expiration := some (.ofMilliseconds 5) }),
            .wait (.ofMilliseconds 5),
            .ask (.set "k" [2] { condition := some (.ifEquals [1]) })]).run {}).1 := by
  have hrange : InRange 0 [.ask (.set "k" [1] { expiration := some (.ofMilliseconds 5) }),
      .wait (.ofMilliseconds 5), .ask (.set "k" [2] { condition := some (.ifEquals [1]) })] := by
    refine ⟨?_, ?_, ?_, trivial⟩
    · intro d hd
      obtain rfl := Option.some.inj hd
      exact ⟨⟨by decide, by decide, by decide⟩, by decide⟩
    · show 0 + 5000000 < Instant.limit
      decide
    · intro d hd
      exact absurd hd (by simp)
  exact ⟨hrange, client_agrees_with_memory _ (by decide) _ hrange⟩

/-- Without a connection to be had, the client waits for one in vain whatever it asks, and the store
in memory has nothing of the kind. -/
theorem client_without_connections_disagrees :
    ¬ ∀ (c : Client) (moves : List Move), InRange 0 moves →
      Memory.answer {} (Memory.timed.run moves) = .ok ((c.timed.run moves).run {}).1 := by
  intro h
  have hget := h ⟨{ poolSize := 0 }⟩ [.ask (.get "k")] ⟨trivial, trivial⟩
  have hmemory : Memory.answer {} (Memory.timed.run [.ask (.get "k")]) =
      .ok [some (.ok (.value none))] := rfl
  have hclient : (((Client.mk { poolSize := 0 }).timed.run [.ask (.get "k")]).run {}).1 =
      [some (.error (.timeout (.ofMilliseconds 5000)))] := rfl
  rw [hmemory, hclient] at hget
  exact absurd hget (by simp)

end KeyRelay.Remote
