import KeyRelay.Proofs.SentCommands
import KeyRelay.Proofs.ServerAgreement

/-!
# Clients that share a server

A client puts its prefix and a colon before every key, and the server knows nothing of
prefixes. Whether two clients get in each other's way is a question about texts: two
rendered keys are the same only if one of the prefixes, with its colon, stands at the
beginning of the other (`Config.serverKey_eq_iff`). If neither prefix has a colon, that
never happens (`Config.Apart`).

From there on only the server counts. A request is one command about one key
(`Client.read?_command`), and the server answers it from what it keeps under that key and
changes nothing else (`Server.execute_elsewhere`, `Server.execute_alike`). So a relation
between servers that agree on the keys of one client (`Server.AgreeOn`) is kept by the
requests of that client, made on both, and by those of another, made on one of them.
-/

namespace KeyRelay

/-- The key that a request is about. -/
def Request.key : Request → String
  | .get key => key
  | .set key _ _ => key
  | .delete key _ => key
  | .digest key => key

/-- The key that a command is about, as its receiver understands it. -/
def WireRequest.key : WireRequest → Bytes
  | .get key => key
  | .set key _ _ _ => key
  | .delete key _ => key
  | .digest key => key

namespace Remote

/-! ## One command about one key -/

/-- A key of a client as the server knows it. -/
def Config.serverKey (config : Config) (key : String) : Bytes := Utf8.encode (config.renderKey key)

namespace Client

/-- The command that a client makes of a request. -/
def command (c : Client) : Request → WireCommand
  | .get key => .get (c.config.renderKey key)
  | .set key value options => .set (c.config.renderKey key) value options
  | .delete key condition => .delete (c.config.renderKey key) condition
  | .digest key => .digest (c.config.renderKey key)

/-- What the client makes of the answer to a request. -/
def readAnswer : Request → Reply → Except CommandError Answer
  | .get _, reply => reply.value.map .value
  | .set _ _ _, reply => (written reply).map .applied
  | .delete _ _, reply => (deleted reply).map .applied
  | .digest _, reply => reply.text.map .digest

/-- **The rendered key comes first**, and it is the key that the receiver reads. -/
theorem read?_command (c : Client) (request : Request) :
    (c.command request).arguments.head? = some (c.config.serverKey request.key) ∧
      ∃ read, (c.command request).read? = some read ∧
        read.key = c.config.serverKey request.key := by
  cases request with
  | get key => exact ⟨rfl, _, WireCommand.read?_get _, rfl⟩
  | set key value options => exact ⟨rfl, _, WireCommand.read?_set _ _ _, rfl⟩
  | delete key condition => exact ⟨rfl, _, WireCommand.read?_delete _ _, rfl⟩
  | digest key => exact ⟨rfl, _, WireCommand.read?_digest _, rfl⟩

section

variable {m : Type → Type} [Monad m] [LawfulMonad m] {c : Client}

theorem ask_map {A B : Type} (exchange : Exchange m) (command : WireCommand)
    (read : Reply → Except CommandError A) (f : A → B) :
    (do return (← c.ask exchange command read).map f) =
      c.ask exchange command fun reply => (read reply).map f := by
  unfold ask
  rw [bind_assoc]
  refine bind_congr fun reply => ?_
  cases reply with
  | ok reply => rw [pure_bind]
  | error e => rw [pure_bind]; rfl

/-- A request is asked by its command. -/
theorem ask_commands (c : Client) (exchange : Exchange m) (request : Request) :
    (c.commands exchange).ask request =
      c.ask exchange (c.command request) (readAnswer request) := by
  cases request with
  | get key => exact ask_map _ _ _ _
  | set key value options => exact ask_map _ _ _ _
  | delete key condition => exact ask_map _ _ _ _
  | digest key => exact ask_map _ _ _ _

/-- **With connections a request is one command, and nothing else is sent.** -/
theorem ask_commands_eq (h : c.config.poolSize ≠ 0) (exchange : Exchange m) (request : Request) :
    (c.commands exchange).ask request =
      reading (readAnswer request) <$> exchange (c.command request) := by
  rw [ask_commands, ask_eq h]

theorem ask_commands_eq_timeout (h : c.config.poolSize = 0) (exchange : Exchange m)
    (request : Request) :
    (c.commands exchange).ask request = pure (.error (.timeout c.config.timeout)) := by
  rw [ask_commands, ask_eq_timeout h]

end

end Client

/-! ## Keys that are rendered alike -/

/-- What is joined by a mark comes to the same if one mark stands in what the other is in front
of. -/
theorem append_mark_eq_iff {A : Type} {mark : A} {p q k l : List A} (hne : p ≠ q)
    (hlong : ∀ r, p = q ++ r → r = []) :
    p ++ mark :: k = q ++ mark :: l ↔ ∃ r, q = p ++ mark :: r ∧ k = r ++ mark :: l := by
  constructor
  · intro h
    rcases List.append_eq_append_iff.mp h with ⟨r, hq, hk⟩ | ⟨r, hp, -⟩
    · -- what `q` has more than `p` is not empty, so it begins with the mark that follows `p`
      rcases List.cons_eq_append_iff.mp hk with ⟨rfl, -⟩ | ⟨r, rfl, htail⟩
      · exact absurd (hq.trans (List.append_nil p)).symm hne
      · exact ⟨r, hq, htail⟩
    · obtain rfl := hlong r hp
      exact absurd (hp.trans (List.append_nil q)) hne
  · rintro ⟨r, rfl, rfl⟩
    rw [List.append_assoc, List.cons_append]

/-- The same of texts and a colon. A text is not longer than another if it has no more characters,
or no more bytes. -/
theorem append_colon_eq_iff {p q k l : String} (hne : p ≠ q)
    (hlong : p.length ≤ q.length ∨ p.utf8ByteSize ≤ q.utf8ByteSize) :
    p ++ ":" ++ k = q ++ ":" ++ l ↔ ∃ r, q = p ++ ":" ++ r ∧ k = r ++ ":" ++ l := by
  have hlist : ∀ s t : String, (s ++ ":" ++ t).toList = s.toList ++ ':' :: t.toList := by
    intro s t
    rw [String.toList_append, String.toList_append, List.append_assoc]
    rfl
  have hrest : ∀ r, p.toList = q.toList ++ r → r = [] := by
    intro r hr
    have hp : p = q ++ String.ofList r := by
      rw [← String.toList_inj, String.toList_append, String.toList_ofList, hr]
    have hempty : String.ofList r = "" := by
      rcases hlong with hlong | hlong
      · rw [hp, String.length_append] at hlong
        exact String.length_eq_zero_iff.mp (by omega)
      · rw [hp, String.utf8ByteSize_append] at hlong
        exact String.utf8ByteSize_eq_zero_iff.mp (by omega)
    rw [← String.toList_ofList (l := r), hempty]
    rfl
  rw [← String.toList_inj, hlist, hlist,
    append_mark_eq_iff (fun h => hne (String.toList_inj.mp h)) hrest]
  constructor
  · rintro ⟨r, hq, hk⟩
    refine ⟨String.ofList r, ?_, ?_⟩
    · rw [← String.toList_inj, hlist, String.toList_ofList, hq]
    · rw [← String.toList_inj, hlist, String.toList_ofList, hk]
  · rintro ⟨r, rfl, rfl⟩
    exact ⟨r.toList, hlist p r, hlist r l⟩

namespace Config

variable {config other : Config} {p q : String}

/-- **Two clients render their keys alike** if the longer prefix begins with the shorter one and a
colon, and the key of the client with the shorter one goes on accordingly. -/
theorem serverKey_eq_iff (hp : config.keyPrefix = some p) (hq : other.keyPrefix = some q)
    (hne : p ≠ q) (hlong : p.length ≤ q.length ∨ p.utf8ByteSize ≤ q.utf8ByteSize)
    {key otherKey : String} :
    config.serverKey key = other.serverKey otherKey ↔
      ∃ r, q = p ++ ":" ++ r ∧ key = r ++ ":" ++ otherKey := by
  rw [serverKey, serverKey, Utf8.encode_inj, renderKey, renderKey, hp, hq]
  exact append_colon_eq_iff hne hlong

/-- No key of one client is a key of the other. -/
def Apart (config other : Config) : Prop :=
  ∀ key otherKey, config.serverKey key ≠ other.serverKey otherKey

theorem apart_of_no_colon (hp : config.keyPrefix = some p) (hq : other.keyPrefix = some q)
    (hne : p ≠ q) (hcolon : ':' ∉ p.toList) (hcolon' : ':' ∉ q.toList) :
    config.Apart other := by
  have hmem : ∀ s r : String, ':' ∈ (s ++ ":" ++ r).toList := by
    intro s r
    rw [String.toList_append, String.toList_append, List.mem_append, List.mem_append]
    exact .inl (.inr (by decide))
  intro key otherKey heq
  -- whichever prefix is the longer one would have the colon after the other
  rcases Nat.le_total p.length q.length with hlong | hlong
  · obtain ⟨r, rfl, -⟩ := (serverKey_eq_iff hp hq hne (.inl hlong)).mp heq
    exact hcolon' (hmem p r)
  · obtain ⟨r, rfl, -⟩ := (serverKey_eq_iff hq hp hne.symm (.inl hlong)).mp heq.symm
    exact hcolon (hmem q r)

end Config

/-! ## What a server does with a request -/

namespace Server

/-- A request changes what is kept under its own key at most. -/
theorem execute_elsewhere (s : Server) (request : WireRequest) :
    (s.execute request).2.now = s.now ∧
      ∀ key, key ≠ request.key → (s.execute request).2.keyspace key = s.keyspace key := by
  have hkeep : ∀ (key : Bytes) (e : Option Entry),
      (s.keep key e).now = s.now ∧
        ∀ other, other ≠ key → (s.keep key e).keyspace other = s.keyspace other :=
    fun key e => ⟨rfl, fun other hne => if_neg hne⟩
  cases request with
  | get key => exact ⟨rfl, fun _ _ => rfl⟩
  | digest key => exact ⟨rfl, fun _ _ => rfl⟩
  | delete key condition =>
      unfold execute
      dsimp only
      split
      · exact hkeep key none
      · exact ⟨rfl, fun _ _ => rfl⟩
  | set key value condition milliseconds =>
      unfold execute
      dsimp only
      split
      · exact hkeep key _
      · exact ⟨rfl, fun _ _ => rfl⟩

/-- What comes of a request depends on what is kept under its own key. -/
theorem execute_alike {s s' : Server} {request : WireRequest} (hnow : s.now = s'.now)
    (hkey : s.keyspace request.key = s'.keyspace request.key) :
    (s.execute request).1 = (s'.execute request).1 ∧
      (s.execute request).2.keyspace request.key =
        (s'.execute request).2.keyspace request.key := by
  have hvalue : s.value? request.key = s'.value? request.key := by
    unfold value?
    rw [hnow, hkey]
  have hkeep : ∀ e, (s.keep request.key e).keyspace request.key =
      (s'.keep request.key e).keyspace request.key :=
    fun e => (if_pos rfl).trans (if_pos rfl).symm
  -- both have the same value for the key, so that a condition holds in both or in neither
  cases request with
  | get key => exact ⟨congrArg bulkOrNull hvalue, hkey⟩
  | digest key =>
      exact ⟨congrArg (fun v : Option Bytes => bulkOrNull (v.map fun v =>
        Utf8.encode (valueDigest v))) hvalue, hkey⟩
  | delete key condition =>
      replace hvalue : s.value? key = s'.value? key := hvalue
      unfold execute
      dsimp only
      rw [hvalue]
      split
      · exact ⟨rfl, hkeep none⟩
      · exact ⟨rfl, hkey⟩
  | set key value condition milliseconds =>
      replace hvalue : s.value? key = s'.value? key := hvalue
      unfold execute
      dsimp only
      rw [hvalue, hnow]
      split
      · exact ⟨rfl, hkeep _⟩
      · exact ⟨rfl, hkey⟩

/-- Two servers show the same time and keep the same under some keys. -/
structure AgreeOn (keys : Bytes → Prop) (s s' : Server) : Prop where
  now : s.now = s'.now
  kept : ∀ key, keys key → s.keyspace key = s'.keyspace key

namespace AgreeOn

variable {keys : Bytes → Prop} {s s' : Server} {request : WireRequest}

/-- A request for one of the keys is answered alike on both. -/
theorem execute (h : AgreeOn keys s s') (hkey : keys request.key) :
    (s.execute request).1 = (s'.execute request).1 ∧
      AgreeOn keys (s.execute request).2 (s'.execute request).2 := by
  obtain ⟨hanswer, hown⟩ := execute_alike h.now (h.kept _ hkey)
  obtain ⟨hnow, helsewhere⟩ := s.execute_elsewhere request
  obtain ⟨hnow', helsewhere'⟩ := s'.execute_elsewhere request
  refine ⟨hanswer, hnow.trans (h.now.trans hnow'.symm), fun key hmem => ?_⟩
  -- the request's own key is changed alike, and all others stay
  by_cases heq : key = request.key
  · rw [heq]
    exact hown
  · rw [helsewhere key heq, helsewhere' key heq]
    exact h.kept key hmem

/-- A request for another key on one of them makes no difference. -/
theorem execute_left (h : AgreeOn keys s s') (hkey : ¬ keys request.key) :
    AgreeOn keys (s.execute request).2 s' := by
  obtain ⟨hnow, helsewhere⟩ := s.execute_elsewhere request
  refine ⟨hnow.trans h.now, fun key hmem => ?_⟩
  have hne : key ≠ request.key := fun heq => hkey (heq ▸ hmem)
  rw [helsewhere key hne]
  exact h.kept key hmem

end AgreeOn

end Server

/-! ## Two clients -/

namespace Client

/-- On a server a request is read and executed for its rendered key, or it does not get there. -/
theorem make_ask_cases (c : Client) (request : Request) :
    (∃ (read : Reply → Except CommandError Answer) (wire : WireRequest),
      wire.key = c.config.serverKey request.key ∧
        ∀ s, (c.timed.make (.ask request)).run s =
          (some (read (s.execute wire).1), (s.execute wire).2)) ∨
    ∃ failure, ∀ s, (c.timed.make (.ask request)).run s = (some (.error failure), s) := by
  by_cases hpool : c.config.poolSize = 0
  · refine .inr ⟨.timeout c.config.timeout, fun s => ?_⟩
    have h := ask_commands_eq_timeout hpool Server.exchange request
    exact congrArg (fun program : StateM Server _ => (some (program.run s).1, (program.run s).2)) h
  · obtain ⟨-, wire, hread, hkey⟩ := c.read?_command request
    refine .inl ⟨readAnswer request, wire, hkey, fun s => ?_⟩
    have h := ask_commands_eq hpool Server.exchange request
    have hanswer : s.answer (c.command request) = s.execute wire := by
      unfold Server.answer
      rw [hread]
    rw [← hanswer]
    exact congrArg (fun program : StateM Server _ => (some (program.run s).1, (program.run s).2)) h

section

variable {c : Client} {keys : Bytes → Prop} {s s' : Server}

/-- **A client sees its own keys only.** Where servers agree on these, it is told the same. -/
theorem make_alike (hown : ∀ key, keys (c.config.serverKey key)) (h : Server.AgreeOn keys s s')
    (move : Move) :
    ((c.timed.make move).run s).1 = ((c.timed.make move).run s').1 ∧
      Server.AgreeOn keys ((c.timed.make move).run s).2 ((c.timed.make move).run s').2 := by
  cases move with
  | ask request =>
      rcases c.make_ask_cases request with ⟨read, wire, hkey, hrun⟩ | ⟨failure, hrun⟩
      · have hmem : keys wire.key := hkey ▸ hown request.key
        obtain ⟨hanswer, hafter⟩ := h.execute hmem
        rw [hrun, hrun, hanswer]
        exact ⟨rfl, hafter⟩
      · rw [hrun, hrun]
        exact ⟨rfl, h⟩
  | wait d => exact ⟨rfl, congrArg (· + d.nanoseconds) h.now, h.kept⟩

/-- **A client changes its own keys only.** -/
theorem make_left (hforeign : ∀ key, ¬ keys (c.config.serverKey key))
    (h : Server.AgreeOn keys s s') (request : Request) :
    Server.AgreeOn keys ((c.timed.make (.ask request)).run s).2 s' := by
  rcases c.make_ask_cases request with ⟨read, wire, hkey, hrun⟩ | ⟨failure, hrun⟩
  · rw [hrun]
    exact h.execute_left (hkey ▸ hforeign request.key)
  · rw [hrun]
    exact h

end

end Client

/-- What happens on a server that a client shares with another. -/
inductive Traffic where
  /-- The client makes a request, or time goes by. -/
  | own (move : Move)
  | other (request : Request)
deriving DecidableEq, Repr

/-- What is left of the traffic without the other client. -/
def Traffic.own? : Traffic → Option Move
  | .own move => some move
  | .other _ => none

/-- What a client is told on a server that it shares with another. -/
def Client.share (c other : Client) : List Traffic → StateM Server (List Outcome)
  | [] => return []
  | .own move :: rest => do
    let outcome ← c.timed.make move
    return outcome :: (← c.share other rest)
  | .other request :: rest => do
    let _ ← other.timed.make (.ask request)
    c.share other rest

/-- **A client does not notice another one** whose keys are apart from its own. -/
theorem Client.share_eq_run {c other : Client} (h : c.config.Apart other.config)
    (traffic : List Traffic) (s : Server) :
    ((c.share other traffic).run s).1 =
      ((c.timed.run (traffic.filterMap Traffic.own?)).run s).1 := by
  -- the servers with and without the other client agree on the keys of this one all the time
  suffices hagree : ∀ s s', Server.AgreeOn (fun key => ∃ k, key = c.config.serverKey k) s s' →
      ((c.share other traffic).run s).1 =
        ((c.timed.run (traffic.filterMap Traffic.own?)).run s').1 from
    hagree s s ⟨rfl, fun _ _ => rfl⟩
  induction traffic with
  | nil => exact fun _ _ _ => rfl
  | cons next rest ih =>
      intro s s' hagree
      cases next with
      | own move =>
          obtain ⟨hanswer, hafter⟩ := make_alike (fun key => ⟨key, rfl⟩) hagree move
          exact congrArg₂ List.cons hanswer (ih _ _ hafter)
      | other request =>
          refine ih _ _ (make_left ?_ hagree request)
          rintro key ⟨k, hk⟩
          exact h k key hk.symm

/--
**Key namespaces.**

* Every request of a client is one command, which has the rendered key as its first argument, and
  the receiver reads it as a request about that key. With connections this command is all that is
  sent, and what is returned depends on the answer to it alone. Without connections nothing is sent.
* One client never renders two keys alike.
* Two clients with different prefixes render their keys alike exactly if the longer prefix begins
  with the shorter one and a colon, and the key of the client with the shorter one begins with what
  then follows and a colon, and ends in the key of the other.
* If moreover the prefixes have no colon, they never render their keys alike. The other client's
  requests leave what the server keeps under the keys of the first, and their answers do not depend
  on it. Whatever the other client does in between, the first is told what it would be told without
  it.
-/
theorem key_namespaces :
    (∀ (c : Client) (request : Request), ∃ (command : WireCommand) (wire : WireRequest),
      let key := Utf8.encode (c.config.renderKey request.key)
      command.arguments.head? = some key ∧ command.read? = some wire ∧ wire.key = key ∧
      (c.config.poolSize ≠ 0 → ∃ told : Except String Reply → Except CommandError Answer,
        ∀ {m : Type → Type} [Monad m] [LawfulMonad m] (exchange : Exchange m),
          (c.commands exchange).ask request = told <$> exchange command) ∧
      (c.config.poolSize = 0 →
        ∀ {m : Type → Type} [Monad m] [LawfulMonad m] (exchange : Exchange m),
          (c.commands exchange).ask request = pure (.error (.timeout c.config.timeout)))) ∧
    (∀ (config : Config) (key other : String), key ≠ other →
      Utf8.encode (config.renderKey key) ≠ Utf8.encode (config.renderKey other)) ∧
    ∀ (c other : Client) (p q : String),
      c.config.keyPrefix = some p → other.config.keyPrefix = some q → p ≠ q →
      (p.length ≤ q.length ∨ p.utf8ByteSize ≤ q.utf8ByteSize → ∀ key otherKey,
        c.config.serverKey key = other.config.serverKey otherKey ↔
          ∃ r, q = p ++ ":" ++ r ∧ key = r ++ ":" ++ otherKey) ∧
      (':' ∉ p.toList → ':' ∉ q.toList →
        (∀ key otherKey, c.config.serverKey key ≠ other.config.serverKey otherKey) ∧
        (∀ request s key, ((other.timed.make (.ask request)).run s).2.keyspace
          (c.config.serverKey key) = s.keyspace (c.config.serverKey key)) ∧
        (∀ request s s', s.now = s'.now →
          (∀ bytes, (∀ key, bytes ≠ c.config.serverKey key) →
            s.keyspace bytes = s'.keyspace bytes) →
          ((other.timed.make (.ask request)).run s).1 =
            ((other.timed.make (.ask request)).run s').1) ∧
        ∀ traffic s, ((c.share other traffic).run s).1 =
          ((c.timed.run (traffic.filterMap Traffic.own?)).run s).1) := by
  refine ⟨fun c request => ?_, fun config key other hne heq => ?_,
    fun c other p q hp hq hne => ⟨fun hlong key otherKey => ?_, fun hcolon hcolon' => ?_⟩⟩
  · obtain ⟨hfirst, wire, hread, hkey⟩ := c.read?_command request
    exact ⟨c.command request, wire, hfirst, hread, hkey,
      fun hpool => ⟨_, fun exchange => Client.ask_commands_eq hpool exchange request⟩,
      fun hpool _ _ _ exchange => Client.ask_commands_eq_timeout hpool exchange request⟩
  · exact hne (config.encode_renderKey_inj.mp heq)
  · exact Config.serverKey_eq_iff hp hq hne hlong
  · have hapart : c.config.Apart other.config :=
      Config.apart_of_no_colon hp hq hne hcolon hcolon'
    refine ⟨hapart, fun request s key => ?_, fun request s s' hnow hkept => ?_,
      Client.share_eq_run hapart⟩
    · have hforeign : ∀ k, ¬ other.config.serverKey k = c.config.serverKey key :=
        fun k heq => hapart key k heq.symm
      have hsame : Server.AgreeOn (· = c.config.serverKey key) s s := ⟨rfl, fun _ _ => rfl⟩
      exact (Client.make_left hforeign hsame request).kept _ rfl
    · have hown : ∀ k key, other.config.serverKey k ≠ c.config.serverKey key :=
        fun k key heq => hapart key k heq.symm
      exact (Client.make_alike hown ⟨hnow, hkept⟩ (.ask request)).1

/-- Where a prefix goes on behind a colon, the two clients have a key in common. Where neither has a
colon, one client finds what it wrote after the other has deleted the key of the same name. -/
theorem key_namespaces_met_and_apart :
    let short : Client := ⟨{ keyPrefix := some "a" }⟩
    let long : Client := ⟨{ keyPrefix := some "a:b" }⟩
    let app : Client := ⟨{ keyPrefix := some "app" }⟩
    let web : Client := ⟨{ keyPrefix := some "web" }⟩
    let traffic : List Traffic := [.own (.ask (.set "k" [1] {})), .other (.delete "k" none),
      .own (.ask (.get "k"))]
    short.config.serverKey "b:k" = long.config.serverKey "k" ∧
      app.config.serverKey "k" ≠ web.config.serverKey "k" ∧
      ((app.share web traffic).run {}).1 =
        [some (.ok (.applied true)), some (.ok (.value (some [1])))] := by
  intro short long app web traffic
  obtain ⟨-, -, hclients⟩ := key_namespaces
  obtain ⟨hmeet, -⟩ := hclients short long "a" "a:b" rfl rfl (by decide)
  obtain ⟨-, hapart⟩ := hclients app web "app" "web" rfl rfl (by decide)
  obtain ⟨hkeys, -, -, htold⟩ := hapart (by decide) (by decide)
  refine ⟨(hmeet (.inl (by decide)) "b:k" "k").mpr ⟨"b", rfl, rfl⟩, hkeys "k" "k", ?_⟩
  rw [htold]
  decide +kernel

end Remote

end KeyRelay
