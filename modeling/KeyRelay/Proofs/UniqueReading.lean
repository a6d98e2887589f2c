import KeyRelay.Proofs.WireReading

/-!
# No two requests share a command

`Proofs/WireReading.lean` says what a receiver makes of a command: bytes for the
key, a number for the expiration. Here that is carried back to the request the
command was made from. A receiver gets all of it back, except for the part of an
expiration that is less than a millisecond, or more than a word of milliseconds
(`Request.onWire`).

A request that can be read off its command is the only one, up to that rest, that
has it. So nothing has to be said about which bytes a client may choose: a key
that is empty, or spelled like a keyword or a number, and a digest with the bytes
of a value, are all told apart by the same reader.
-/

namespace KeyRelay

/-! ## Requests and their commands -/

/-- An expiration as a command shows it. -/
def Duration.onWire (d : Duration) : Duration := .ofMilliseconds d.expirationMilliseconds

theorem Duration.onWire_inj {d other : Duration} :
    d.onWire = other.onWire ↔ d.expirationMilliseconds = other.expirationMilliseconds := by
  unfold Duration.onWire Duration.ofMilliseconds
  rw [Duration.mk.injEq]
  exact Nat.mul_left_inj (by decide)

namespace Request

/-- The command that is sent for a request. -/
def command : Request → WireCommand
  | .get key => .get key
  | .set key value options => .set key value options
  | .delete key condition => .delete key condition
  | .digest key => .digest key

/-- A request as its command shows it: all of it, with the expiration in whole milliseconds. -/
def onWire : Request → Request
  | .set key value options =>
    .set key value { options with expiration := options.expiration.map Duration.onWire }
  | request => request

/-- Whether two requests are of one kind, and are the same but for what a command cannot show. -/
def SameOnWire : Request → Request → Prop
  | .get key, .get key' => key = key'
  | .set key value options, .set key' value' options' =>
    key = key' ∧ value = value' ∧ options.condition = options'.condition ∧
      options.expiration.map Duration.expirationMilliseconds =
        options'.expiration.map Duration.expirationMilliseconds
  | .delete key condition, .delete key' condition' => key = key' ∧ condition = condition'
  | .digest key, .digest key' => key = key'
  | _, _ => False

theorem map_onWire_inj {d other : Option Duration} :
    d.map Duration.onWire = other.map Duration.onWire ↔
      d.map Duration.expirationMilliseconds = other.map Duration.expirationMilliseconds := by
  cases d <;> cases other <;> simp [Duration.onWire_inj]

theorem onWire_eq_iff (r other : Request) : r.onWire = other.onWire ↔ r.SameOnWire other := by
  cases r <;> cases other <;> simp [onWire, SameOnWire, map_onWire_inj]

end Request

/-! ## Back from a command to its request -/

/-- The request that a receiver is asked. Its key has to be a text. -/
def WireRequest.request? : WireRequest → Option Request
  | .get key => (text? key).map .get
  | .set key value condition milliseconds =>
    (text? key).map fun key =>
      .set key value ⟨condition, milliseconds.map Duration.ofMilliseconds⟩
  | .delete key condition => (text? key).map fun key => .delete key condition
  | .digest key => (text? key).map .digest

namespace WireCommand

/-- The request that a command was made from, as far as the command shows it. -/
def request? (c : WireCommand) : Option Request := c.read?.bind WireRequest.request?

theorem request?_get (key : String) : (get key).request? = some (.get key) := by
  rw [request?, read?_get, Option.bind_some, WireRequest.request?, WireRequest.text?_encode]
  rfl

theorem request?_digest (key : String) : (digest key).request? = some (.digest key) := by
  rw [request?, read?_digest, Option.bind_some, WireRequest.request?, WireRequest.text?_encode]
  rfl

theorem request?_delete (key : String) (condition : Option Condition) :
    (delete key condition).request? = some (.delete key condition) := by
  rw [request?, read?_delete, Option.bind_some, WireRequest.request?, WireRequest.text?_encode]
  rfl

theorem request?_set (key : String) (value : Bytes) (options : SetOptions) :
    (set key value options).request? =
      some (.set key value
        ⟨options.condition, options.expiration.map Duration.onWire⟩) := by
  rw [request?, read?_set, Option.bind_some, WireRequest.request?, WireRequest.text?_encode,
    Option.map_map]
  rfl

end WireCommand

/-- **A request is read off its command.** -/
theorem Request.request?_command (r : Request) : r.command.request? = some r.onWire := by
  cases r with
  | get key => exact WireCommand.request?_get key
  | set key value options => exact WireCommand.request?_set key value options
  | delete key condition => exact WireCommand.request?_delete key condition
  | digest key => exact WireCommand.request?_digest key

theorem WireCommand.expirationArguments_congr {d other : Option Duration}
    (h : d.map Duration.expirationMilliseconds = other.map Duration.expirationMilliseconds) :
    expirationArguments d = expirationArguments other := by
  cases d with
  | none =>
      cases other with
      | none => rfl
      | some other => exact absurd h (by simp)
  | some d =>
      cases other with
      | none => exact absurd h (by simp)
      | some other =>
          have hms : d.expirationMilliseconds = other.expirationMilliseconds := by simpa using h
          rw [expirationArguments, expirationArguments, hms]

/-- What a command cannot show makes no other command. -/
theorem Request.SameOnWire.command_eq {r other : Request} (h : r.SameOnWire other) :
    r.command = other.command := by
  cases r <;> cases other <;> try exact absurd h id
  case get.get => exact congrArg WireCommand.get h
  case digest.digest => exact congrArg WireCommand.digest h
  case delete.delete =>
      obtain ⟨rfl, rfl⟩ := h
      rfl
  case set.set =>
      obtain ⟨rfl, rfl, hcondition, hexpiration⟩ := h
      show WireCommand.set _ _ _ = WireCommand.set _ _ _
      rw [WireCommand.set, WireCommand.set, hcondition,
        WireCommand.expirationArguments_congr hexpiration]

/--
**The commands are uniquely readable.** One reader takes every delete, every set and every digest
back to its key, its value, its condition and its expiration in milliseconds. So two requests have
one command exactly if they are of one kind and agree in all of these, whatever the key, the value
and the comparand look like.
-/
theorem commands_read_uniquely :
    (∀ key condition,
      (WireCommand.delete key condition).request? = some (.delete key condition)) ∧
    (∀ key value options,
      (WireCommand.set key value options).request? =
        some (.set key value ⟨options.condition, options.expiration.map fun d =>
          .ofMilliseconds d.expirationMilliseconds⟩)) ∧
    (∀ key, (WireCommand.digest key).request? = some (.digest key)) ∧
    ∀ r other : Request, r.command = other.command ↔ r.SameOnWire other := by
  refine ⟨WireCommand.request?_delete, WireCommand.request?_set, WireCommand.request?_digest, ?_⟩
  intro r other
  constructor
  · intro h
    have hread : some r.onWire = some other.onWire := by
      rw [← r.request?_command, ← other.request?_command, h]
    exact (r.onWire_eq_iff other).mp (Option.some.inj hread)
  · exact Request.SameOnWire.command_eq

/-- A key and a value that look like what follows them, and a digest with the bytes of a value, are
told apart. -/
example :
    (WireCommand.set "PX" [0x50, 0x58] { expiration := some ⟨1500000⟩ }).request? =
        some (.set "PX" [0x50, 0x58] { expiration := some (.ofMilliseconds 1) }) ∧
      (WireCommand.delete "DEL" (some (.ifEquals [0x61]))).request? ≠
        (WireCommand.delete "DEL" (some (.ifDigestEquals "a"))).request? := by
  decide

end KeyRelay
