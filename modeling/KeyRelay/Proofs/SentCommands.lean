import KeyRelay.Cli.Run
import KeyRelay.Proofs.OneRequest
import KeyRelay.Proofs.WireReading
import KeyRelay.Remote.Script

/-!
# What a set and a del send

From the words of a command line to a command on the wire it is a long way: the words are
read, a condition is staged on a spec, the spec is turned into options, a duration comes
and goes, a prefix is put before the key, and all of it is encoded. What comes out at the
other end can be said in a line: the key, the value, the keyword and the text of the flag
if there is one, and a number of milliseconds that is at least one.

The way is gone in three parts. Words are read (`Verb.read_set`, `Verb.read_delete`);
what is staged makes a condition without fail, because texts are always written
(`KeyCommand.condition_setSpec`, `KeyCommand.condition_deleteSpec`); and a client that
has a connection sends one command and does nothing with the answer but to read it
(`Client.ask_eq`).
-/

namespace KeyRelay

namespace Cli

/-! ## Flags -/

/-- An option that asks for a condition. -/
inductive ConditionFlag where
  | ifEq
  | ifNe
  | ifDigestEq
  | ifDigestNe
deriving DecidableEq, Repr

namespace ConditionFlag

/-- The flag as it is written, after two dashes. -/
def name : ConditionFlag → String
  | .ifEq => "if-eq"
  | .ifNe => "if-ne"
  | .ifDigestEq => "if-digest-eq"
  | .ifDigestNe => "if-digest-ne"

/-- The word that stands for it in a command to the server. -/
def keyword : ConditionFlag → String
  | .ifEq => "IFEQ"
  | .ifNe => "IFNE"
  | .ifDigestEq => "IFDEQ"
  | .ifDigestNe => "IFDNE"

/-- The condition that the flag asks for. -/
def guard (text : String) : ConditionFlag → Guard
  | .ifEq => ⟨.equals, .value, text⟩
  | .ifNe => ⟨.notEquals, .value, text⟩
  | .ifDigestEq => ⟨.equals, .digest, text⟩
  | .ifDigestNe => ⟨.notEquals, .digest, text⟩

/-- **A flag is its keyword on the wire**, and its text is sent as it is. -/
theorem conditionArguments_guard (flag : ConditionFlag) (text : String) :
    WireCommand.conditionArguments (some (flag.guard text).condition) =
      [Utf8.encode flag.keyword, Utf8.encode text] := by
  cases flag <;> rfl

end ConditionFlag

/-- A flag with its text, if one is given. -/
abbrev GivenFlag := Option (ConditionFlag × String)

namespace GivenFlag

def guard? (given : GivenFlag) : Option Guard := given.map fun (flag, text) => flag.guard text

/-- The flag among the words of a command line. -/
def words (given : GivenFlag) : List String :=
  (given.map fun (flag, text) => "--" ++ flag.name ++ "=" ++ text).toList

end GivenFlag

/-- A lifetime in milliseconds among the words of a command line. -/
def lifetimeWords (px : Option UInt64) : List String :=
  (px.map fun n => "--" ++ "px" ++ "=" ++ toString n.toNat).toList

/-! ## Reading the words -/

/-- An option is taken apart at its first equals sign, which none of the names has. -/
theorem Word.ofText_option {name : String} (h : '=' ∉ name.toList) (value : String) :
    Word.ofText ("--" ++ name ++ "=" ++ value) = .option name (some value) := by
  have htext : ("--" ++ name ++ "=" ++ value).toList =
      '-' :: '-' :: (name.toList ++ '=' :: value.toList) := by
    simp [String.toList_append]
  have hname : ∀ c ∈ name.toList, decide (c ≠ '=') = true := fun c hc =>
    decide_eq_true fun heq => h (heq ▸ hc)
  have htake : (name.toList ++ '=' :: value.toList).takeWhile (· ≠ '=') = name.toList := by
    rw [List.takeWhile_append_of_pos hname, List.takeWhile_cons_of_neg (by simp), List.append_nil]
  have hdrop : (name.toList ++ '=' :: value.toList).dropWhile (· ≠ '=') = '=' :: value.toList := by
    rw [List.dropWhile_append_of_pos hname, List.dropWhile_cons_of_neg (by simp)]
  -- two dashes with something behind them are not the sign that no more options come
  obtain ⟨c, rest, hrest⟩ := List.exists_cons_of_ne_nil
    (show name.toList ++ '=' :: value.toList ≠ [] by simp)
  rw [hrest] at htext htake hdrop
  unfold Word.ofText
  rw [htext]
  show Word.option (String.ofList ((c :: rest).takeWhile (· ≠ '='))) _ = _
  rw [htake, hdrop, String.ofList_toList]
  dsimp only
  rw [String.ofList_toList]

namespace Grammar

variable {g : Grammar} {l l' : Level}

/-- An option that is understood, and that can be given its value, is given it. -/
theorem scan_option {name value : String} {o : OptionName} (h : '=' ∉ name.toList)
    (hname : OptionName.ofText? name = some o) (haccepts : g.accepts o = true)
    (hgive : l.give o value = some l') (rest : List String) :
    g.scan l (("--" ++ name ++ "=" ++ value) :: rest) = g.scan l' rest := by
  rw [scan, Word.ofText_option h]
  dsimp only
  rw [hname, Option.filter_some, if_pos haccepts]
  dsimp only
  rw [hgive]

/-- After the sign that no more options come, all words are operands. -/
theorem scan_escape {operands : List String}
    (h : l.operands.length + operands.length ≤ g.operandCount) :
    g.scan l ("--" :: operands) = .finished { l with operands := l.operands ++ operands } := by
  have hescape : Word.ofText "--" = .escape := by decide
  rw [scan, hescape]
  dsimp only
  rw [if_pos h]

/-- A flag that is given is the guard of the level. -/
theorem scan_given (given : GivenFlag) (h : l.guards = [])
    (haccepts : ∀ operator subject, g.accepts (.guard operator subject) = true)
    (rest : List String) :
    g.scan l (given.words ++ rest) = g.scan { l with guards := given.guard?.toList } rest := by
  cases given with
  | none =>
      show g.scan l rest = g.scan { l with guards := [] } rest
      rw [← h]
  | some given =>
      obtain ⟨flag, text⟩ := given
      have hgive : ∀ operator subject,
          l.give (.guard operator subject) text =
            some { l with guards := [⟨operator, subject, text⟩] } :=
        fun operator subject => by simp [Level.give, h]
      cases flag <;>
        exact scan_option (by decide) rfl (haccepts _ _) (hgive _ _) rest

/-- A lifetime that is given is the lifetime of the level. Every word of 64 bits is one. -/
theorem scan_lifetime (px : Option UInt64) (h : l.milliseconds = none)
    (haccepts : g.accepts .milliseconds = true) (rest : List String) :
    g.scan l (lifetimeWords px ++ rest) =
      g.scan { l with milliseconds := px.map (·.toNat) } rest := by
  cases px with
  | none =>
      show g.scan l rest = g.scan { l with milliseconds := none } rest
      rw [← h]
  | some n =>
      have hread : Spelled.natural? (toString n.toNat).toList = some n.toNat :=
        Spelled.natural?_toString (Nat.le_of_lt_succ n.toNat_lt)
      have hgive : l.give .milliseconds (toString n.toNat) =
          some { l with milliseconds := some n.toNat } := by
        unfold Level.give
        dsimp only
        rw [h, hread]
        rfl
      exact scan_option (by decide) rfl haccepts hgive rest

end Grammar

namespace GivenFlag

/-- There is at most one flag, so it is the one that counts. -/
theorem head?_guard? (given : GivenFlag) :
    given.guard?.toList.head? = given.guard? ∧ ¬ 1 < given.guard?.toList.length := by
  cases given with
  | none => exact ⟨rfl, Nat.not_lt_zero 1⟩
  | some _ => exact ⟨rfl, Nat.lt_irrefl 1⟩

end GivenFlag

namespace Verb

/-- **The words after `set`**, whatever the operands look like. -/
theorem read_set (key value : String) (px : Option UInt64) (given : GivenFlag) :
    ∃ l, Verb.set.grammar.scan {} (given.words ++ (lifetimeWords px ++ ["--", key, value])) =
        .finished l ∧
      Verb.set.command? l = some (.key (.set key value (px.map (·.toNat)) given.guard?)) := by
  obtain ⟨hhead, hone⟩ := given.head?_guard?
  refine ⟨{ guards := given.guard?.toList, milliseconds := px.map (·.toNat),
            operands := [key, value] }, ?_, ?_⟩
  · rw [Grammar.scan_given given rfl fun _ _ => rfl, Grammar.scan_lifetime px rfl rfl]
    exact Grammar.scan_escape (Nat.le_refl 2)
  · unfold command?
    dsimp only
    rw [if_neg hone, hhead]

/-- **The words after `del`**, whatever the operand looks like. -/
theorem read_delete (key : String) (given : GivenFlag) :
    ∃ l, Verb.delete.grammar.scan {} (given.words ++ ["--", key]) = .finished l ∧
      Verb.delete.command? l = some (.key (.delete key given.guard?)) := by
  obtain ⟨hhead, hone⟩ := given.head?_guard?
  refine ⟨{ guards := given.guard?.toList, operands := [key] }, ?_, ?_⟩
  · rw [Grammar.scan_given given rfl fun _ _ => rfl]
    exact Grammar.scan_escape (Nat.le_refl 1)
  · unfold command?
    dsimp only
    rw [if_neg hone, hhead]

end Verb

/-! ## Staging -/

namespace KeyCommand

variable (given : GivenFlag)

/-- **Both commands stage the same.** -/
theorem staging_setSpec (milliseconds : Option Nat) (guard : Option Guard) :
    Spec.staging (setSpec milliseconds guard) = Spec.staging (deleteSpec guard) := by
  rcases guard with _ | ⟨_ | _, _ | _, text⟩ <;> cases milliseconds <;> rfl

theorem condition_deleteSpec :
    Spec.condition (m := Id) (deleteSpec given.guard?) Serializer.text.serialize =
      .ok (given.guard?.map Guard.condition) := by
  rcases given with _ | ⟨_ | _ | _ | _, text⟩ <;> rfl

theorem condition_setSpec (milliseconds : Option Nat) :
    Spec.condition (m := Id) (setSpec milliseconds given.guard?) Serializer.text.serialize =
      .ok (given.guard?.map Guard.condition) := by
  unfold Spec.condition
  rw [staging_setSpec]
  exact condition_deleteSpec given

theorem expiration_setSpec (milliseconds : Option Nat) (guard : Option Guard) :
    (setSpec milliseconds guard).expiration = milliseconds.map .ofMilliseconds := by
  rcases guard with _ | ⟨_ | _, _ | _, text⟩ <;> cases milliseconds <;> rfl

section

variable {m : Type → Type} [Monad m] [LawfulMonad m] (backend : KeyCommands m)
  (key value : String)

/-- **What a set asks of a backend.** It never fails before. -/
theorem perform_set (milliseconds : Option Nat) :
    (set key value milliseconds given.guard?).perform backend =
      (·.map (.written key)) <$> backend.set key (Utf8.encode value)
        ⟨given.guard?.map Guard.condition, milliseconds.map .ofMilliseconds⟩ := by
  rw [perform, ValueOperations.setIf_eq_set _ (condition_setSpec given _) rfl, expiration_setSpec,
    map_eq_pure_bind]

/-- **What a del asks of a backend.** -/
theorem perform_delete :
    (delete key given.guard?).perform backend =
      (·.map (.deleted key)) <$> backend.delete key (given.guard?.map Guard.condition) := by
  rw [perform, ValueOperations.deleteIf_eq_delete _ (condition_deleteSpec given),
    map_eq_pure_bind]

end

end KeyCommand

/-! ## On the wire -/

/-- What a flag adds to a command. -/
def GivenFlag.arguments : GivenFlag → List Bytes
  | none => []
  | some (flag, text) => [Utf8.encode flag.keyword, Utf8.encode text]

/-- What a lifetime adds to a command. The server refuses zero. -/
def lifetimeArguments : Option UInt64 → List Bytes
  | none => []
  | some n => [Utf8.encode "PX", Utf8.encode (toString (max 1 n.toNat))]

theorem GivenFlag.conditionArguments (given : GivenFlag) :
    WireCommand.conditionArguments (given.guard?.map Guard.condition) = given.arguments := by
  cases given with
  | none => rfl
  | some given => exact given.1.conditionArguments_guard given.2

/-- Whole milliseconds come through the duration as they are, down to one and up to a word. -/
theorem expirationMilliseconds_ofMilliseconds (n : UInt64) :
    (Duration.ofMilliseconds n.toNat).expirationMilliseconds = max 1 n.toNat := by
  -- the wire takes no more than a word, and this is one
  have hword : n.toNat ≤ maxWord := Nat.le_of_lt_succ n.toNat_lt
  unfold Duration.expirationMilliseconds Duration.ofMilliseconds Duration.milliseconds
  rw [Nat.mul_div_cancel _ (by decide), Nat.min_eq_left hword, Nat.max_comm]

theorem expirationArguments_lifetime (px : Option UInt64) :
    WireCommand.expirationArguments ((px.map (·.toNat)).map .ofMilliseconds) =
      lifetimeArguments px := by
  cases px with
  | none => rfl
  | some n =>
      show [_, Utf8.encode (toString (Duration.ofMilliseconds n.toNat).expirationMilliseconds)] = _
      rw [expirationMilliseconds_ofMilliseconds]
      rfl

/-- The command that a `set` sends, for a key as the server knows it. -/
def setCommand (rendered value : String) (px : Option UInt64) (given : GivenFlag) : WireCommand :=
  ⟨"SET", Utf8.encode rendered :: Utf8.encode value :: (given.arguments ++ lifetimeArguments px)⟩

/-- The command that a `del` sends. -/
def deleteCommand (rendered : String) : GivenFlag → WireCommand
  | none => ⟨"DEL", [Utf8.encode rendered]⟩
  | some (flag, text) =>
    ⟨"DELEX", [Utf8.encode rendered, Utf8.encode flag.keyword, Utf8.encode text]⟩

/-! ## Sending -/

end Cli

/-- Settings with which a client has a connection to a server. -/
structure Remote.Config.Usable (c : Config) : Prop where
  server : (Address.ofUrl? c.url).isSome
  connections : c.poolSize ≠ 0

namespace Remote.Client

/-- What is made of an answer, or of the reason why there is none. -/
def reading {A : Type} (read : Reply → Except CommandError A) :
    Except String Reply → Except CommandError A
  | .ok reply => read reply
  | .error reason => .error (.connection reason)

variable {m : Type → Type} [Monad m] [LawfulMonad m]

/-- **A client with connections sends one command** and reads the answer. -/
theorem ask_eq {c : Client} (h : c.config.poolSize ≠ 0) {A : Type} (exchange : Exchange m)
    (command : WireCommand) (read : Reply → Except CommandError A) :
    c.ask exchange command read = reading read <$> exchange command := by
  unfold ask request
  rw [if_neg h, bind_assoc, map_eq_pure_bind]
  refine bind_congr fun answer => ?_
  cases answer with
  | ok reply => simp only [pure_bind, reading]
  | error reason => simp only [pure_bind, reading]

/-- Without connections nothing is sent. -/
theorem ask_eq_timeout {c : Client} (h : c.config.poolSize = 0) {A : Type} (exchange : Exchange m)
    (command : WireCommand) (read : Reply → Except CommandError A) :
    c.ask exchange command read = pure (.error (.timeout c.config.timeout)) := by
  unfold ask request
  rw [if_pos h, pure_bind]

end Remote.Client

/-- **A server that follows a script writes down what it is sent**, whatever is made of its
answer. -/
theorem Remote.Script.sent_of_eq {A : Type} {program : StateM Script A}
    {f : Except String Reply → A} {command : WireCommand} (h : program = f <$> exchange command)
    (script : Script) : (program.run script).2.sent = script.sent ++ [command] := by
  obtain ⟨cues, sent⟩ := script
  rw [h, StateT.run_map]
  show ((exchange command).run ⟨cues, sent⟩).2.sent = _
  rcases cues with _ | ⟨_ | _, rest⟩ <;> rfl

namespace Cli

/-- What is printed of an outcome. -/
def printed (format : Format) : Except CommandError KeyReport → Except Failure String
  | .ok report => .ok (report.line format ++ "\n")
  | .error e => .error (.command e)

/-- What is printed of the answer to a set or a del. -/
def printing (format : Format) (report : Bool → KeyReport)
    (read : Remote.Reply → Except CommandError Bool) (answer : Except String Remote.Reply) :
    Except Failure String :=
  printed format ((Remote.Client.reading read answer).map report)

section

variable {m : Type → Type} [Monad m] [LawfulMonad m] (exchange : Remote.Exchange m)
  {settings : Settings} (format : Format) (key value : String) (px : Option UInt64)
  (given : GivenFlag)

theorem perform_key (h : (Remote.Address.ofUrl? settings.remote.url).isSome)
    (command : KeyCommand) :
    perform exchange settings format (.key command) = printed format <$>
      command.perform ((Remote.Client.mk settings.remote).commands exchange) := by
  unfold perform Remote.Client.connect
  rw [if_pos h]
  dsimp only
  rw [map_eq_pure_bind]
  refine bind_congr fun outcome => ?_
  cases outcome <;> rfl

/-- **A set sends its command.** -/
theorem perform_set (h : settings.remote.Usable) :
    perform exchange settings format (.key (.set key value (px.map (·.toNat)) given.guard?)) =
      printing format (.written key) Remote.Client.written <$>
        exchange (setCommand (settings.remote.renderKey key) value px given) := by
  have hcommand : WireCommand.set (settings.remote.renderKey key) (Utf8.encode value)
      ⟨given.guard?.map Guard.condition, (px.map (·.toNat)).map .ofMilliseconds⟩ =
        setCommand (settings.remote.renderKey key) value px given := by
    unfold WireCommand.set setCommand
    rw [given.conditionArguments, expirationArguments_lifetime]
  rw [perform_key exchange format h.server, KeyCommand.perform_set, Remote.Client.commands]
  dsimp only
  rw [Remote.Client.ask_eq h.connections, hcommand, Functor.map_map, Functor.map_map]
  rfl

/-- **A del sends its command.** -/
theorem perform_delete (h : settings.remote.Usable) :
    perform exchange settings format (.key (.delete key given.guard?)) =
      printing format (.deleted key) Remote.Client.deleted <$>
        exchange (deleteCommand (settings.remote.renderKey key) given) := by
  have hcommand : WireCommand.delete (settings.remote.renderKey key)
      (given.guard?.map Guard.condition) =
        deleteCommand (settings.remote.renderKey key) given := by
    unfold WireCommand.delete
    rw [given.conditionArguments]
    cases given <;> rfl
  rw [perform_key exchange format h.server, KeyCommand.perform_delete, Remote.Client.commands]
  dsimp only
  rw [Remote.Client.ask_eq h.connections, hcommand, Functor.map_map, Functor.map_map]
  rfl

/-- **Without a server or a connection nothing is sent.** -/
theorem perform_unusable (h : ¬ settings.remote.Usable) :
    (∃ failure, perform exchange settings format
      (.key (.set key value (px.map (·.toNat)) given.guard?)) = pure (.error failure)) ∧
    ∃ failure, perform exchange settings format (.key (.delete key given.guard?)) =
      pure (.error failure) := by
  by_cases hserver : (Remote.Address.ofUrl? settings.remote.url).isSome
  · have hnone : settings.remote.poolSize = 0 := by
      by_contra hsome
      exact h ⟨hserver, hsome⟩
    rw [perform_key exchange format hserver, perform_key exchange format hserver,
      KeyCommand.perform_set, KeyCommand.perform_delete, Remote.Client.commands]
    dsimp only
    rw [Remote.Client.ask_eq_timeout hnone, Remote.Client.ask_eq_timeout hnone]
    simp only [map_pure]
    exact ⟨⟨_, rfl⟩, _, rfl⟩
  · unfold perform Remote.Client.connect
    rw [if_neg hserver]
    exact ⟨⟨_, rfl⟩, _, rfl⟩

/-- What was written is told by whether there is any answer. -/
theorem printing_written {reply : Remote.Reply} {t : Option String} (h : reply.text = .ok t) :
    printing format (.written key) Remote.Client.written (.ok reply) =
      .ok ((KeyReport.written key (decide (reply ≠ .null))).line format ++ "\n") := by
  have hsome : t.isSome = decide (reply ≠ .null) := by
    cases reply with
    | null =>
        obtain rfl := Except.ok.inj h
        rfl
    | bulk bytes =>
        unfold Remote.Reply.text at h
        dsimp only at h
        split at h
        · obtain rfl := Except.ok.inj h
          rfl
        · exact absurd h nofun
    | integer n =>
        obtain rfl := Except.ok.inj h
        rfl
    | status word =>
        obtain rfl := Except.ok.inj h
        rfl
    | error text => exact absurd h nofun
  unfold printing Remote.Client.reading Remote.Client.written
  dsimp only
  rw [h, ← hsome]
  rfl

/-- What was deleted is told by whether the number is positive. -/
theorem printing_deleted {reply : Remote.Reply} {n : Int} (h : reply.number = .ok n) :
    printing format (.deleted key) Remote.Client.deleted (.ok reply) =
      .ok ((KeyReport.deleted key (decide (0 < n))).line format ++ "\n") := by
  unfold printing Remote.Client.reading Remote.Client.deleted
  dsimp only
  rw [h]
  rfl

end

/--
**What a `set` and a `del` send.** Let there be any prefix or none, a key, a value, at most one flag
that asks for a condition, with any text, and any number of milliseconds of 64 bits, or none.

* There are words for this, and they are read as the commands that are meant.
* Both commands stage the same condition, whatever serializer is to write it, and with texts it is
  that of the flag.
* With a server and a connection, a `set` sends `SET` with the key under its prefix and the value,
  then the keyword of the flag and its text as it is, then `PX` and the number of milliseconds, but
  at least one. A `del` sends `DEL` with the key, or `DELEX` with the key, the keyword and the text.
  This is all that is sent, and what is printed depends on the answer alone.
* If the answer can be read as a text or nothing, a `set` reports that it wrote exactly if it is
  not nil. If it can be read as a number, a `del` reports that it deleted exactly if that is
  positive.
* Without a server or a connection nothing is sent, and that is a failure.
-/
theorem set_and_del_send_one_command (settings : Settings) (format : Format) (key value : String)
    (given : Option (ConditionFlag × String)) (px : Option UInt64) :
    let guard := given.map fun (flag, text) => flag.guard text
    let set := KeyCommand.set key value (px.map (·.toNat)) guard
    let delete := KeyCommand.delete key guard
    let rendered := Utf8.encode (match settings.remote.keyPrefix with
      | some p => p ++ ":" ++ key
      | none => key)
    let condition := match given with
      | none => []
      | some (flag, text) => [Utf8.encode flag.keyword, Utf8.encode text]
    let lifetime := match px with
      | none => []
      | some n => [Utf8.encode "PX", Utf8.encode (toString (max 1 n.toNat))]
    let sentBySet : WireCommand :=
      ⟨"SET", rendered :: Utf8.encode value :: (condition ++ lifetime)⟩
    let sentByDelete : WireCommand :=
      ⟨if given.isSome then "DELEX" else "DEL", rendered :: condition⟩
    let flag := (given.map fun (flag, text) => "--" ++ flag.name ++ "=" ++ text).toList
    let px' := (px.map fun n => "--px=" ++ toString n.toNat).toList
    (∃ l, Verb.set.grammar.scan {} (flag ++ (px' ++ ["--", key, value])) = .finished l ∧
      Verb.set.command? l = some (.key set)) ∧
    (∃ l, Verb.delete.grammar.scan {} (flag ++ ["--", key]) = .finished l ∧
      Verb.delete.command? l = some (.key delete)) ∧
    (∀ serialize, Spec.condition (m := Id) (KeyCommand.setSpec (px.map (·.toNat)) guard) serialize =
      Spec.condition (m := Id) (KeyCommand.deleteSpec guard) serialize) ∧
    Spec.condition (m := Id) (KeyCommand.deleteSpec guard) Serializer.text.serialize =
      .ok (guard.map Guard.condition) ∧
    (settings.remote.Usable → ∃ toldOfSet toldOfDelete : Except String Remote.Reply →
        Except Failure String,
      (∀ {m : Type → Type} [Monad m] [LawfulMonad m] (exchange : Remote.Exchange m),
        perform exchange settings format (.key set) = toldOfSet <$> exchange sentBySet ∧
        perform exchange settings format (.key delete) = toldOfDelete <$> exchange sentByDelete) ∧
      (∀ script : Remote.Script,
        ((perform Remote.Script.exchange settings format (.key set)).run script).2.sent =
          script.sent ++ [sentBySet] ∧
        ((perform Remote.Script.exchange settings format (.key delete)).run script).2.sent =
          script.sent ++ [sentByDelete]) ∧
      (∀ reply t, reply.text = .ok t →
        toldOfSet (.ok reply) =
          .ok ((KeyReport.written key (decide (reply ≠ .null))).line format ++ "\n")) ∧
      ∀ reply n, reply.number = .ok n →
        toldOfDelete (.ok reply) =
          .ok ((KeyReport.deleted key (decide (0 < n))).line format ++ "\n")) ∧
    (¬ settings.remote.Usable → ∀ {m : Type → Type} [Monad m] [LawfulMonad m]
        (exchange : Remote.Exchange m),
      (∃ failure, perform exchange settings format (.key set) = pure (.error failure)) ∧
      ∃ failure, perform exchange settings format (.key delete) = pure (.error failure)) := by
  intro guard set delete rendered condition lifetime sentBySet sentByDelete flag px'
  have hset : setCommand (settings.remote.renderKey key) value px given = sentBySet := by
    cases given <;> cases px <;> rfl
  have hdelete : deleteCommand (settings.remote.renderKey key) given = sentByDelete := by
    cases given <;> rfl
  refine ⟨Verb.read_set key value px given, Verb.read_delete key given, fun serialize => ?_,
    KeyCommand.condition_deleteSpec given, fun husable => ?_, fun hunusable m _ _ exchange =>
      perform_unusable exchange format key value px given hunusable⟩
  · unfold Spec.condition
    rw [KeyCommand.staging_setSpec]
  rw [← hset, ← hdelete]
  exact ⟨_, _,
    fun exchange => ⟨perform_set exchange format key value px given husable,
      perform_delete exchange format key given husable⟩,
    fun script =>
      ⟨Remote.Script.sent_of_eq (perform_set _ format key value px given husable) script,
        Remote.Script.sent_of_eq (perform_delete _ format key given husable) script⟩,
    fun reply t => printing_written format key, fun reply n => printing_deleted format key⟩

/-- An empty text behind a flag is sent as an empty text, and a lifetime of nothing as one
millisecond. -/
theorem set_and_del_send_one_command_emptied :
    let settings : Settings := { remote := { keyPrefix := some "app" } }
    let guard : Guard := ⟨.notEquals, .digest, ""⟩
    let run (command : KeyCommand) := perform Remote.Script.exchange settings .text (.key command)
    let set := run (.set "k" "v" (some 0) (some guard))
    let delete := run (.delete "k" (some guard))
    settings.remote.Usable ∧
      (set.run { cues := [.reply .null] }).2.sent =
        [⟨"SET", ["app:k", "v", "IFDNE", "", "PX", "1"].map Utf8.encode⟩] ∧
      (set.run { cues := [.reply .null] }).1 = .ok "k: condition not met\n" ∧
      (delete.run { cues := [.reply (.integer 1)] }).2.sent =
        [⟨"DELEX", ["app:k", "IFDNE", ""].map Utf8.encode⟩] ∧
      (delete.run { cues := [.reply (.integer 1)] }).1 = .ok "k: deleted\n" := by
  intro settings guard run set delete
  have husable : settings.remote.Usable := ⟨by decide +kernel, by decide⟩
  obtain ⟨-, -, -, -, hsends, -⟩ :=
    set_and_del_send_one_command settings .text "k" "v" (some (.ifDigestNe, "")) (some 0)
  obtain ⟨_, _, -, hscript, -⟩ := hsends husable
  exact ⟨husable, (hscript _).1, by decide +kernel, (hscript _).2, by decide +kernel⟩

end Cli

end KeyRelay
