import KeyRelay.Cli.Command
import KeyRelay.Text.Spelled
/-!
# Reading the command line

    [OPTIONS] <COMMAND> [OPTIONS] [OPERANDS]

The command line has two levels: what stands before the command and what follows it. Four options
are understood on both, the rest only after the command they belong to. On one level an option may
be given once; given on both, what follows the command counts. Variables of the environment stand in
for two of them.

The value of an option follows it, as the next word or behind an equals sign. As the next word it
must not look like an option itself. After `--` every word is an operand.
-/

namespace KeyRelay.Cli

/-- An option that takes a value. -/
inductive OptionName where
  | config
  | url
  | keyPrefix
  | format
  /-- How long a value is to live. -/
  | milliseconds
  | guard (operator : Operator) (subject : Subject)
deriving DecidableEq, Repr

namespace OptionName

/-- The option of a name, as it is written after two dashes. -/
def ofText? : String → Option OptionName
  | "config" => some .config
  | "url" => some .url
  | "prefix" => some .keyPrefix
  | "format" => some .format
  | "px" => some .milliseconds
  | "if-eq" => some (.guard .equals .value)
  | "if-ne" => some (.guard .notEquals .value)
  | "if-digest-eq" => some (.guard .equals .digest)
  | "if-digest-ne" => some (.guard .notEquals .digest)
  | _ => none

/-- Whether an option is understood on both levels. -/
def isGlobal : OptionName → Bool
  | .config | .url | .keyPrefix | .format => true
  | .milliseconds | .guard .. => false

end OptionName

/-- The word for a command. -/
inductive Verb where
  /-- For the value of a key. -/
  | get
  | set
  | delete
  /-- For the digest of a value. -/
  | digest
  /-- For the kind of a destination. -/
  | topic
  | listeners
deriving DecidableEq, Repr

namespace Verb

def ofText? : String → Option Verb
  | "get" => some .get
  | "set" => some .set
  | "del" => some .delete
  | "digest" => some .digest
  | "topic" => some .topic
  | "listeners" => some .listeners
  | _ => none

def operandCount : Verb → Nat
  | .get => 1
  | .set => 2
  | .delete => 1
  | .digest => 1
  | .topic => 1
  | .listeners => 0

/-- Whether an option is understood after a command. -/
def accepts (v : Verb) (o : OptionName) : Bool :=
  o.isGlobal ||
    match v, o with
    | .set, _ => true
    | .delete, .guard .. => true
    | _, _ => false

end Verb

/-! ## One level -/

/-- What is given on one level. -/
structure Level where
  config : Option String := none
  url : Option String := none
  keyPrefix : Option String := none
  format : Option Format := none
  /-- How long a value is to live. -/
  milliseconds : Option Nat := none
  guards : List Guard := []
  operands : List String := []
deriving DecidableEq, Repr

def Format.ofText? : String → Option Format
  | "text" => some .text
  | "json" => some .json
  | _ => none

/-- The name of a file, which has at least one character. -/
def fileName? (text : String) : Option String := if text = "" then none else some text

/-- Gives an option its value, which it must not have yet. -/
def Level.give (l : Level) (o : OptionName) (value : String) : Option Level :=
  match o with
  | .config => do
    guard l.config.isNone
    return { l with config := ← fileName? value }
  | .url => do
    guard l.url.isNone
    return { l with url := value }
  | .keyPrefix => do
    guard l.keyPrefix.isNone
    return { l with keyPrefix := value }
  | .format => do
    guard l.format.isNone
    return { l with format := ← Format.ofText? value }
  | .milliseconds => do
    guard l.milliseconds.isNone
    return { l with milliseconds := ← Spelled.natural? value.toList }
  | .guard operator subject => do
    guard (!l.guards.any fun g => g.operator = operator ∧ g.subject = subject)
    return { l with guards := l.guards ++ [⟨operator, subject, value⟩] }

/-- A word of the command line. -/
inductive Word where
  | escape
  /-- An option by its name, with the value behind its equals sign if there is one. -/
  | option (name : String) (value : Option String)
  /-- One dash and the letter after it. -/
  | letter (c : Char)
  | plain
deriving DecidableEq, Repr

def Word.ofText (text : String) : Word :=
  match text.toList with
  | ['-', '-'] => .escape
  | '-' :: '-' :: rest =>
    let name := rest.takeWhile (· ≠ '=')
    let value := match rest.dropWhile (· ≠ '=') with
      | [] => none
      | _ :: value => some (String.ofList value)
    .option (String.ofList name) value
  | '-' :: c :: _ => .letter c
  | _ => .plain

/-- Where the reading of the command line can end early. -/
inductive Early where
  | help
  | version
  /-- The command line makes no sense. -/
  | misuse
deriving DecidableEq, Repr

/-- What is understood on a level. -/
structure Grammar where
  accepts : OptionName → Bool
  /-- How many operands there may be. -/
  operandCount : Nat
  /-- Whether the version can be asked for. -/
  hasVersion : Bool

/-- Where the reading of a level stopped. -/
inductive Scan where
  /-- At the end of the command line. -/
  | finished (l : Level)
  /-- At a word that is an operand too many, with the words after it. -/
  | surplus (l : Level) (word : String) (rest : List String)
  | early (e : Early)

/-- What a flag without a value asks for, if it is understood. -/
def Grammar.flag? (g : Grammar) : Word → Option Early
  | .option "help" none => some .help
  | .letter 'h' => some .help
  | .option "version" none => if g.hasVersion then some .version else none
  | .letter 'V' => if g.hasVersion then some .version else none
  | _ => none

def Grammar.scan (g : Grammar) (l : Level) : List String → Scan
  | [] => .finished l
  | word :: rest =>
    match Word.ofText word with
    | .plain =>
      if l.operands.length < g.operandCount then
        g.scan { l with operands := l.operands ++ [word] } rest
      else .surplus l word rest
    | .escape =>
      if l.operands.length + rest.length ≤ g.operandCount then
        .finished { l with operands := l.operands ++ rest }
      else .early .misuse
    | .option name value =>
      match (OptionName.ofText? name).filter g.accepts, value, rest with
      | none, _, _ => .early ((g.flag? (.option name value)).getD .misuse)
      | some o, some value, rest =>
        match l.give o value with
        | some l => g.scan l rest
        | none => .early .misuse
      | some _, none, [] => .early .misuse
      | some o, none, value :: rest =>
        if Word.ofText value = .plain then
          match l.give o value with
          | some l => g.scan l rest
          | none => .early .misuse
        else .early .misuse
    | .letter c => .early ((g.flag? (.letter c)).getD .misuse)

/-! ## Both levels -/

/-- What the command line asks for. -/
structure Invocation where
  config : Option String
  /-- Where the server is, in place of what the configuration says. -/
  url : Option String
  /-- What is put before keys, in place of what the configuration says. -/
  keyPrefix : Option String
  format : Format
  command : Command
deriving DecidableEq, Repr

/-- The variable that names a configuration file. -/
def configVariable : String := "REDBIND_CONFIG"

/-- The variable that says where the server is. -/
def urlVariable : String := "REDBIND_URL"

def outerGrammar : Grammar := ⟨OptionName.isGlobal, 0, true⟩

def Verb.grammar (v : Verb) : Grammar := ⟨v.accepts, v.operandCount, false⟩

/-- The command of a level that has been read. -/
def Verb.command? (v : Verb) (l : Level) : Option Command :=
  let guard := l.guards.head?
  if 1 < l.guards.length then none
  else
    match v, l.operands with
    | .get, [key] => some (.key (.get key))
    | .set, [key, value] => some (.key (.set key value l.milliseconds guard))
    | .delete, [key] => some (.key (.delete key guard))
    | .digest, [key] => some (.key (.digest key))
    | .topic, [destination] => some (.topic destination)
    | .listeners, [] => some .listeners
    | _, _ => none

/-- What both levels and the environment ask for. A variable is looked at for each level that lacks
its option, and has to make sense even if the other level has it. -/
def invocation? (environment : String → Option String) (outer inner : Level) (v : Verb) :
    Option Invocation := do
  let command ← v.command? inner
  let config ←
    match inner.config, outer.config, environment configVariable with
    | some file, some _, _ => some (some file)
    | inner, outer, some file => (fileName? file).map fun file => some ((inner <|> outer).getD file)
    | inner, outer, none => some (inner <|> outer)
  return {
    config
    url := inner.url <|> outer.url <|> environment urlVariable
    keyPrefix := inner.keyPrefix <|> outer.keyPrefix
    format := (inner.format <|> outer.format).getD .text
    command }

/-- Whether help can be had on these words: on the whole, or on one command. -/
def isHelpTopic : List String → Bool
  | [] => true
  | [word] => word == "help" || (Verb.ofText? word).isSome
  | _ => false

def read (environment : String → Option String) (words : List String) : Except Early Invocation :=
  match outerGrammar.scan {} words with
  | .early e => .error e
  | .finished _ => .error .misuse
  | .surplus outer word rest =>
    match Verb.ofText? word with
    | none => .error (if word = "help" ∧ isHelpTopic rest then .help else .misuse)
    | some v =>
      match v.grammar.scan {} rest with
      | .early e => .error e
      | .surplus .. => .error .misuse
      | .finished inner =>
        match invocation? environment outer inner v with
        | some i => .ok i
        | none => .error .misuse

end KeyRelay.Cli
