import KeyRelay.Cli.Arguments
import KeyRelay.Cli.Settings
import KeyRelay.Remote.Client
/-!
# Running a command

A run reads the command line, then the configuration file if there is one, and then does what the
command asks. It touches the outside through three parameters: the variables of the environment, a
reader of files, and the exchange with the server.

The exit code is 0 for a run that succeeds, 1 for one that fails and 2 for a command line that makes
no sense.
-/

namespace KeyRelay.Cli

/-- Why a run failed. -/
inductive Failure where
  /-- The configuration file cannot be used. -/
  | config (path : String) (fault : ConfigFault)
  /-- A command on a key failed. -/
  | command (e : CommandError)
  | listener (e : ListenerError)
deriving DecidableEq, Repr

/-- The wording of a failure, and of what caused it. -/
def Failure.chain : Failure → List String
  | .config _ (.unreadable path reason) => ["failed to read " ++ path, reason]
  | .config path .shape => ["invalid configuration in " ++ path, "TOML parse error"]
  | .config path fault => ["invalid configuration in " ++ path, fault.error.message]
  | .command e => [e.message]
  | .listener e => [e.message]

def Failure.text (f : Failure) : String :=
  match f.chain with
  | [] => ""
  | [only] => "Error: " ++ only ++ "\n"
  | first :: causes =>
    "Error: " ++ first ++ "\n\nCaused by:\n" ++
      String.join (causes.map fun cause => "    " ++ cause ++ "\n")

/-- What a run leaves behind. -/
structure Output where
  code : Nat
  stdout : String
  stderr : String
deriving DecidableEq, Repr

/-- The name and the version of the program. -/
def versionText : String := "redbind 0.1.0\n"

def usageText : String :=
  "Usage: redbind [OPTIONS] <COMMAND>\n\n" ++
  "Commands:\n" ++
  "  get <KEY>          show the value of a key\n" ++
  "  set <KEY> <VALUE>  write a value, if a condition holds\n" ++
  "  del <KEY>          delete a key, if a condition holds\n" ++
  "  digest <KEY>       show the digest of a value\n" ++
  "  topic <TEXT>       tell whether a destination is a channel or a pattern\n" ++
  "  listeners          list the configured listeners\n\n" ++
  "Options:\n" ++
  "  --config <FILE>  --url <URL>  --prefix <PREFIX>  --format <text|json>\n" ++
  "  set: --px <MILLISECONDS>\n" ++
  "  set, del: --if-eq <VALUE>  --if-ne <VALUE>\n" ++
  "            --if-digest-eq <DIGEST>  --if-digest-ne <DIGEST>\n"

/-- What is printed where the reading of the command line ends early. -/
def Early.output : Early → Output
  | .help => ⟨0, usageText, ""⟩
  | .version => ⟨0, versionText, ""⟩
  | .misuse => ⟨2, "", usageText⟩

/-! ## Commands on configurations -/

def topicText (format : Format) (t : Topic) : String :=
  match format with
  | .text => t.name ++ ": " ++ t.kind ++ "\n"
  | .json =>
    (Json.Value.ofMembers [("topic", .string t.name), ("kind", .string t.kind)]).compact ++ "\n"

/-- A definition and the topic it resolves to. -/
structure Row where
  /-- The definition. -/
  definition : Definition
  topic : Topic
deriving DecidableEq, Repr

namespace Row

/-- The method that handles the messages, with its bean. -/
def handler (r : Row) : String := r.definition.bean ++ "." ++ r.definition.method

def line (r : Row) : String :=
  "  " ++ r.definition.id.getD "(generated)" ++ " | " ++ r.definition.topic ++
    " (" ++ r.topic.kind ++ ") | " ++ r.handler ++ "\n"

def json (r : Row) : Json.Value :=
  .ofMembers
    [("id", KeyReport.jsonOf r.definition.id),
     ("container", KeyReport.jsonOf r.definition.container),
     ("topic", .string r.topic.name), ("kind", .string r.topic.kind),
     ("handler", .string r.handler)]

end Row

/-- Resolves the topics of definitions one after the other, up to the first failure. -/
def resolveAll (r : Resolver) : List Definition → Except ListenerError (List Row)
  | [] => .ok []
  | d :: rest =>
    match r.resolve d.topic with
    | (.error e, _) => .error e
    | (.ok topic, r) => (resolveAll r rest).map (⟨d, topic⟩ :: ·)

def listing (format : Format) (rows : List Row) : String :=
  match format with
  | .text => toString rows.length ++ " listeners:\n" ++ String.join (rows.map Row.line)
  | .json => (Json.Value.array (rows.map Row.json)).pretty 0 ++ "\n"

/-! ## All of a run -/

/-- The settings of a run: those of the file, under those of the command line. -/
def Invocation.settings (i : Invocation) (file : Settings) : Settings :=
  { file with remote := { file.remote with
      url := i.url.getD file.remote.url
      keyPrefix := i.keyPrefix <|> file.remote.keyPrefix } }

variable {m : Type → Type} [Monad m]

/-- Does what a command asks, and returns what it prints. -/
def perform (exchange : Remote.Exchange m) (settings : Settings) (format : Format) :
    Command → m (Except Failure String)
  | .key command =>
    match Remote.Client.connect settings.remote with
    | .error e => pure (.error (.command e))
    | .ok client => do
      match ← command.perform (client.commands exchange) with
      | .ok report => return .ok (report.line format ++ "\n")
      | .error e => return .error (.command e)
  | .topic destination =>
    match settings.listener.resolver.resolve destination with
    | (.ok topic, _) => pure (.ok (topicText format topic))
    | (.error e, _) => pure (.error (.listener e))
  | .listeners =>
    match resolveAll settings.listener.resolver settings.listener.listeners with
    | .ok rows => pure (.ok (listing format rows))
    | .error e => pure (.error (.listener e))

/-- The settings of the configuration file, if one is named. -/
def fileSettings (readFile : String → m (Except String Bytes)) (path : Option String) :
    m (Except Failure Settings) :=
  match path with
  | none => pure (.ok {})
  | some path => do
    match Settings.load path (← readFile path) with
    | .ok settings => return .ok settings
    | .error fault => return .error (.config path fault)

/-- What a command line that makes sense comes to. -/
def Invocation.execute (exchange : Remote.Exchange m)
    (readFile : String → m (Except String Bytes)) (i : Invocation) : m (Except Failure String) := do
  match ← fileSettings readFile i.config with
  | .error f => return .error f
  | .ok file => perform exchange (i.settings file) i.format i.command

def run (environment : String → Option String) (readFile : String → m (Except String Bytes))
    (exchange : Remote.Exchange m) (words : List String) : m Output :=
  match read environment words with
  | .error e => pure e.output
  | .ok i => do
    match ← i.execute exchange readFile with
    | .ok printed => return ⟨0, printed, ""⟩
    | .error f => return ⟨1, "", f.text⟩

end KeyRelay.Cli
