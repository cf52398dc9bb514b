import ChainArchive.Text.Likeness
import ChainArchive.Text.Terminal
import ChainArchive.Text.Word
import ChainArchive.Url.Parser

namespace ChainArchive

/-! The command line. -/

structure Options where
  url : Url
  output : String
  timeout : Nat
  jsonLog : Bool
  deriving DecidableEq, Repr

namespace CommandLine

inductive Setting where
  | rpcUrl
  | output
  | timeout
  deriving DecidableEq, Repr

inductive Switch where
  | jsonLog
  | help
  | version
  deriving DecidableEq, Repr

inductive Argument where
  | setting (setting : Setting)
  | switch (switch : Switch)
  deriving DecidableEq, Repr

namespace Argument

def all : List Argument :=
  [.setting .rpcUrl, .setting .output, .setting .timeout, .switch .jsonLog,
    .switch .help, .switch .version]

def name : Argument → String
  | .setting .rpcUrl => "rpc-url"
  | .setting .output => "output"
  | .setting .timeout => "timeout"
  | .switch .jsonLog => "json-log"
  | .switch .help => "help"
  | .switch .version => "version"

def letter? : Argument → Option Char
  | .setting .output => some 'o'
  | .switch .help => some 'h'
  | .switch .version => some 'V'
  | _ => none

def shown (argument : Argument) : String :=
  "--" ++ argument.name ++
    match argument with
    | .setting .rpcUrl => " <URL>"
    | .setting .output => " <FILE>"
    | .setting .timeout => " <SECS>"
    | .switch _ => ""

def isOption : Argument → Bool
  | .switch .help | .switch .version => false
  | _ => true

def ofName? (name : String) : Option Argument := all.find? (·.name = name)

def ofLetter? (letter : Char) : Option Argument := all.find? (·.letter? = some letter)

def similar? (name : String) : Option Argument :=
  (Text.mostSimilar? name (all.map (·.name))).bind ofName?

end Argument

/-! What is wrong with a command line. -/

inductive ValueFault where
  | url (fault : UrlFault)
  | number (fault : Text.NumberFault)
  | zero
  deriving DecidableEq, Repr

def ValueFault.message : ValueFault → String
  | .url fault => fault.message
  | .number fault => fault.message
  | .zero => "0 is not in 1..18446744073709551615"

structure Usage where
  arguments : List Argument
  alternatives : Bool
  deriving DecidableEq, Repr

namespace Usage

def general : Usage := ⟨[], false⟩

def alternativesText : String :=
  "<" ++ String.intercalate "|" ((Argument.all.filter (·.isOption)).map (·.shown)) ++ ">"

/-- An option shown among the alternatives is not shown again. -/
def parts (usage : Usage) : List String :=
  if usage.alternatives then
    ((usage.arguments.filter (!·.isOption)).map (·.shown)) ++ [alternativesText]
  else usage.arguments.map (·.shown)

def line (usage : Usage) : String :=
  let parts := if usage.parts.isEmpty then ["[OPTIONS]"] else usage.parts
  "Usage: chainlog-extract " ++ String.intercalate " " parts

end Usage

inductive Refusal where
  | unknown (text : String) (similar : Option Argument) (usage : Usage)
  | noValue (setting : Setting)
  | repeated (argument : Argument)
  | surplus (value : String) (switch : Switch) (usage : Usage)
  | badValue (value : String) (setting : Setting) (fault : ValueFault)
  deriving DecidableEq, Repr

namespace Refusal

/-- What was typed is shown as a terminal would show it. -/
def message : Refusal → String
  | .unknown text _ _ => "unexpected argument '" ++ Text.asShown text ++ "' found"
  | .noValue setting =>
      "a value is required for '" ++ (Argument.setting setting).shown ++
        "' but none was supplied"
  | .repeated argument =>
      "the argument '" ++ argument.shown ++ "' cannot be used multiple times"
  | .surplus value switch _ =>
      "unexpected value '" ++ Text.asShown value ++ "' for '" ++ (Argument.switch switch).shown ++
        "' found; no more were expected"
  | .badValue value setting fault =>
      "invalid value '" ++ Text.asShown value ++ "' for '" ++ (Argument.setting setting).shown ++
        "': " ++ fault.message

def usage? : Refusal → Option Usage
  | .unknown _ _ usage | .surplus _ _ usage => some usage
  | .repeated _ => some .general
  | .noValue _ | .badValue _ _ _ => none

def tip : Refusal → String
  | .unknown _ (some argument) _ =>
      "\n\n  tip: a similar argument exists: '--" ++ argument.name ++ "'"
  | _ => ""

def text (refusal : Refusal) : String :=
  "error: " ++ refusal.message ++ refusal.tip ++
    (refusal.usage?.map fun usage => "\n\n" ++ usage.line).getD "" ++
    "\n\nFor more information, try '--help'.\n"

end Refusal

inductive Command where
  | extract (options : Options)
  | help
  | version
  deriving DecidableEq, Repr

/-! Values. -/

def parseUrl (text : String) : Except ValueFault Url :=
  (Url.parse text).mapError .url

/-- Zero seconds are no time to wait. -/
def parseTimeout (text : String) : Except ValueFault Nat := do
  let seconds ← (Text.parseWord text).mapError .number
  if seconds = 0 then .error .zero else .ok seconds

/-- What was read so far, and the arguments it was read from. An option that takes a
value is due until the next argument that is no value. -/
structure Given where
  url : Option Url
  output : Option String
  timeout : Option Nat
  used : List Argument
  due : Option (Setting × Option String)

namespace Given

def nothing : Given := ⟨none, none, none, [], none⟩

def uses (given : Given) (argument : Argument) : Bool := given.used.contains argument

def use (given : Given) (argument : Argument) : Given :=
  { given with used := given.used ++ [argument] }

def accept (given : Given) (value : String) (setting : Setting) : Except Refusal Given :=
  match setting with
  | .rpcUrl => do
      let url ← (parseUrl value).mapError (.badValue value setting)
      return { given with url := some url }
  | .output =>
      if value.isEmpty then .error (.noValue setting)
      else .ok { given with output := some value }
  | .timeout => do
      let seconds ← (parseTimeout value).mapError (.badValue value setting)
      return { given with timeout := some seconds }

def store (given : Given) (setting : Setting) (value : Option String) :
    Except Refusal Given :=
  match value with
  | none => .error (.noValue setting)
  | some value =>
      if given.uses (.setting setting) then .error (.repeated (.setting setting))
      else (given.use (.setting setting)).accept value setting

def settle (given : Given) : Except Refusal Given :=
  match given.due with
  | none => .ok given
  | some (setting, value) => { given with due := none }.store setting value

end Given

inductive Reading where
  | going (given : Given)
  | over (command : Command)

namespace Given

def await (given : Given) (setting : Setting) : Except Refusal Reading := do
  return .going { ← given.settle with due := some (setting, none) }

def attach (given : Given) (setting : Setting) (value : String) :
    Except Refusal Reading := do
  return .going (← (← given.settle).store setting (some value))

def turn (given : Given) (switch : Switch) : Except Refusal Reading := do
  let given ← given.settle
  match switch with
  | .jsonLog =>
      if given.uses (.switch .jsonLog) then .error (.repeated (.switch .jsonLog))
      else return .going (given.use (.switch .jsonLog))
  | .help => return .over .help
  | .version => return .over .version

/-- The arguments in use once an option that was due has got its value, which need not
be a good one. An option that is given twice counts no more. -/
def usedByNow (given : Given) : List Argument :=
  match given.due with
  | some (setting, some _) =>
      if given.uses (.setting setting) then given.used.erase (.setting setting)
      else given.used ++ [.setting setting]
  | _ => given.used

/-- An unknown argument matters more than an option that was due. It is told beside the
arguments in use and the one that is similar. -/
def unknownName (given : Given) (name : String) : Refusal :=
  let similar := Argument.similar? name
  let shown := given.usedByNow ++
    similar.toList.filter fun argument => !given.usedByNow.contains argument
  .unknown ("--" ++ name) similar ⟨shown, false⟩

def readName (given : Given) (text : List Char) : Except Refusal Reading :=
  let name := String.ofList (text.takeWhile (· ≠ '='))
  let value? := (text.dropWhile (· ≠ '=')).tail?.map String.ofList
  match Argument.ofName? name, value? with
  | none, _ => .error (given.unknownName name)
  | some (.setting setting), some value => given.attach setting value
  | some (.setting setting), none => given.await setting
  | some (.switch switch), some value =>
      .error (.surplus value switch ⟨[.switch switch], !given.used.isEmpty⟩)
  | some (.switch switch), none => given.turn switch

def readLetters (given : Given) : List Char → Except Refusal Reading
  | [] => .ok (.going given)
  | letter :: rest =>
      match Argument.ofLetter? letter with
      | none => .error (.unknown ("-" ++ String.singleton letter) none .general)
      | some (.setting setting) =>
          match rest with
          | [] => given.await setting
          | '=' :: value => given.attach setting (String.ofList value)
          | value => given.attach setting (String.ofList value)
      | some (.switch switch) =>
          match given.turn switch with
          | .ok (.going given) => given.readLetters rest
          | ended => ended

def readValue (given : Given) (text : String) : Except Refusal Reading :=
  match given.due with
  | some (setting, none) => .ok (.going { given with due := some (setting, some text) })
  | _ => .error (.unknown text none .general)

def read (given : Given) (text : String) : Except Refusal Reading :=
  match text.toList with
  | '-' :: '-' :: rest => given.readName rest
  | '-' :: letter :: rest => given.readLetters (letter :: rest)
  | _ => given.readValue text

end Given

def defaultUrl : String := "http://127.0.0.1:8545"

def defaultOutput : String := "transactions.json"

def defaultTimeout : Nat := 20

def Given.finish (given : Given) (environment : Option String) : Except Refusal Command := do
  let given ← given.settle
  let fallback := environment.getD defaultUrl
  let url ← match given.url with
    | some url => pure url
    | none => (parseUrl fallback).mapError (.badValue fallback .rpcUrl)
  return .extract
    ⟨url, given.output.getD defaultOutput, given.timeout.getD defaultTimeout,
      given.uses (.switch .jsonLog)⟩

def readAll (environment : Option String) : Given → List String → Except Refusal Command
  | given, [] => given.finish environment
  | given, "--" :: [] => given.finish environment
  | _, "--" :: text :: _ => .error (.unknown text none .general)
  | given, text :: rest =>
      match given.read text with
      | .ok (.going given) => readAll environment given rest
      | .ok (.over command) => .ok command
      | .error refusal => .error refusal

def parse (arguments : List String) (environment : Option String) :
    Except Refusal Command :=
  readAll environment .nothing arguments

/-! Texts that can be asked for. -/

def versionText : String := "chainlog-extractor 0.1.0\n"

def helpColumn : Nat := 24

def indented (text : String) : String :=
  String.intercalate ("\n" ++ "".pushn ' ' helpColumn) (text.splitOn "\n")

/-- The address of the environment steers no terminal beyond its own description. -/
def addressHelp (environment : Option String) : String :=
  Text.asShown (indented
    ("[env: CHAINLOG_RPC_URL=" ++ environment.getD "" ++ "] [default: " ++ defaultUrl ++
      "]") ++ "\n  ")

def helpText (environment : Option String) : String :=
  "Dumps every transaction of a chain into a JSON-lines file\n\n" ++
    Usage.general.line ++ "\n\nOptions:\n" ++
    "      --rpc-url <URL>   JSON-RPC endpoint of the node to read from " ++
      addressHelp environment ++
    "-o, --output <FILE>   Output file, relative paths are resolved against the " ++
      "working directory [default: " ++ defaultOutput ++ "]\n" ++
    "      --timeout <SECS>  Connect and read timeout of node requests in seconds " ++
      "[default: " ++ toString defaultTimeout ++ "]\n" ++
    "      --json-log        Whether the logs should be structured in JSON format\n" ++
    "  -h, --help            Print help\n" ++
    "  -V, --version         Print version\n"

end CommandLine

end ChainArchive
