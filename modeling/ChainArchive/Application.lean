import ChainArchive.CommandLine
import ChainArchive.Extraction
import ChainArchive.Log.Line
import ChainArchive.Rpc.Client

namespace ChainArchive

/-! The program: from its arguments to its last words. -/

namespace Application

structure Environment where
  url : Option String
  log : Option String
  deriving DecidableEq, Repr

inductive Plan where
  | say (text : String)
  | refuse (refusal : CommandLine.Refusal)
  /-- Complaints about the filter come first. -/
  | extract (options : Options) (style : Log.Style) (complaints : List String)
  deriving DecidableEq, Repr

def plan (arguments : List String) (environment : Environment) : Plan :=
  match CommandLine.parse arguments environment.url with
  | .error refusal => .refuse refusal
  | .ok .help => .say (CommandLine.helpText environment.url)
  | .ok .version => .say CommandLine.versionText
  | .ok (.extract options) =>
      let (filter, complaints) :=
        Log.Filter.parse (environment.log.getD Log.Filter.usual)
      .extract options ⟨options.jsonLog, filter⟩ complaints

/-- A relative output lies in the working directory, without which nothing is done. -/
def run {m : Type → Type} [Monad m] (options : Options)
    (directory : Except SystemFault String) (world : Rpc.Client → World m) :
    Job m Stats := do
  match directory, Rpc.Client.ofUrl options.url with
  | .error fault, _ => throw ((Trouble.of (.system fault)).under .directoryLost)
  | _, .error trouble => throw trouble
  | .ok directory, .ok client =>
      let world := world client
      Extraction.log world (.readingChain client.url.render)
      let stats ← Extraction.extract world (Path.join directory options.output)
      Extraction.log world (.done stats.transactions stats.blocks)
      return stats

def lastWords (trouble : Trouble) : String := "Error: " ++ trouble.report ++ "\n"

/-! How the program ends. -/

def successCode : UInt32 := 0

def failureCode : UInt32 := 1

def usageCode : UInt32 := 2

end Application

end ChainArchive
