import ChainArchive.Http
import ChainArchive.Json.Fault
import ChainArchive.SystemFault
import ChainArchive.Text.Utf8
import ChainArchive.Url.Basic

namespace ChainArchive

/-! Why something failed: a chain of layers, the outermost first. -/

inductive Target where
  | block (number : Nat)
  | transaction (block : Nat) (hash : String)
  deriving DecidableEq, Repr

inductive FileAct where
  | create
  | append
  | read
  deriving DecidableEq, Repr

def FileAct.verb : FileAct → String
  | .create => "create"
  | .append => "append to"
  | .read => "read"

inductive LinkFault where
  | connect
  | exchange
  deriving DecidableEq, Repr

inductive Layer where
  | heightUnknown
  | fetch (target : Target)
  | interrupted
  | misnumbered (number : Nat)
  | file (act : FileAct) (path : String)
  | badLine (number : Nat) (path : String)
  | remote (code : Int) (message : String)
  | absent (what : String)
  | nullResult (method : String)
  | status (code : Nat) (text : String)
  | undecodable (method : String)
  | badBody
  | unsent (url : String)
  | link (fault : LinkFault)
  | tcpConnect
  | closedEarly
  | malformed (fault : Http.HeadFault)
  | badAddress
  | notBuilt (url : Option String)
  | schemeRefused
  | unsendable
  | address (fault : UrlFault)
  | directoryLost
  | system (fault : SystemFault)
  | encoding (fault : Text.EncodingFault)
  | json (failure : Json.Failure)
  | said (text : String)

namespace Layer

def message : Layer → String
  | .heightUnknown => "failed to query current chain height"
  | .fetch (.block number) => "failed to fetch block " ++ toString number
  | .fetch (.transaction block hash) =>
      "failed to fetch transaction " ++ hash ++ " of block " ++ toString block
  | .interrupted => "extraction was interrupted"
  | .misnumbered number => "node returned block " ++ toString number ++ " instead"
  | .file act path => "failed to " ++ act.verb ++ " " ++ path
  | .badLine number path =>
      "malformed transaction at line " ++ toString number ++ " of " ++ path
  | .remote code message => "rpc error " ++ toString code ++ ": " ++ message
  | .absent what => what ++ " not found"
  | .nullResult method => method ++ " returned null"
  | .status code text => "got HTTP " ++ toString code ++ ": " ++ text
  | .undecodable method => "failed to decode " ++ method ++ " response"
  | .badBody => "error decoding response body"
  | .unsent url => "error sending request for url (" ++ url ++ ")"
  | .link .connect => "client error (Connect)"
  | .link .exchange => "client error (SendRequest)"
  | .tcpConnect => "tcp connect error"
  | .closedEarly => "connection closed before message completed"
  | .malformed fault => fault.message
  | .badAddress => "invalid node url"
  | .notBuilt none => "builder error"
  | .notBuilt (some url) => "builder error for url (" ++ url ++ ")"
  | .schemeRefused => "URL scheme is not allowed"
  | .unsendable => "Parsed Url is not a valid Uri"
  | .address fault => fault.message
  | .directoryLost => "failed to resolve working directory"
  | .system fault => fault.message
  | .encoding fault => fault.message
  | .json failure => failure.message
  | .said text => text

end Layer

structure Trouble where
  outer : Layer
  causes : List Layer

namespace Trouble

def of (layer : Layer) : Trouble := ⟨layer, []⟩

def under (layer : Layer) (trouble : Trouble) : Trouble :=
  ⟨layer, trouble.outer :: trouble.causes⟩

def layers (trouble : Trouble) : List Layer := trouble.outer :: trouble.causes

@[simp] theorem layers_of (layer : Layer) : (of layer).layers = [layer] := rfl

@[simp] theorem layers_under (layer : Layer) (trouble : Trouble) :
    (trouble.under layer).layers = layer :: trouble.layers := rfl

def root (trouble : Trouble) : Layer := trouble.causes.getLast?.getD trouble.outer

def isInterruption (trouble : Trouble) : Bool :=
  match trouble.root with
  | .interrupted => true
  | _ => false

def first? (trouble : Trouble) (answer : Layer → Option α) : Option α :=
  trouble.layers.findSome? answer

def fetchTarget? (trouble : Trouble) : Option Target :=
  trouble.first? fun
    | .fetch target => some target
    | _ => none

def fileAct? (trouble : Trouble) : Option FileAct :=
  trouble.first? fun
    | .file act _ => some act
    | _ => none

def remoteCode? (trouble : Trouble) : Option Int :=
  trouble.first? fun
    | .remote code _ => some code
    | _ => none

/-! The report. -/

def indented (margin : String) (message : String) : String :=
  String.ofList (message.toList.flatMap fun c =>
    if c = '\n' then '\n' :: margin.toList else [c])

def numbered (index : Nat) : List Layer → String
  | [] => ""
  | layer :: rest =>
      let number := toString index
      "\n" ++ String.ofList (List.replicate (5 - number.length) ' ') ++ number ++ ": " ++
        indented "       " layer.message ++ numbered (index + 1) rest

/-- The outermost message and the causes under it, numbered when there are several. -/
def report (trouble : Trouble) : String :=
  trouble.outer.message ++
    match trouble.causes with
    | [] => ""
    | [cause] => "\n\nCaused by:\n    " ++ indented "    " cause.message
    | causes => "\n\nCaused by:" ++ numbered 0 causes

end Trouble

end ChainArchive
