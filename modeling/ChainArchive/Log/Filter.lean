import ChainArchive.Log.Directive

namespace ChainArchive

/-! Which events are logged. -/

def Event.source : Event → String
  | .readingChain _ | .stopRequested | .done _ _ => "chainlog_extract::app"
  | .sendRequest _ _ | .callFailed _ _ => "chainlog_node_client::rpc::client"
  | _ => "chainlog_extractor::extract"

/-- A message counts as a field. -/
def Event.fieldNames (event : Event) : List String :=
  (event.message?.map fun _ => "message").toList ++ event.fields.map (·.1)

namespace CallContext

def name : String := "call"

def fields (context : CallContext) : List (String × String) :=
  [("url", context.url), ("method", context.method)]

def fieldNames : List String := ["url", "method"]

end CallContext

namespace Log

namespace Directive

def covers (directive : Directive) (source : String) : Bool :=
  source.startsWith (directive.source.getD "")

def testsValue (directive : Directive) : Bool := directive.field.any (·.value.isSome)

def isGeneral (directive : Directive) : Bool :=
  directive.call.isNone && !directive.testsValue

def coversEvent (directive : Directive) (event : Event) : Bool :=
  directive.covers event.source &&
    directive.field.all fun field => event.fieldNames.contains field.name

/-- The longer the named source, the more a directive counts; then one with a field counts
more. -/
def weight (directive : Directive) : Nat :=
  2 * ((directive.source.map fun source => source.utf8ByteSize + 1).getD 0) +
    if directive.field.isSome then 1 else 0

def fieldName (directive : Directive) : String :=
  (directive.field.map (·.name)).getD ""

def yields (directive other : Directive) : Bool :=
  if directive.weight = other.weight then !(other.fieldName < directive.fieldName : Bool)
  else directive.weight < other.weight

def concernsCalls (directive : Directive) (source : String) : Bool :=
  (directive.call.isSome || directive.field.isSome) && directive.covers source &&
    directive.call.all (· = CallContext.name) &&
    directive.field.all fun field => CallContext.fieldNames.contains field.name

def ValueTest.admits (test : ValueTest) (value : String) : Bool :=
  match test with
  | .unmet => false
  | .pattern pattern => pattern.accepts value

def admits (directive : Directive) (context : CallContext) : Bool :=
  directive.field.all fun field =>
    field.value.all fun test =>
      (context.fields.lookup field.name).any (ValueTest.admits test)

def sameScope (directive other : Directive) : Bool :=
  directive.source = other.source && directive.call = other.call &&
    directive.field = other.field

def latest : List Directive → List Directive
  | [] => []
  | directive :: rest =>
      if rest.any directive.sameScope then latest rest else directive :: latest rest

end Directive

structure Filter where
  directives : List Directive
  deriving DecidableEq, Repr

namespace Filter

/-- Of the general directives that cover something, the one that all others yield to; of
two that yield to each other the later. -/
def decisive? (filter : Filter) (covers : Directive → Bool) : Option Directive :=
  (filter.directives.filter fun d => d.isGeneral && covers d).foldl
    (fun best d =>
      match best with
      | some found => if found.yields d then some d else best
      | none => some d)
    none

def passesAnywhere (filter : Filter) (event : Event) : Bool :=
  (filter.decisive? (·.coversEvent event)).any (·.threshold.passes event.level)

def reaches (filter : Filter) (level : Level) : Bool :=
  filter.directives.any fun d => d.testsValue || d.threshold.passes level

/-- Calls are followed at the debugging level, or wherever a directive is on them and that
level is reached at all. -/
def followsCalls (filter : Filter) (source : String) : Bool :=
  (filter.reaches .debug && filter.directives.any (·.concernsCalls source)) ||
    (filter.decisive? (·.covers source)).any (·.threshold.passes .debug)

def passesInCall (filter : Filter) (event : Event) (context : CallContext) : Bool :=
  filter.followsCalls event.source &&
    (Directive.latest filter.directives).any fun d =>
      d.concernsCalls event.source && d.admits context && d.threshold.passes event.level

def passes (filter : Filter) (event : Event) : Bool :=
  filter.passesAnywhere event || event.context?.any (filter.passesInCall event)

def ofDirectives (directives : List Directive) : Filter :=
  ⟨if directives.isEmpty then [⟨none, none, none, .least .error⟩] else directives⟩

def complaint (text : String) (fault : DirectiveFault) : String :=
  "ignoring \x60" ++ text ++ "\x60: " ++ fault.message

def parse (text : String) : Filter × List String :=
  let parts := (text.splitOn ",").filter (!·.isEmpty)
  let read := parts.map fun part => (part, Directive.parse part)
  (ofDirectives (read.filterMap (·.2.toOption)),
    read.filterMap fun part =>
      match part.2 with
      | .ok _ => none
      | .error fault => some (complaint part.1 fault))

def usual : String := "info"

end Filter

end Log

end ChainArchive
