import RouteDocs.Text.Quoted

/-!
What a run reports while it works: one event for everything worth a line in the log.
-/

namespace RouteDocs

inductive Level where
  | debug
  | info
  | warning
deriving DecidableEq

def Level.name : Level → String
  | .debug => "DEBUG"
  | .info => "INFO"
  | .warning => "WARNING"

/-- something that happened in a run -/
inductive Event where
  /-- a source tree is about to be read -/
  | started (path : String)
  /-- the model of a class was completed -/
  | modelResolved (id module : String)
  /-- a content type has no known meaning -/
  | contentTypeSkipped (token line : String)
  /-- an operation was put under its resource -/
  | operationAdded (method path key : String)
  /-- a function turned out not to be documented -/
  | functionSkipped (name reason : String)
  /-- a pass is complete -/
  | finished (operations resources skipped : Nat)
deriving DecidableEq

namespace Event

def level : Event → Level
  | started _ | finished .. => .info
  | contentTypeSkipped .. => .warning
  | modelResolved .. | operationAdded .. | functionSkipped .. => .debug

/-- the part of the program that reports an event -/
def reporter : Event → String
  | started _ | finished .. | functionSkipped .. => "api_doc_gen.generator"
  | contentTypeSkipped .. => "api_doc_gen.parser.operation"
  | modelResolved .. => "api_doc_gen.parser.model"
  | operationAdded .. => "api_doc_gen.builder"

def message : Event → String
  | started path => s!"Start parsing {path}"
  | modelResolved id module => s!"Resolved model {id} from {module}"
  | contentTypeSkipped token line => s!"Skipping unknown @Accept type {Text.quoted token} in {Text.quoted line}"
  | operationAdded method path key => s!"Added {method} {path} to resource {Text.quoted key}"
  | functionSkipped name reason => s!"Skipping {name}: {reason}"
  | finished operations resources skipped =>
    s!"Parsed {operations} operations in {resources} resources, skipped {skipped} functions"

def line (e : Event) : String := s!"{e.level.name} {e.reporter}: {e.message}"

end Event

end RouteDocs
