import RouteDocs.Document.Builder
import RouteDocs.Document.Text
import RouteDocs.Operation.Comment

/-!
A generation pass: candidates are read one after another, those that turn out not to be documented are skipped, and
the documents are made of the operations of the others. All candidates share one resolver.
-/

namespace RouteDocs

open Schema

/-- what is known of a function without reading its comments -/
structure Signature where
  name : String
  qualname : String
  module : String
  /-- the texts of the parameter annotations -/
  annotations : List String
  /-- the texts of the decorator expressions -/
  decorators : List String
deriving DecidableEq

/-- a function with the comment lines attached to it -/
structure Candidate where
  signature : Signature
  comments : List String
deriving DecidableEq

/-- the name of a function together with its module -/
def Signature.fullName (s : Signature) : String := s!"{s.module}:{s.qualname}"

/-- does an annotation or a decorator mention one of the markers? -/
def Signature.mentions (markers : List String) (s : Signature) : Bool :=
  markers.any fun m => (s.annotations ++ s.decorators).any fun t => Text.occursIn m.toList t.toList

/-- why a candidate ends a pass -/
inductive HandlerFault where
  | comment (e : CommentError)
  | build (e : BuildError)
deriving DecidableEq

def HandlerFault.message : HandlerFault → String
  | .comment e => e.message
  | .build e => e.message

/-- does the fault only say that the function is not documented? -/
def HandlerFault.isUndocumented : HandlerFault → Bool
  | .comment e => e.isUndocumented
  | .build .noPath => true
  | .build _ => false

/-- a pass that ended at a candidate -/
structure GenerationError where
  function : String
  cause : HandlerFault
deriving DecidableEq

def GenerationError.message (e : GenerationError) : String := s!"{e.function}: {e.cause.message}"

/-- a pass in progress -/
structure Generator (τ : Type := SymbolTable) where
  resolver : Resolver τ
  builder : Builder
  /-- the operations so far -/
  operations : List Operation
  /-- the functions that turned out not to be documented -/
  skipped : List String
  log : List Event
deriving DecidableEq

/-- the documents of a pass -/
structure GeneratedDocs where
  texts : DocumentTexts
  operations : Nat
deriving DecidableEq

namespace Generator

variable {τ : Type} [TypeLookup τ]

def new (table : τ) (aliases : Aliases) (info : ApiInfo) (basePath : String) : Generator τ :=
  ⟨.new table aliases, .new info basePath, [], [], []⟩

def report (g : Generator τ) (e : Event) : Generator τ := { g with log := g.log ++ [e] }

/-- leave a candidate out if it is not documented, and end the pass if it is faulty -/
def refuse (g : Generator τ) (c : Candidate) (fault : HandlerFault) : Generator τ × Option GenerationError :=
  let name := c.signature.fullName
  if fault.isUndocumented then
    ({ g with skipped := g.skipped ++ [name] }.report (.functionSkipped name fault.message), none)
  else (g, some ⟨name, fault⟩)

def addHandler (g : Generator τ) (c : Candidate) : Generator τ × Option GenerationError :=
  let reading := readComment c.comments g.resolver c.signature.module
  let g := { g with resolver := reading.resolver, log := g.log ++ reading.log }
  match reading.answer with
  | .error e => g.refuse c (.comment e)
  | .ok o =>
    let (builder, added) := g.builder.add o
    let g := { g with builder := builder }
    match added with
    | .error e => g.refuse c (.build e)
    | .ok event => ({ g with operations := g.operations ++ [o] }.report event, none)

/-- read the candidates that `isHandler` selects, in order, up to the first faulty one -/
def addHandlers (isHandler : Signature → Bool) :
    Generator τ → List Candidate → Generator τ × Option GenerationError
  | g, [] => (g, none)
  | g, c :: rest =>
    if isHandler c.signature then
      match g.addHandler c with
      | (g, none) => g.addHandlers isHandler rest
      | (g, some e) => (g, some e)
    else g.addHandlers isHandler rest

/-- the documents of the operations so far -/
def documents (g : Generator τ) : GeneratedDocs :=
  ⟨renderDocuments g.builder.listing g.builder.declarations, g.operations.length⟩

/-- read a batch of candidates and make the documents of all operations so far -/
def generate (isHandler : Signature → Bool) (g : Generator τ) (batch : List Candidate) :
    Generator τ × Except GenerationError GeneratedDocs :=
  match g.addHandlers isHandler batch with
  | (g, some e) => (g, .error e)
  | (g, none) =>
    let docs := g.documents
    (g.report (.finished docs.operations docs.texts.descriptions.size g.skipped.length), .ok docs)

end Generator

end RouteDocs
