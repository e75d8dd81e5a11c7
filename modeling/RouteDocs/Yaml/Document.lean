import RouteDocs.Yaml.Lexer
import RouteDocs.Yaml.Node

/-!
Reading the nodes of a document from its tokens.

A fault of the text shows when the tokens before it have been read. So it matters here which token is looked at when:
the next one is, before a node is known to be what it is, and no token after it.

Main definition: `Graph.ofText`.
-/

namespace RouteDocs.Yaml

namespace Document

/-- what is left to read, the nodes that have names, and the nodes so far -/
structure State where
  rest : Tokens
  anchors : List (String × NodeId)
  graph : Graph

abbrev Reader (α : Type) := StateT State (Except Fault) α

def fail {α : Type} : Reader α := fun _ => .error .malformed

/-- the next token; after the last one the text ends, or has its fault -/
def peek : Reader (Option Token) := do
  let s ← get
  match s.rest.tokens, s.rest.fault with
  | t :: _, _ => return some t
  | [], none => return none
  | [], some e => throw e

def countLeft : Reader Nat := do return (← get).rest.tokens.length

def nextIn (ts : List Token) : Reader Bool := do return (← peek).any (ts.contains ·)

def advance : Reader Unit := modify fun s => { s with rest.tokens := s.rest.tokens.drop 1 }

/-- take the next token if it is this one -/
def accept (t : Token) : Reader Bool := do
  if (← peek) == some t then
    advance
    return true
  else return false

def expect (t : Token) : Reader Unit := do
  if !(← accept t) then fail

/-- repeat a reader as long as it gives a value, `limit` times at most -/
def repeated {α : Type} (step : Reader (Option α)) : (limit : Nat) → Reader (List α)
  | 0 => return []
  | limit + 1 => do
    match ← step with
    | none => return []
    | some a => return a :: (← repeated step limit)

/-- repeat a reader as long as it gives a value; each value takes a token at least -/
def many {α : Type} (step : Reader (Option α)) : Reader (List α) := do
  repeated step ((← countLeft) + 1)

def add (n : Node) : Reader NodeId := do
  let s ← get
  set { s with graph := s.graph.push n }
  return s.graph.size

/-- a node where nothing is written -/
def blank : Reader NodeId := add .blank

/-- what kinds of nodes may come next -/
inductive Place where
  /-- inside brackets -/
  | flow
  /-- a node of a block -/
  | block
  /-- a node of a block mapping, where a sequence need not stand further in -/
  | inMapping
deriving DecidableEq

/-- a node, unless one of the tokens comes next, which leave it out -/
def blankIf (ts : List Token) (r : Reader NodeId) : Reader NodeId := do
  if ← nextIn ts then blank else r

/-! ## Collections -/

/-- a reader of nodes at a place -/
abbrev Nodes := Place → Reader NodeId

/-- the entries of a block sequence, up to its end -/
def blockItems (node : Nodes) : Reader (List NodeId) := do
  let items ← many do
    if ← accept .blockEntry then return some (← blankIf [.blockEntry, .blockEnd] (node .block)) else return none
  expect .blockEnd
  return items

/-- the entries of a sequence that is not further in than the mapping around it -/
def looseItems (node : Nodes) : Reader (List NodeId) := many do
  if ← accept .blockEntry then return some (← blankIf [.blockEntry, .key, .value, .blockEnd] (node .block))
  else return none

/-- the value after a key; it may be left out together with its colon -/
def valueOrBlank (ts : List Token) (r : Reader NodeId) : Reader NodeId := do
  if ← accept .value then blankIf ts r else blank

/-- the entries of a block mapping, up to its end -/
def blockEntries (node : Nodes) : Reader (List (NodeId × NodeId)) := do
  let stops : List Token := [.key, .value, .blockEnd]
  let entries ← many do
    if ← accept .key then
      let k ← blankIf stops (node .inMapping)
      return some (k, ← valueOrBlank stops (node .inMapping))
    else return none
  expect .blockEnd
  return entries

/-- the rest of a collection in brackets: a comma between two entries, and perhaps one at the end; `started` if an entry
came before -/
def flowRest {α : Type} (stop : Token) (entry : Reader α) : (limit : Nat) → (started : Bool) → Reader (List α)
  | 0, _ => fail
  | limit + 1, started => do
    if ← accept stop then return []
    if started then
      expect .flowEntry
      if ← accept stop then return []
    let a ← entry
    return a :: (← flowRest stop entry limit true)

/-- the entries of a collection in brackets, up to its end -/
def flowEntries {α : Type} (stop : Token) (entry : Reader α) : Reader (List α) := do
  flowRest stop entry ((← countLeft) + 1) false

/-- a key and a value in brackets; the key may be left out if it is marked, and the value in any case -/
def flowPair (node : Nodes) (stop : Token) : Reader (NodeId × NodeId) := do
  let k ← blankIf [.value, .flowEntry, stop] (node .flow)
  return (k, ← valueOrBlank [.flowEntry, stop] (node .flow))

/-- an entry of a sequence in brackets; one key with its value is a mapping -/
def flowItem (node : Nodes) : Reader NodeId := do
  if ← accept .key then
    let entry ← flowPair node .flowSequenceEnd
    add ⟨.map, .mapping [entry]⟩
  else node .flow

/-- an entry of a mapping in brackets; only a key may be written -/
def flowEntry (node : Nodes) : Reader (NodeId × NodeId) := do
  if ← accept .key then flowPair node .flowMappingEnd else return (← node .flow, ← blank)

/-! ## Properties of nodes -/

/-- the handles that need no directive -/
def commonHandles : List (String × String) := [("!", "!"), ("!!", Tag.common)]

def anchor? : Reader (Option String) := do
  match ← peek with
  | some (.anchor name) =>
    advance
    return some name
  | _ => return none

/-- a tag as it is written, if there is one -/
def tagName? : Reader (Option TagName) := do
  match ← peek with
  | some (.tag t) =>
    advance
    return some t
  | _ => return none

/-- an anchor and a tag, in any order -/
def properties : Reader (Option String × Option TagName) := do
  match ← anchor? with
  | some name => return (some name, ← tagName?)
  | none =>
    let tag ← tagName?
    return (← anchor?, tag)

def fullTag (handles : List (String × String)) (t : TagName) : Reader String :=
  match t.handle with
  | none => return t.suffix
  | some h =>
    match handles.lookup h with
    | some meaning => return meaning ++ t.suffix
    | none => fail

/-- give a name to a node; a name can be given once -/
def announce (name : Option String) (id : NodeId) : Reader Unit := do
  match name with
  | none => return
  | some name =>
    if ((← get).anchors.lookup name).isSome then fail
    modify fun s => { s with anchors := (name, id) :: s.anchors }

def named (name : String) : Reader NodeId := do
  match (← get).anchors.lookup name with
  | none => fail
  | some id => return id

/-- the tag that is written, if it says anything -/
def written (tag : Option String) : Option Tag := if tag == some "!" then none else tag.map Tag.ofName

/-! ## Nodes -/

/-- a node with an anchor or a tag, or without one, where the nodes inside it are read by `node` -/
def content (node : Nodes) (place : Place) (tag : Option String) (mayBeBlank : Bool) : Reader Node := do
  let sequence (r : Reader (List NodeId)) : Reader Node := do return ⟨(written tag).getD .seq, .sequence (← r)⟩
  let mapping (r : Reader (List (NodeId × NodeId))) : Reader Node := do
    return ⟨(written tag).getD .map, .mapping (← r)⟩
  match ← peek with
  | some (.scalar text isPlain) =>
    advance
    let resolved := if isPlain || tag == some "!" then Tag.ofPlain text else .str
    return ⟨(written tag).getD resolved, .scalar text⟩
  | some .flowSequenceStart =>
    advance
    sequence (flowEntries .flowSequenceEnd (flowItem node))
  | some .flowMappingStart =>
    advance
    mapping (flowEntries .flowMappingEnd (flowEntry node))
  | t =>
    if t == some .blockEntry && place == .inMapping then sequence (looseItems node)
    else if t == some .blockSequenceStart && place != .flow then
      advance
      sequence (blockItems node)
    else if t == some .blockMappingStart && place != .flow then
      advance
      mapping (blockEntries node)
    else if mayBeBlank then return ⟨(written tag).getD .null, .scalar ""⟩
    else fail

/-- a node, with others nested at most `depth` deep in it; its name is known inside it -/
def node (handles : List (String × String)) : (depth : Nat) → Nodes
  | 0, _ => fail
  | depth + 1, place => do
    match ← peek with
    | some (.alias name) =>
      advance
      named name
    | _ =>
      let (name, tag) ← properties
      let tag ← tag.mapM (fullTag handles)
      let _ ← peek
      let id ← blank
      announce name id
      let n ← content (node handles depth) place tag (name.isSome || tag.isSome)
      modify fun s => { s with graph := s.graph.set id n }
      return id

/-! ## Documents -/

/-- the directives before a document: the version is given once at most, and so is the meaning of a handle -/
def directives : (limit : Nat) → (seen : Bool) → List (String × String) → Reader (List (String × String))
  | 0, _, handles => return handles
  | limit + 1, seen, handles => do
    match ← peek with
    | some (.directive d) =>
      advance
      match d with
      | .version isFirst => if seen || !isFirst then fail else directives limit true handles
      | .handle name meaning =>
        if (handles.lookup name).isSome then fail else directives limit seen ((name, meaning) :: handles)
      | .other => directives limit seen handles
    | _ => return handles

/-- the directives before a document, and the mark that begins it -/
def documentStart : Reader (List (String × String)) := do
  let handles ← directives (← countLeft) false []
  expect .documentStart
  return handles

def root (handles : List (String × String)) : Reader NodeId := do
  match ← peek with
  | none | some .documentEnd | some (.directive _) | some .documentStart => blank
  | _ => node (handles ++ commonHandles) ((← countLeft) + 1) .block

/-- the end of the one document that there may be -/
def finish : Reader Unit := do
  let _ ← many do
    if ← accept .documentEnd then return some () else return none
  if (← peek).isSome then
    let _ ← documentStart
    fail

/-- the one document that there may be; the number of its root -/
def document : Reader (Option NodeId) := do
  match ← peek with
  | none => return none
  | some t =>
    let id ← match t with
      | .directive _ | .documentStart => root (← documentStart)
      | _ => node commonHandles ((← countLeft) + 1) .block
    finish
    return some id

end Document

/-- the nodes of the document of a text, and the root of them, if the text holds a document -/
def Graph.ofText (text : List Char) : Except Fault (Graph × Option NodeId) := do
  let (root, s) ← Document.document.run ⟨.ofText text, [], .empty⟩
  return (s.graph, root)

end RouteDocs.Yaml
