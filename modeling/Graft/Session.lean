import Graft.Anchor.Index
import Graft.Proposal

/-! # Editing sessions

A session holds a document and changes it step by step. Steps name nodes by their place in the
document, or describe new ones. A step that names a node which is not there changes nothing. A step
that would write a layout for which there is no room ends the session.
-/

namespace Graft

inductive NodeSpec where
  /-- The node at a preorder position of the document. -/
  | here (position : Nat)
  /-- The node at a preorder position of a text that is parsed for it. -/
  | loaded (text : String) (position : Nat)
  | leaf (grammar : String) (token : Token)
  | branch (grammar : String) (category : Category) (children : List NodeSpec)

inductive Target where
  | node (spec : NodeSpec)
  | anchor (anchor : Anchor)

inductive OperationSpec where
  | replaceBody (target : Target) (body : NodeSpec)
  | addNode (target : Target) (node : NodeSpec)
  | removeNode (target : Target)

inductive Step where
  /-- Makes a node the root. -/
  | root (node : NodeSpec)
  /-- Makes a block around a node the root. -/
  | wrap (node : NodeSpec)
  | withChild (node : NodeSpec) (index : Nat) (child : NodeSpec)
  | withChildren (node : NodeSpec) (children : List NodeSpec)
  | reindent (source target : Indentation)
  /-- Compares the document with a text and grafts what changed. -/
  | proposeText (text : String)
  | proposeNode (node : NodeSpec)
  | apply (operations : List OperationSpec)
  | lookup (target : Target)
  /-- Indexes the document by the anchors of one node only. -/
  | subindex (node : NodeSpec)
  | inspect (node : NodeSpec)

inductive SessionError where
  | noSuchNode
  | noSuchChild
  /-- A layout could not be written. -/
  | stopped
deriving DecidableEq, Repr

structure Session where
  parser : Parser
  document : Document
  next : NodeId

inductive Report where
  | nothing
  /-- The operations, each with the node that its anchor names. -/
  | grafted (operations : List (Operation × Option Node)) (applied skipped : Nat)
      (events : List Event)
  /-- The node with an anchor and its position, and the number of anchors. -/
  | looked (found : Option (Nat × Node)) (size : Nat)
  | indexed (table index : Nat)
  | inspected (node : Node)

namespace Session

def start (parser : Parser) (file text : String) : Except LanguageError Session :=
  match Document.parse parser file text 0 with
  | .error e => .error e
  | .ok (document, next) => .ok ⟨parser, document, next⟩

/-! ## Naming nodes -/

def load (session : Session) (text : String) (next : NodeId) : Document × NodeId :=
  let language := session.document.language
  Document.ofConcrete session.document.file language text (session.parser language text) next

def nodeAt (root : Node) (position : Nat) : Except SessionError Node :=
  match root.preorder[position]? with
  | some node => .ok node
  | none => .error .noSuchNode

mutual
/-- The node of a description. New nodes are numbered from `next` on. -/
def resolve (session : Session) (next : NodeId) : NodeSpec → Except SessionError (Node × NodeId)
  | .here position => (nodeAt session.document.root position).map (·, next)
  | .loaded text position =>
    let (document, after) := session.load text next
    (nodeAt document.root position).map (·, after)
  | .leaf grammar token => .ok (Node.leaf next grammar token, next + 1)
  | .branch grammar category children =>
    match resolveAll session next children with
    | .error e => .error e
    | .ok (below, after) => .ok (Node.branch after category grammar below, after + 1)

def resolveAll (session : Session) (next : NodeId) :
    List NodeSpec → Except SessionError (List Node × NodeId)
  | [] => .ok ([], next)
  | spec :: rest =>
    match resolve session next spec with
    | .error e => .error e
    | .ok (node, middle) =>
      match resolveAll session middle rest with
      | .error e => .error e
      | .ok (nodes, after) => .ok (node :: nodes, after)
end

def resolveTarget (session : Session) (next : NodeId) :
    Target → Except SessionError (Anchor × NodeId)
  | .anchor anchor => .ok (anchor, next)
  | .node spec => do
    let (node, after) ← session.resolve next spec
    return (AnchorTable.anchorOf node, after)

def resolveOperation (session : Session) (next : NodeId) :
    OperationSpec → Except SessionError (Operation × NodeId)
  | .replaceBody target body => do
    let (anchor, middle) ← session.resolveTarget next target
    let (node, after) ← session.resolve middle body
    return (.replaceBody anchor node, after)
  | .addNode target spec => do
    let (anchor, middle) ← session.resolveTarget next target
    let (node, after) ← session.resolve middle spec
    return (.addNode anchor node, after)
  | .removeNode target => do
    let (anchor, after) ← session.resolveTarget next target
    return (.removeNode anchor, after)

def resolveOperations (session : Session) (next : NodeId) :
    List OperationSpec → Except SessionError (List Operation × NodeId)
  | [] => .ok ([], next)
  | spec :: rest => do
    let (operation, middle) ← session.resolveOperation next spec
    let (operations, after) ← session.resolveOperations middle rest
    return (operation :: operations, after)

/-! ## Steps -/

def withDocument (session : Session) (document : Document) (next : NodeId) : Session :=
  { session with document := document, next := next }

def withRoot (session : Session) (root : Node) (next : NodeId) : Session :=
  session.withDocument (session.document.withRoot root) next

/-- Grafts a patch that was found with some events. -/
def graft (session : Session) (patch : Patch) (events : List Event) (next : NodeId) :
    Session × Report :=
  let index := AnchorIndex.build session.document.root
  let grafting := session.document.graft patch next
  (session.withDocument grafting.document grafting.next,
    .grafted (patch.operations.map fun operation => (operation, index.get? operation.target))
      grafting.applied grafting.skipped (events ++ grafting.events))

/-- Grafts what changed between the document and another one. -/
def propose (session : Session) (proposed : Document) (next : NodeId) : Session × Report :=
  let found := session.document.diff proposed
  session.graft found.value found.events next

def step (session : Session) : Step → Except SessionError (Session × Report)
  | .root spec => do
    let (node, next) ← session.resolve session.next spec
    return (session.withRoot node next, .nothing)
  | .wrap spec => do
    let (node, next) ← session.resolve session.next spec
    return (session.withRoot (Node.blockAround next node) (next + 3), .nothing)
  | .withChild spec index childSpec => do
    let (node, middle) ← session.resolve session.next spec
    let (child, next) ← session.resolve middle childSpec
    match node.withChild? next index child with
    | some changed => return (session.withRoot changed (next + 1), .nothing)
    | none => throw .noSuchChild
  | .withChildren spec childSpecs => do
    let (node, middle) ← session.resolve session.next spec
    let (children, next) ← session.resolveAll middle childSpecs
    return (session.withRoot (node.withChildren next children) (next + 1), .nothing)
  | .reindent source target =>
    match session.document.reindent? source target session.next with
    | none => .error .stopped
    | some (document, next) => .ok (session.withDocument document next, .nothing)
  | .proposeText text =>
    let (proposed, next) := session.load text session.next
    .ok (session.propose proposed next)
  | .proposeNode spec => do
    let (node, next) ← session.resolve session.next spec
    return session.propose (session.document.withRoot node) next
  | .apply specs => do
    let (operations, next) ← session.resolveOperations session.next specs
    return session.graft ⟨session.document.file, operations⟩ [] next
  | .lookup target => do
    let (anchor, next) ← session.resolveTarget session.next target
    let root := session.document.root
    let index := AnchorIndex.build root
    let found := (index.get? anchor).bind fun node =>
      (root.preorder.findIdx? (·.id == node.id)).map (·, node)
    return (session.withDocument session.document next, .looked found index.size)
  | .subindex spec => do
    let (node, next) ← session.resolve session.next spec
    let table := AnchorTable.build node
    let index := AnchorIndex.ofTable session.document.root table
    return (session.withDocument session.document next, .indexed table.size index.size)
  | .inspect spec => do
    let (node, next) ← session.resolve session.next spec
    return (session.withDocument session.document next, .inspected node)

/-- Takes all steps in turn. Each entry is the document after a step with its report. A step that
fails leaves the session as it was, and one that stops is the last. -/
def run (session : Session) : List Step → List (Except SessionError (Document × Report))
  | [] => []
  | first :: rest =>
    match session.step first with
    | .error .stopped => [.error .stopped]
    | .error e => .error e :: session.run rest
    | .ok (after, report) => .ok (after.document, report) :: after.run rest

end Session

end Graft
