import Graft.Syntax.Fault
import Graft.Syntax.Lowering

/-! # Documents -/

namespace Graft

structure Document where
  root : Node
  /-- The text after the last token. -/
  trailing : String
  faults : List Fault
  file : String
  language : Language
deriving Repr

namespace Document

/-- The document of a concrete tree. Its nodes are numbered from `next` on, and the first number
not used is returned. -/
def ofConcrete (file : String) (language : Language) (source : String) (concrete : Concrete)
    (next : NodeId) : Document × NodeId :=
  let (root, trailing) := Lowering.lowerRoot source concrete
  let (numbered, after) := root.numbered next
  (⟨numbered, trailing, concrete.faults source, file, language⟩, after)

def parse (parser : Parser) (file source : String) (next : NodeId) :
    Except LanguageError (Document × NodeId) :=
  match Language.detect file with
  | .error e => .error e
  | .ok language => .ok (ofConcrete file language source (parser language source) next)

/-- The document with another root. The faults were those of the text that was parsed, so they do
not carry over. -/
def withRoot (document : Document) (root : Node) : Document :=
  { document with root := root, faults := [] }

def hasFaults (document : Document) : Bool :=
  !document.faults.isEmpty

end Document

end Graft
