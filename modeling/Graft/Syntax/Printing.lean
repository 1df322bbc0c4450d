import Graft.Indent.Style
import Graft.Syntax.Document
import Graft.Syntax.Rebuild
import Graft.Syntax.Trivia

/-! # Printing

A document is printed token by token. Token texts are never touched, trivia only in its
indentation. Where a layout cannot be written the tool stops, and there is no result. What is to be
written, with no regard to the room for it, has a name of its own.
-/

namespace Graft

def Token.printed (style : Indentation) (token : Token) : String :=
  Trivia.reflowText style.render true token.leading ++ token.text

def Token.printed? (style : Indentation) (token : Token) : Option String :=
  (Trivia.reflowText? style.render? true token.leading).map (· ++ token.text)

/-- The token with its indentation moved from one style to another, level for level. -/
def Token.reindent (source target : Indentation) (token : Token) : Token :=
  { token with leading := Trivia.reflowText (source.convert target) true token.leading }

def Token.reindent? (source target : Indentation) (token : Token) : Option Token :=
  (Trivia.reflowText? (source.convert? target) true token.leading).map fun leading =>
    { token with leading := leading }

namespace Document

/-- The text of the document, indented in `style`. -/
def print (style : Indentation) (document : Document) : String :=
  String.join (document.root.tokens.map (·.printed style)) ++
    Trivia.reflowText style.render false document.trailing

def print? (style : Indentation) (document : Document) : Option String :=
  match document.root.tokens.mapM (·.printed? style),
    Trivia.reflowText? style.render? false document.trailing with
  | some texts, some trailing => some (String.join texts ++ trailing)
  | _, _ => none

/-- Moves the indentation of every token, and makes every node anew. -/
def reindentTokens (source target : Indentation) (document : Document) (next : NodeId) :
    Document × NodeId :=
  let (root, after) := (document.root.rebuild (·.reindent source target)).numbered next
  ({ document with
      root := root
      trailing := Trivia.reflowText (source.convert target) false document.trailing },
    after)

def reindentTokens? (source target : Indentation) (document : Document) (next : NodeId) :
    Option (Document × NodeId) :=
  match document.root.rebuild? (·.reindent? source target),
    Trivia.reflowText? (source.convert? target) false document.trailing with
  | some copy, some trailing =>
    let (root, after) := copy.numbered next
    some ({ document with root := root, trailing := trailing }, after)
  | _, _ => none

/-- The document moved from one style to another. Between equal styles it stays as it is. -/
def reindent (source target : Indentation) (document : Document) (next : NodeId) :
    Document × NodeId :=
  if source = target then (document, next) else document.reindentTokens source target next

def reindent? (source target : Indentation) (document : Document) (next : NodeId) :
    Option (Document × NodeId) :=
  if source = target then some (document, next)
  else document.reindentTokens? source target next

/-! ## What is written -/

/-- All runs of indentation, in the order of the text. -/
def runs (document : Document) : List (List Char) :=
  document.root.tokens.flatMap (fun token => Trivia.runs true token.leading.toList) ++
    Trivia.runs false document.trailing.toList

/-- The layouts that printing writes. -/
def printing (style : Indentation) (document : Document) : List Indentation.Layout :=
  document.runs.filterMap style.rendering?

/-- The layouts that moving to another style writes. -/
def moving (source target : Indentation) (document : Document) : List Indentation.Layout :=
  if source = target then [] else document.runs.filterMap (source.conversion? target)

end Document

end Graft
