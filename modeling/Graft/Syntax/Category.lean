/-! # Syntactic categories

A category is what the tool knows about a node beyond its grammar kind.
-/

namespace Graft

inductive Category where
  /-- A function declaration. `body` is the position of its body among its children. -/
  | function (name : Option String) (isGenerator : Bool) (body : Option Nat)
  | classDef (name : Option String)
  | method (name : Option String)
  | binding (name : Option String)
  | conditional (condition : String)
  | whileLoop (condition : String)
  | forLoop (initializer condition increment : Option String)
  | other
deriving DecidableEq, Repr, Inhabited

namespace Category

/-- A declared name after its label. What has no name has no text. -/
def labelled (label : String) : Option String → String
  | none => ""
  | some name => label ++ ":" ++ name

/-- The text that tells apart nodes of one grammar kind. -/
def significant : Category → String
  | .function name _ _ => labelled "Function" name
  | .classDef name => labelled "Class" name
  | .method name => labelled "Method" name
  | .binding name => labelled "Variable" name
  | .conditional condition => "If:" ++ condition
  | .whileLoop condition => "While:" ++ condition
  | .forLoop initializer condition increment =>
    "For:" ++ initializer.getD "" ++ ";" ++ condition.getD "" ++ ";" ++ increment.getD ""
  | .other => ""

def isFunction : Category → Bool
  | .function .. => true
  | _ => false

def body? : Category → Option Nat
  | .function _ _ body => body
  | _ => none

def functionName? : Category → Option String
  | .function name _ _ => name
  | _ => none

end Category

end Graft
