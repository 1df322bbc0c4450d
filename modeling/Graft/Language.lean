import Graft.Path
import Graft.Text.Cut

/-! # Languages -/

namespace Graft

/-- The dialects that can be patched. Both grammars also accept plain JavaScript. -/
inductive Language where
  | typescript
  | tsx
deriving DecidableEq, Repr, Inhabited

inductive LanguageError where
  /-- The path has no extension. -/
  | unknown (path : String)
  /-- The extension is not one of the known ones. -/
  | unsupported (extension : String)
deriving DecidableEq, Repr

def LanguageError.message : LanguageError → String
  | .unknown path => "could not determine language for path: " ++ path
  | .unsupported ext => "unsupported file extension: " ++ ext

namespace Language

def name : Language → String
  | .typescript => "typescript"
  | .tsx => "tsx"

def all : List Language :=
  [.typescript, .tsx]

/-! ## From a path -/

def ofExtension? (ext : String) : Option Language :=
  match ext.toLower with
  | "ts" | "mts" | "cts" | "js" | "mjs" | "cjs" => some .typescript
  | "tsx" | "jsx" => some .tsx
  | _ => none

def ofPath? (path : String) : Option Language :=
  (Path.extension? path).bind ofExtension?

/-- The language of a path, or the reason why there is none. -/
def detect (path : String) : Except LanguageError Language :=
  match Path.extension? path with
  | none => .error (.unknown path)
  | some ext =>
    match ofExtension? ext with
    | none => .error (.unsupported ext)
    | some language => .ok language

/-! ## From a name -/

/-- Names are read without regard to case or to white space around them. -/
def normalName (s : String) : String :=
  (Text.trimmed s).toLower

def ofNormalName? : String → Option Language
  | "typescript" | "ts" | "javascript" | "js" => some .typescript
  | "tsx" | "jsx" => some .tsx
  | _ => none

/-- The language of a name. The error is the name as it was read. -/
def ofName (s : String) : Except String Language :=
  match ofNormalName? (normalName s) with
  | some language => .ok language
  | none => .error (normalName s)

def nameMessage (normal : String) : String :=
  "unsupported language: '" ++ normal ++ "'"

end Language

end Graft
