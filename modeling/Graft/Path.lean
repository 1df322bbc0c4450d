import Graft.Text.Cut

/-! # Paths

A path is read as its components between slashes. Empty components and single dots say nothing.
-/

namespace Graft.Path

def components (path : String) : List String :=
  (Text.cutText '/' path).filter fun c => c != "" && c != "."

/-- The last component, unless it leads upwards. -/
def fileName? (path : String) : Option String :=
  match (components path).getLast? with
  | some ".." => none
  | last => last

/-- Components, read backwards, without those in front that say nothing. -/
def dropSilent (backwards : List String) : List String :=
  backwards.dropWhile fun c => c == "" || c == "."

/-- The path of the folder that the last component is in. -/
def folder (path : String) : String :=
  match dropSilent ((dropSilent (Text.cutText '/' path).reverse).drop 1) with
  | [] => if path.startsWith "/" then "/" else "."
  | backwards => "/".intercalate backwards.reverse

/-- What follows the last dot of a name. A name whose only dot comes first has no extension. -/
def extensionOf? (name : String) : Option String :=
  let backwards := name.toList.reverse
  match backwards.dropWhile (· != '.') with
  | [] => none
  | [_] => none
  | _ :: _ :: _ => some (String.ofList (backwards.takeWhile (· != '.')).reverse)

def extension? (path : String) : Option String :=
  (fileName? path).bind extensionOf?

end Graft.Path
