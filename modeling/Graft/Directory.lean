import Graft.Text.Cut

/-! # Directories

The state of the files that a run can see, below the directory that it runs in.
-/

namespace Graft

/-- What an operating system answers when a file cannot be used. -/
inductive FileError where
  | notFound
  | notDirectory
  | isDirectory
  | notText
  | tooLarge
  /-- A name, or the whole path, has too many bytes. -/
  | nameTooLong
  /-- The path holds the character that ends paths. -/
  | nulByte
  /-- Nothing can be written where the file is. -/
  | readOnly
  /-- The output takes no more. -/
  | sinkFull
deriving DecidableEq, Repr

def FileError.message : FileError → String
  | .notFound => "No such file or directory (os error 2)"
  | .notDirectory => "Not a directory (os error 20)"
  | .isDirectory => "Is a directory (os error 21)"
  | .notText => "stream did not contain valid UTF-8"
  | .tooLarge => "File too large (os error 27)"
  | .nameTooLong => "File name too long (os error 36)"
  | .nulByte => "file name contained an unexpected NUL byte"
  | .readOnly => "Read-only file system (os error 30)"
  | .sinkFull => "sink full"

inductive Entry where
  | file (content : ByteArray)
  | folder
  /-- What can be read like an empty file, but is none. -/
  | device

/-- Entries by path. Paths are components with slashes between them. -/
structure Directory where
  entries : List (String × Entry)

namespace Directory

/-! ## Places -/

/-- The components of a place, from the top of the directory down. A place above the top starts
with dots, or with the root of all. -/
abbrev Place := List String

/-- How the root of all is written in a place. -/
def root : String := "/"

def pathOf (place : Place) : String :=
  "/".intercalate place

def isAbove (place : Place) : Bool :=
  place.all fun component => component == ".." || component == root

/-- The folders that every system has at the root of all. -/
def systemFolders : List String :=
  ["bin", "dev", "etc", "home", "lib", "media", "mnt", "opt", "proc", "root", "run", "sbin", "srv",
    "sys", "tmp", "usr", "var"]

def devices : List String :=
  ["full", "null", "random", "tty", "urandom", "zero"]

def provided? (place : Place) : Option Entry :=
  match place with
  | [top, name] => if top == root && systemFolders.contains name then some .folder else none
  | [top, "dev", name] => if top == root && devices.contains name then some .device else none
  | _ => none

/-- What there is at a place. A path that leads to an entry goes through folders. Nothing is known
above the top but that it is there, and what every system has. -/
def entryAt? (directory : Directory) (place : Place) : Option Entry :=
  if isAbove place then some .folder
  else if (provided? place).isSome then provided? place
  else
    match directory.entries.lookup (pathOf place) with
    | some entry => some entry
    | none =>
      if directory.entries.any fun (path, _) => path.startsWith (pathOf place ++ "/") then
        some .folder
      else none

def descend (place : Place) (component : String) : Place :=
  if component = "" ∨ component = "." then place
  else if component = ".." ∧ !isAbove place then place.dropLast
  else if component = ".." ∧ place.contains root then place
  else place ++ [component]

def maxName : Nat := 255

def maxPath : Nat := 4095

/-- Follows components from a place. Only folders can be followed. -/
def follow (directory : Directory) (place : Place) : List String → Except FileError Place
  | [] => .ok place
  | component :: rest =>
    match directory.entryAt? place with
    | none => .error .notFound
    | some (.file _) | some .device => .error .notDirectory
    | some .folder =>
      if maxName < component.utf8ByteSize then .error .nameTooLong
      else directory.follow (descend place component) rest

/-- Where a path starts that is seen from a place. -/
def origin (place : Place) (path : String) : Place :=
  if path.startsWith "/" then [root] else place

/-- The place that a path of any length names, seen from a place. -/
def resolve (directory : Directory) (place : Place) (path : String) : Except FileError Place :=
  if path = "" then .error .notFound
  else if path.toList.contains '\x00' then .error .nulByte
  else directory.follow (origin place path) (Text.cutText '/' path)

def locate (directory : Directory) (path : String) : Except FileError Place :=
  if path.toList.contains '\x00' then .error .nulByte
  else if maxPath < path.utf8ByteSize then .error .nameTooLong
  else directory.resolve [] path

/-- The place that a path would name if every folder on the way were there. -/
def placeOf (path : String) : Place :=
  (Text.cutText '/' path).foldl descend (origin [] path)

/-! ## Files -/

/-- What has a name in the folder that a path names. -/
def entryIn (directory : Directory) (folder name : String) : Except FileError Entry :=
  match directory.locate folder with
  | .error e => .error e
  | .ok place =>
    match directory.follow place [name] with
    | .error e => .error e
    | .ok inside =>
      match directory.entryAt? inside with
      | none => .error .notFound
      | some entry => .ok entry

def readBytes (directory : Directory) (path : String) : Except FileError ByteArray :=
  match directory.locate path with
  | .error e => .error e
  | .ok place =>
    match directory.entryAt? place with
    | none => .error .notFound
    | some .folder => .error .isDirectory
    | some .device => .ok ByteArray.empty
    | some (.file content) => .ok content

def readText (directory : Directory) (path : String) : Except FileError String :=
  match directory.readBytes path with
  | .error e => .error e
  | .ok bytes =>
    match String.fromUTF8? bytes with
    | none => .error .notText
    | some text => .ok text

def setEntry (entries : List (String × Entry)) (path : String) (content : ByteArray) :
    List (String × Entry) :=
  entries.map fun (name, entry) => (name, if name = path then .file content else entry)

/-- The directory with other content in the file that a path names. -/
def store (directory : Directory) (path : String) (content : ByteArray) : Directory :=
  match directory.locate path with
  | .error _ => directory
  | .ok place => ⟨setEntry directory.entries (pathOf place) content⟩

end Directory

end Graft
