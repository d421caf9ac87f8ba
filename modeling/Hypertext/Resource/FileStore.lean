import Hypertext.Dict
import Hypertext.Resource.Error

/-!
# Files

A `FileStore` is a directory with the files and directories in it and below, in a directory tree that
holds nothing else.

* `readText` reads the file behind a path as UTF-8 text.
* A path is resolved name by name from the store, or from above it where the path begins with a
  slash. Only a directory can be gone on from, so a slash at the end of a path asks for one.
-/

namespace Hypertext

/-- What stands under a path. -/
inductive FileStore.Node where
  | file (bytes : List UInt8)
  | directory
deriving DecidableEq, Repr

/-- The contents of the directory from which paths start, by their paths with the names joined by
slashes. Where something stands below a path there is a directory, listed or not. -/
abbrev FileStore := Dict FileStore.Node

namespace FileStore

/-- Where a path has led so far. -/
inductive Place where
  /-- A directory of the store, by the names that lead to it, innermost first. -/
  | directory (names : List String)
  /-- A directory outside of it. -/
  | outside
  /-- A file. -/
  | file (bytes : List UInt8)
deriving DecidableEq, Repr

/-- The most bytes that a path may have. -/
def maxPath : Nat := 4095

/-- The most bytes that a name may have. -/
def maxName : Nat := 255

/-- Whether a name is too long for anything to stand under it. -/
def isTooLong (name : String) : Bool :=
  maxName < (Text.utf8 name).length

/-- The path of the names that lead somewhere, innermost first. -/
def pathOf (names : List String) : String :=
  "/".intercalate names.reverse

/-- What stands under a path. -/
def node? (files : FileStore) (path : String) : Option Node :=
  match Dict.get? path files with
  | some node => some node
  | none =>
    let below := (path ++ "/").toList
    if files.toList.any fun (key, _) => below.isPrefixOf key.toList then some .directory else none

/-- The place under a name of a directory in the store. -/
def enter (files : FileStore) (names : List String) (name : String) : Except ReadError Place :=
  if isTooLong name then .error .nameTooLong
  else match files.node? (pathOf (name :: names)) with
    | some (.file bytes) => .ok (.file bytes)
    | some .directory => .ok (.directory (name :: names))
    | none => .error .notFound

/-- The directory around one in the store. -/
def leave : List String → Place
  | [] => .outside
  | _ :: names => .directory names

/-- Goes on by one name; an empty name or a dot stays. -/
def step (files : FileStore) (place : Place) (name : String) : Except ReadError Place :=
  match place with
  | .file _ => .error .notADirectory
  | .directory names =>
    if name = "" ∨ name = "." then .ok place
    else if name = ".." then .ok (leave names)
    else enter files names name
  | .outside =>
    if name = "" ∨ name = "." ∨ name = ".." then .ok place
    else if isTooLong name then .error .nameTooLong
    else .error .notFound

/-- The names of a path, between its slashes. -/
def names : List Char → List (List Char)
  | [] => [[]]
  | c :: cs =>
    if c = '/' then [] :: names cs
    else match names cs with
      | [] => [[c]]
      | name :: rest => (c :: name) :: rest

/-- The place that a path leads to. -/
def resolve (files : FileStore) (path : String) : Except ReadError Place :=
  let start := if path.toList.head? = some '/' then Place.outside else Place.directory []
  (names path.toList).foldlM (fun place name => step files place (String.ofList name)) start

/-- The text of the file behind a path. -/
def readText (files : FileStore) (path : String) : Except ReadError String := do
  if path.toList.contains '\x00' then .error .nulInName
  else if maxPath < (Text.utf8 path).length then .error .nameTooLong
  else if path = "" then .error .notFound
  else match ← resolve files path with
    | .file bytes => match Text.ofUtf8? bytes with
      | some text => .ok text
      | none => .error .notUtf8
    | _ => .error .isADirectory

end FileStore

end Hypertext
