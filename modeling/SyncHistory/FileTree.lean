import SyncHistory.Inquiry

/-!
# Files of a directory

The files below one directory, and what comes of reading the file at a path. A path is taken apart at its
slashes and followed step by step: a point stays, two points go back up, and a path that goes on behind
a file leads to no directory. Nothing outside of the directory exists.
-/

namespace SyncHistory

/-- What is at a place: a directory, or a file with its contents if these are text. -/
inductive FileNode where
  | directory
  | file (contents : Option String)
deriving DecidableEq

/-- A file with the given bytes, which are text if they are valid UTF-8. -/
def FileNode.ofBytes (bytes : ByteArray) : FileNode := .file (String.fromUTF8? bytes)

/-- What is at each place below a directory; the latest entry of a place counts. -/
structure FileTree where
  entries : List (List String × FileNode)
deriving DecidableEq

namespace FileTree

/-- A directory without files. -/
def empty : FileTree := ⟨[]⟩

/-- What is at a place; the directory itself is at the empty one. -/
def node? (t : FileTree) (place : List String) : Option FileNode :=
  if place.isEmpty then some .directory else t.entries.lookup place

/-- The steps of a path, from one slash to the next. -/
def steps (path : String) : List String :=
  (Text.splitAtAll (· == '/') path.toList).map String.ofList

/-- What becomes of following steps from a directory at a place, which is given in reverse. -/
def follow (t : FileTree) : (place : List String) → (steps : List String) → FileRead
  | _, [] => .fault .isDirectory
  | place, step :: rest =>
    if step = "" ∨ step = "." then follow t place rest
    else if step = ".." then
      match place with
      | [] => .missing
      | _ :: parent => follow t parent rest
    else match t.node? (step :: place).reverse with
      | some .directory => follow t (step :: place) rest
      | some (.file contents) =>
        if rest.isEmpty then
          match contents with
          | some text => .text text
          | none => .fault .notText
        else .fault .notDirectory
      | none => .missing

/-- Reads the file at a path. The empty path and paths from the root lead nowhere. -/
def read (t : FileTree) (path : String) : FileRead :=
  if path.isEmpty || path.toList.head? == some '/' then .missing else t.follow [] (steps path)

/-- The steps of a path that lead somewhere. -/
def place (path : String) : List String :=
  (steps path).filter fun step => step ≠ "" ∧ step ≠ "."

/-- Puts a file at a path. -/
def write (t : FileTree) (path : String) (file : FileNode) : FileTree :=
  ⟨(place path, file) :: t.entries⟩

/-- The places on the way to a place, itself included. -/
def ancestors (place : List String) : List (List String) :=
  (List.range place.length).map fun n => place.take (n + 1)

/-- Makes a directory at a path, and those on the way to it. -/
def makeDirectory (t : FileTree) (path : String) : FileTree :=
  ⟨(ancestors (place path)).map (·, .directory) ++ t.entries⟩

end FileTree

end SyncHistory
