import MonitorFleet.Path
import MonitorFleet.Tree.Basic

/-!
# Walking a path

`Tree.walk` follows the names of a path from a directory: `.` and empty names stay, `..` goes
up, a link is replaced by its target, and at most forty links are followed. The walk ends at a
`Place`: an entry that stands there, or a name that a directory does not hold yet.

On top of it stand the operations on files: reading, replacing, appending, making and removing.
Each gives its result and the tree afterwards; a tree that an operation refused to change is the
tree from before.
-/

namespace MonitorFleet

/-- Where a path leads. -/
inductive Place where
  | found (place : Location) (entry : Entry)
  /-- A name that its directory does not hold; `slash` tells whether slashes follow the name. -/
  | absent (parent : Location) (name : String) (slash : Bool)

namespace Tree

/-- The most links that one walk follows. -/
def maxLinks : Nat := 40

/-- The longest name, in bytes. -/
def maxName : Nat := 255

/-- Paths have to be shorter than this, in bytes. -/
def maxPath : Nat := 4096

/-- The directory at which a path starts, seen from a directory. -/
def start (here : Location) (path : String) : Location :=
  if Path.isAbsolute path then [] else here

/-- Follows names from a directory. A link at the end is followed if `follow` is set or names
come after it. -/
def walk (tree : Tree) (follow : Bool) (links : Nat) (here : Location) :
    List String → Except Fault Place
  | [] => .ok (.found here .directory)
  | name :: rest =>
    if name = "" ∨ name = "." then tree.walk follow links here rest
    else if name = ".." then tree.walk follow links here.dropLast rest
    else if maxName < name.utf8ByteSize then .error .nameTooLong
    else match tree.get? (here ++ [name]) with
      | none => if rest.all (· = "") then .ok (.absent here name (rest ≠ [])) else .error .notFound
      | some .directory => tree.walk follow links (here ++ [name]) rest
      | some (.link target) =>
        if rest = [] ∧ ¬ follow then .ok (.found (here ++ [name]) (.link target))
        else if target = "" then .error .notFound
        else match links with
          | 0 => .error .tooManyLinks
          | links + 1 => tree.walk follow links (start here target) (Path.names target ++ rest)
      | some entry => if rest = [] then .ok (.found (here ++ [name]) entry) else .error .notDirectory
  termination_by names => (links, names.length)

/-- Where a path leads from the working directory. -/
def find (tree : Tree) (follow : Bool) (path : String) : Except Fault Place :=
  if path.toList.contains '\x00' then .error .zeroByte
  else if path = "" then .error .notFound
  else if maxPath ≤ path.utf8ByteSize then .error .nameTooLong
  else tree.walk follow maxLinks (start tree.current path) (Path.names path)

/-- The entry that a path leads to, links followed. -/
def entryAt? (tree : Tree) (path : String) : Option Entry :=
  match tree.find true path with
  | .ok (.found _ entry) => some entry
  | _ => none

/-- Whether something stands at the path, links followed. -/
def isPresent (tree : Tree) (path : String) : Bool := (tree.entryAt? path).isSome

/-- Whether a directory stands at the path, links followed. -/
def isDirectory (tree : Tree) (path : String) : Bool :=
  match tree.entryAt? path with
  | some .directory => true
  | _ => false

/-- The content of the file at a path. -/
def read (tree : Tree) (path : String) : Except Fault ByteArray :=
  match tree.find true path with
  | .error fault => .error fault
  | .ok (.absent ..) => .error .notFound
  | .ok (.found _ .directory) => .error .isDirectory
  | .ok (.found _ (.file content)) => .ok content
  | .ok (.found ..) => .ok .empty

/-- Opens the file at a path for writing; a missing one is made, empty. The location is where
the bytes will go. -/
def openFile (tree : Tree) (path : String) : Except Fault (Location × Tree) :=
  match tree.find true path with
  | .error fault => .error fault
  | .ok (.absent parent name slash) =>
    if slash then .error .isDirectory
    else .ok (parent ++ [name], tree.put (parent ++ [name]) (.file .empty))
  | .ok (.found _ .directory) => .error .isDirectory
  | .ok (.found place _) => .ok (place, tree)

/-- Adds bytes at the end of an open file. A full device takes no byte. -/
def append (tree : Tree) (place : Location) (bytes : ByteArray) : Except Fault Tree :=
  match tree.get? place with
  | some (.file content) => .ok (tree.put place (.file (content ++ bytes)))
  | some .full => if bytes.isEmpty then .ok tree else .error .noSpace
  | _ => .ok tree

/-- Empties an open file. -/
def truncate (tree : Tree) (place : Location) : Tree :=
  match tree.get? place with
  | some (.file _) => tree.put place (.file .empty)
  | _ => tree

/-- Replaces the content of the file at a path. The old content is gone as soon as the file is
open, whatever becomes of the writing. -/
def write (tree : Tree) (path : String) (bytes : ByteArray) : Except Fault Unit × Tree :=
  match tree.openFile path with
  | .error fault => (.error fault, tree)
  | .ok (place, tree) =>
    let tree := tree.truncate place
    match tree.append place bytes with
    | .error fault => (.error fault, tree)
    | .ok tree => (.ok (), tree)

/-- Makes a directory. -/
def makeDirectory (tree : Tree) (path : String) : Except Fault Tree :=
  match tree.find false path with
  | .error fault => .error fault
  | .ok (.found ..) => .error .exists_
  | .ok (.absent parent name _) => .ok (tree.put (parent ++ [name]) .directory)

/-- Makes the first directory of a list, after those that it needs from the rest of the list. A
directory that is there already is fine, and so is the empty path. -/
def makeDirectoriesFrom : List String → Tree → Except Fault Unit × Tree
  | [], tree => (.error (.message "failed to create whole tree"), tree)
  | path :: above, tree =>
    if path = "" then (.ok (), tree)
    else match tree.makeDirectory path with
      | .ok tree => (.ok (), tree)
      | .error fault =>
        if fault ≠ .notFound then
          (if tree.isDirectory path then .ok () else .error fault, tree)
        else match makeDirectoriesFrom above tree with
          | (.error fault, tree) => (.error fault, tree)
          | (.ok (), tree) =>
            match tree.makeDirectory path with
            | .ok tree => (.ok (), tree)
            | .error fault => (if tree.isDirectory path then .ok () else .error fault, tree)

/-- Makes a directory and those above it. -/
def makeDirectories (tree : Tree) (path : String) : Except Fault Unit × Tree :=
  makeDirectoriesFrom (Path.ancestors path) tree

/-- Makes a link. -/
def makeLink (tree : Tree) (path target : String) : Except Fault Tree :=
  if target.toList.contains '\x00' then .error .zeroByte
  else if target = "" then .error .notFound
  else if maxPath ≤ target.utf8ByteSize then .error .nameTooLong
  else match tree.find false path with
    | .error fault => .error fault
    | .ok (.found ..) => .error .exists_
    | .ok (.absent _ _ true) => .error .notFound
    | .ok (.absent parent name false) => .ok (tree.put (parent ++ [name]) (.link target))

/-- Removes what a path names, with everything below it; a link is not followed. -/
def remove (tree : Tree) (path : String) : Except Fault Tree :=
  match tree.find false path with
  | .error fault => .error fault
  | .ok (.absent ..) => .error .notFound
  | .ok (.found place _) => .ok (tree.erase place)

/-- Opens the file at a path and adds bytes at its end. -/
def appendTo (tree : Tree) (path : String) (bytes : ByteArray) : Except Fault Unit × Tree :=
  match tree.openFile path with
  | .error fault => (.error fault, tree)
  | .ok (place, tree) =>
    match tree.append place bytes with
    | .error fault => (.error fault, tree)
    | .ok tree => (.ok (), tree)

end Tree

end MonitorFleet
