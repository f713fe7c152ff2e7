/-!
# Reading files

Loading a configuration from a path asks the file system for the text of a file. The answer
is the text, or why there is none: nothing is at the path, or another failure, with the text
the system reports it by (`FileSystem`).

A `FileTree` is a file system given by what is at each absolute path. Reading from it follows
the kernel's lookup of a path. The path is split at `/` into names, and empty names are
skipped; the lookup starts at the root for a path that starts with `/`, and at the working
directory otherwise. A name `.` stays where the lookup is and `..` goes up, the root being its
own parent; a link is followed to the path it leads to; every name but the last must lead to
a directory. What the path leads to must then be a file of text: a directory cannot be read,
a path that ends in `/` must lead to a directory, and a file that is not UTF-8 is refused.

## Main definitions

* `ReadError`, `FileSystem`: What reading a file can give.
* `FileTree`, `FileTree.Node`: A file system by what is at each path.
* `FileTree.walk`, `FileTree.read`: Looking a path up and reading the file there.
-/

namespace Resilience

/-- Why a file system gives no text at a path: nothing is there, or another failure, with the
text the system reports it by. -/
inductive ReadError where
  | notFound
  | failed (message : String)

/-- A file system as a reader of files sees it: the text of the file at a path. -/
structure FileSystem where
  read : String → Except ReadError String

/-- What an absolute path can lead to. -/
inductive FileTree.Node where
  | directory
  | text (content : String)
  /-- A file whose bytes are not UTF-8 text. -/
  | binary
  /-- A link to the path it names from the root, which is not a link itself. -/
  | link (target : List String)

/-- A file tree: what is at each absolute path, named from the root (the root itself being a
directory), and the working directory. -/
structure FileTree where
  node? : List String → Option FileTree.Node
  cwd : List String

namespace FileTree

/-- Why a lookup stops before its last name. -/
inductive Stop where
  | missing
  | notDirectory

/-- What is at an absolute path; the root is a directory. -/
def nodeAt? (tree : FileTree) : List String → Option Node
  | [] => some .directory
  | path => tree.node? path

/-- Take the name `name` from the directory `here`: where the lookup stands then, and what is
there, a link followed. -/
def enter (tree : FileTree) (here : List String) (name : String) :
    Except Stop (List String × Node) :=
  if name == "." then .ok (here, .directory)
  else if name == ".." then .ok (here.dropLast, .directory)
  else
    match tree.nodeAt? (here ++ [name]) with
    | none => .error .missing
    | some (.link target) =>
      match tree.nodeAt? target with
      | some node => .ok (target, node)
      | none => .error .missing
    | some node => .ok (here ++ [name], node)

/-- Look the names up from the directory `here`: where the lookup ends and what is there.
Every name but the last must lead to a directory. -/
def walk (tree : FileTree) : List String → List String → Except Stop (List String × Node)
  | here, [] => .ok (here, .directory)
  | here, name :: rest =>
    match tree.enter here name, rest with
    | .error stop, _ => .error stop
    | .ok found, [] => .ok found
    | .ok (next, .directory), _ => tree.walk next rest
    | .ok _, _ => .error .notDirectory

/-- The text of the file at a path, or the failure, with the text the system reports it by. -/
def read (tree : FileTree) (path : String) : Except ReadError String :=
  let names := (path.splitOn "/").filter (!·.isEmpty)
  let start := if path.startsWith "/" then [] else tree.cwd
  if path.isEmpty then .error .notFound
  else match tree.walk start names with
    | .error .missing => .error .notFound
    | .error .notDirectory => .error (.failed "Not a directory (os error 20)")
    | .ok (_, .directory) => .error (.failed "Is a directory (os error 21)")
    | .ok (_, node) =>
      if path.endsWith "/" then .error (.failed "Not a directory (os error 20)")
      else match node with
        | .text content => .ok content
        | _ => .error (.failed "stream did not contain valid UTF-8")

/-- The file tree as a file system. -/
def toFileSystem (tree : FileTree) : FileSystem := ⟨tree.read⟩

end FileTree

end Resilience
