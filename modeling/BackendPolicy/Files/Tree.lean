import BackendPolicy.Files.Access
import BackendPolicy.Text.Path

/-!
This module contains trees of files that are kept in memory, with directories and symbolic links.
`FileTree.locate` follows a path to the place it leads to, and `FileTree.access` answers from the tree what
a program asks of its files.
-/

namespace BackendPolicy

inductive FileTree where
  | file (bytes : ByteArray)
  | link (target : String)
  | directory (entries : List (String × FileTree))

namespace FileTree

def empty : FileTree := directory []

instance : Inhabited FileTree := ⟨empty⟩

def entries : FileTree → List (String × FileTree)
  | directory entries => entries
  | _ => []

def entry? (tree : FileTree) (name : String) : Option FileTree :=
  tree.entries.lookup name

def putEntry (name : String) (tree : FileTree) : List (String × FileTree) → List (String × FileTree)
  | [] => [(name, tree)]
  | entry :: rest => if entry.1 = name then (name, tree) :: rest else entry :: putEntry name tree rest

/--
Put a tree at a place below another. Directories on the way are created, and the empty directory leaves a
directory that is already there as it is.
-/
def put (leaf : FileTree) : List String → FileTree → FileTree
  | [], old =>
    match leaf, old with
    | directory [], directory entries => directory entries
    | _, _ => leaf
  | name :: names, old =>
    directory (putEntry name (put leaf names ((old.entry? name).getD empty)) old.entries)

def ofList (leaves : List (String × FileTree)) : FileTree :=
  leaves.foldl (fun tree leaf => put leaf.2 ((Path.pieces leaf.1).filter (· ≠ ".")) tree) empty

def at? (tree : FileTree) : List String → Option FileTree
  | [] => some tree
  | name :: names => (tree.entry? name).bind fun inner => inner.at? names

/--
The steps that a path asks for. A path that ends in a slash ends in a directory.
-/
def steps (path : String) : List String :=
  Path.pieces path ++ (if path.endsWith "/" then ["."] else [])

def origin (directory : List String) (path : String) : List String :=
  if Path.isAbsolute path then [] else directory

/--
Follow steps from a place. A link is replaced by the steps of its target, at most `links` times. The parent
of the topmost directory is that directory.
-/
def follow (tree : FileTree) (links : Nat) (place : List String) (todo : List String) :
    Except FileFault (List String) :=
  match todo with
  | [] => .ok place
  | step :: rest =>
    match tree.at? place with
    | some (directory entries) =>
      if step = "." then
        tree.follow links place rest
      else if step = ".." then
        tree.follow links place.dropLast rest
      else
        match entries.lookup step with
        | none => .error .notFound
        -- A target is relative to the directory that holds the link.
        | some (link target) =>
          match links with
          | 0 => .error .linkCycle
          | links + 1 => tree.follow links (origin place target) (steps target ++ rest)
        | some _ => tree.follow links (place ++ [step]) rest
    | _ => .error .notADirectory
termination_by (links, todo.length)

def maxLinks : Nat := 40

def locate (tree : FileTree) (directory : List String) (path : String) : Except FileFault FileTree :=
  if path.isEmpty then
    .error .notFound
  else do
    let place ← tree.follow maxLinks (origin directory path) (steps path)
    match tree.at? place with
    | some found => return found
    | none => throw .notFound

def readText (tree : FileTree) (directory : List String) (path : String) : Except FileFault String := do
  match ← tree.locate directory path with
  | file bytes => textOfBytes bytes
  | _ => throw .isADirectory

def isFile : FileTree → Bool
  | file _ => true
  | _ => false

def listFiles (tree : FileTree) (directory : List String) (path : String) :
    Except FileFault (List String) := do
  let found ← tree.locate directory path
  return (found.entries.filter fun entry => entry.2.isFile).map Prod.fst

def access (tree : FileTree) (directory : List String) : FileAccess Id where
  readText path := tree.readText directory path
  listFiles path := tree.listFiles directory path

end FileTree

end BackendPolicy
