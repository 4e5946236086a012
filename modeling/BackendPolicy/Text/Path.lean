/-!
This module contains paths and their order. Paths are compared by components: repeated slashes, a slash at
the end and dots other than a leading one do not count.
-/

namespace BackendPolicy.Path

/--
A component of a path: the root, the current directory at the start, the parent directory or a name.
-/
inductive Component where
  | root
  | here
  | up
  | name (s : String)
deriving DecidableEq, Repr

def Component.rank : Component → Nat
  | root => 0
  | here => 1
  | up => 2
  | name _ => 3

def Component.compare : Component → Component → Ordering
  | .name a, .name b => Ord.compare a b
  | a, b => Ord.compare a.rank b.rank

def splitSlash : List Char → List (List Char)
  | [] => [[]]
  | c :: rest =>
    if c = '/' then
      [] :: splitSlash rest
    else
      match splitSlash rest with
      | piece :: pieces => (c :: piece) :: pieces
      | [] => [[c]]

def pieces (path : String) : List String :=
  ((splitSlash path.toList).filter (· ≠ [])).map String.ofList

def isAbsolute (path : String) : Bool :=
  path.toList.head? = some '/'

def Component.ofPiece? (piece : String) : Option Component :=
  if piece = "." then none
  else if piece = ".." then some .up
  else some (.name piece)

def components (path : String) : List Component :=
  let pieces := pieces path
  let inner := pieces.filterMap Component.ofPiece?
  if isAbsolute path then
    .root :: inner
  else if pieces.head? = some "." then
    .here :: inner
  else
    inner

def compareComponents : List Component → List Component → Ordering
  | [], [] => .eq
  | [], _ :: _ => .lt
  | _ :: _, [] => .gt
  | a :: as, b :: bs => (a.compare b).then (compareComponents as bs)

def compare (a b : String) : Ordering :=
  compareComponents (components a) (components b)

def le (a b : String) : Bool :=
  compare a b ≠ .gt

def same (a b : String) : Bool :=
  components a = components b

def join (directory name : String) : String :=
  if isAbsolute name then name
  else if directory.isEmpty then name
  else if directory.toList.getLast? = some '/' then directory ++ name
  else directory ++ "/" ++ name

def hasExtension (name extension : String) : Bool :=
  let suffix := '.' :: extension.toList
  suffix.isSuffixOf name.toList && suffix.length < name.toList.length

end BackendPolicy.Path
