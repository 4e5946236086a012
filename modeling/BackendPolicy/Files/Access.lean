/-!
This module contains the access to files: what a program asks of the place where files are kept, and why
an answer may fail.
-/

namespace BackendPolicy

inductive FileFault where
  | notFound
  | notADirectory
  | isADirectory
  | linkCycle
  | notText
  | other (reason : String)
deriving DecidableEq, Repr, Inhabited

def FileFault.message : FileFault → String
  | notFound => "No such file or directory (os error 2)"
  | notADirectory => "Not a directory (os error 20)"
  | isADirectory => "Is a directory (os error 21)"
  | linkCycle => "Too many levels of symbolic links (os error 40)"
  | notText => "stream did not contain valid UTF-8"
  | other reason => reason

/--
A place where files are kept. `readText` gives the text of a file. `listFiles` gives the names of the plain
files in a directory, in any order; links are no plain files. A path that leads to a plain file lists
nothing.
-/
structure FileAccess (m : Type → Type) where
  readText : String → m (Except FileFault String)
  listFiles : String → m (Except FileFault (List String))

def textOfBytes (bytes : ByteArray) : Except FileFault String :=
  match String.fromUTF8? bytes with
  | some text => .ok text
  | none => .error .notText

end BackendPolicy
