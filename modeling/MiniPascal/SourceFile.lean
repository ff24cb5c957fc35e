import MiniPascal.Error

/-!
# Source files

A source file is known by its extension, which is looked at before the file is. What the file system
has under a name is a `FileEntry`; `SourceFile.read` makes the source text of it.
-/

namespace MiniPascal

/-- What the file system has under a name. -/
inductive FileEntry where
  | absent
  | directory
  | file (bytes : ByteArray)

/-- There is something under the name. -/
def FileEntry.exists? : FileEntry → Bool
  | .absent => false
  | .directory | .file _ => true

namespace SourceFile

/-- The extensions of source files. -/
def extensions : List String := ["pas", "pp", "p"]

/-- The last part of a path that names something; steps to the same directory name nothing. -/
def lastPart (path : List Char) : List Char :=
  ((path.splitOn '/').filter fun part => part != [] && part != ['.']).getLastD []

/-- The extension of a file name: what follows its last dot, if something stands before that dot. -/
def extension? (name : List Char) : Option (List Char) :=
  let after := (name.reverse.takeWhile (· != '.')).reverse
  if after.length + 1 < name.length then some after else none

/-- The path has the extension of a source file. -/
def isAccepted (path : String) : Bool :=
  match extension? (lastPart path.toList) with
  | some ext => extensions.contains (String.ofList ext)
  | none => false

/-- The text of the source file of the given name. -/
def read (path : String) (entry : FileEntry) : Except Error String :=
  if !isAccepted path then
    .error (.unacceptedFile
      ("File must have one of the extensions: " ++ ", ".intercalate extensions))
  else
    match entry with
    | .absent => .error (.io "No such file or directory (os error 2)")
    | .directory => .error (.io "Is a directory (os error 21)")
    | .file bytes =>
      match String.fromUTF8? bytes with
      | some text => .ok text
      | none => .error (.io "stream did not contain valid UTF-8")

end SourceFile

end MiniPascal
