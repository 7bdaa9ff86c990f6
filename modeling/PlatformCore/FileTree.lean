/-
  File trees, and the paths that lead to files.

  A path names the directories to go through, with slashes between them: from the root if it
  begins with a slash, else from the working directory.  A single dot stays where it is, a double
  dot goes back, and a slash at the end asks for a directory.

  * `FileTree.read` gives the bytes of the file at the end of a path, or says why there are none;
  * `ReadError.message` is the text of that.
-/
import PlatformCore.Text.Utf8

namespace PlatformCore

/-! ## Errors -/

inductive ReadError where
  | notFound
  | forbidden
  | isDirectory
  | notDirectory
  | nameTooLong
  | badName
  | notText
deriving DecidableEq, Repr

def ReadError.message : ReadError → String
  | notFound => "No such file or directory (os error 2)"
  | forbidden => "Permission denied (os error 13)"
  | isDirectory => "Is a directory (os error 21)"
  | notDirectory => "Not a directory (os error 20)"
  | nameTooLong => "File name too long (os error 36)"
  | badName => "file name contained an unexpected NUL byte"
  | notText => "stream did not contain valid UTF-8"

/-! ## Trees -/

/-- A file or a directory. -/
inductive FileTree where
  | file (bytes : List UInt8)
  | directory (entries : List (String × FileTree))

namespace FileTree

def pathLimit : Nat := 4096

def maxNameLength : Nat := 255

def entries? : FileTree → Except ReadError (List (String × FileTree))
  | file _ => .error .notDirectory
  | directory entries => .ok entries

def child? (t : FileTree) (name : String) : Except ReadError FileTree := do
  let entries ← t.entries?
  if maxNameLength < name.utf8ByteSize then .error .nameTooLong
  else match entries.lookup name with
    | some t => .ok t
    | none => .error .notFound

/-- What lies at the end of a path, given by its names.  `behind` are the directories on the way
    from the root, the nearest first. -/
def walk (behind : List FileTree) (t : FileTree) :
    List String → Except ReadError (List FileTree × FileTree)
  | [] => .ok (behind, t)
  | name :: names =>
    if name = "" ∨ name = "." then t.entries?.bind fun _ => walk behind t names
    else if name = ".." then
      t.entries?.bind fun _ =>
        match behind with
        | [] => walk [] t names
        | up :: behind => walk behind up names
    else
      match t.child? name with
      | .ok u => walk (t :: behind) u names
      | .error e => .error e

def namesOf (path : String) : List String :=
  (path.toList.splitOnP (· = '/')).map String.ofList

/-- The bytes of the file at the end of a path, in a tree with a working directory. -/
def read (root : FileTree) (workingDirectory path : String) : Except ReadError (List UInt8) := do
  if path = "" then .error .notFound
  else if pathLimit ≤ path.utf8ByteSize then .error .nameTooLong
  else
    let (behind, start) ← if path.startsWith "/" then .ok ([], root)
      else walk [] root (namesOf workingDirectory)
    match ← walk behind start (namesOf path) with
    | (_, file bytes) => .ok bytes
    | (_, directory _) => .error .isDirectory

end FileTree

end PlatformCore
