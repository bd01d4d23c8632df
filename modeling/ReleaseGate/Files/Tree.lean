import ReleaseGate.Files.Path

namespace ReleaseGate.Files

/-- Why the file system refused something. -/
inductive Fault where
  | missing
  | exists
  | notFolder
  | isFolder
  | nameTooLong
  | nul
  | notText
  | other (text : String)
  deriving DecidableEq, Repr

def Fault.text : Fault → String
  | missing => "No such file or directory (os error 2)"
  | .exists => "File exists (os error 17)"
  | notFolder => "Not a directory (os error 20)"
  | isFolder => "Is a directory (os error 21)"
  | nameTooLong => "File name too long (os error 36)"
  | nul => "file name contained an unexpected NUL byte"
  | notText => "stream did not contain valid UTF-8"
  | other text => text

/-- What a path that can be opened leads to. -/
inductive Opened where
  | file (content : ByteArray)
  | folder

/-- Folders and files by their places: the names that lead to them from the root, each behind a
slash. The root's own place is the empty text. -/
structure Tree where
  folders : List String := []
  files : List (String × ByteArray) := []

/-- Where a path leads. A path to nothing may still name a place in a folder that is there. -/
inductive Spot where
  | folder (place : String)
  | file (place : String) (content : ByteArray)
  | free (place : String)

/-- The longest path, and the longest name in one, in bytes. -/
def pathLimit : Nat := 4095

def nameLimit : Nat := 255

/-- A path is refused for its text alone when no file could have it. -/
def refusal? (path : String) : Option Fault :=
  if path.toList.contains '\x00' then some .nul
  else if pathLimit < path.utf8ByteSize then some .nameTooLong
  else none

/-- The place of the folder that a place is in. The root is in itself. -/
def above (place : String) : String :=
  String.ofList ((place.toList.reverse.dropWhile (· != '/')).drop 1).reverse

namespace Tree

def hasFolder (tree : Tree) (place : String) : Bool :=
  place.isEmpty || tree.folders.contains place

/-- Names are followed one by one; only a folder leads further. -/
def follow (tree : Tree) (place : String) : List (List Char) → Except Fault Spot
  | [] => .ok (.folder place)
  | piece :: rest =>
    if piece = [] ∨ piece = ['.'] then tree.follow place rest
    else if piece = ['.', '.'] then tree.follow (above place) rest
    else
      let name := String.ofList piece
      let place := place ++ "/" ++ name
      if nameLimit < name.utf8ByteSize then .error .nameTooLong
      else if tree.hasFolder place then tree.follow place rest
      else
        match tree.files.lookup place with
        | some content => if rest.isEmpty then .ok (.file place content) else .error .notFolder
        | none =>
          if rest.all (·.isEmpty) then .ok (.free place) else .error .missing

def find (tree : Tree) (path : String) : Except Fault Spot :=
  if path = "" then .error .missing
  else
    match refusal? path with
    | some fault => .error fault
    | none => tree.follow "" (Text.pieces '/' path.toList)

def openAt (tree : Tree) (path : String) : Except Fault Opened :=
  match tree.find path with
  | .ok (.folder _) => .ok .folder
  | .ok (.file _ content) => .ok (.file content)
  | .ok (.free _) => .error .missing
  | .error fault => .error fault

def putFile (tree : Tree) (place : String) (content : ByteArray) : Tree :=
  { tree with files := (place, content) :: tree.files.filter (·.1 ≠ place) }

/-- The file's content becomes what `change` makes of it; a missing file is made from nothing. -/
def modify (tree : Tree) (path : String) (change : ByteArray → ByteArray) : Except Fault Tree :=
  match tree.find path with
  | .ok (.folder _) => .error .isFolder
  | .ok (.file place content) => .ok (tree.putFile place (change content))
  | .ok (.free place) =>
    if path.toList.getLast? = some '/' then .error .isFolder
    else .ok (tree.putFile place (change .empty))
  | .error fault => .error fault

/-- Every folder on the way is made if it is not there. -/
def makeFolders (tree : Tree) (place : String) : List (List Char) → Except Fault Tree
  | [] => .ok tree
  | piece :: rest =>
    if piece = [] ∨ piece = ['.'] then tree.makeFolders place rest
    else if piece = ['.', '.'] then tree.makeFolders (above place) rest
    else
      let name := String.ofList piece
      let place := place ++ "/" ++ name
      if nameLimit < name.utf8ByteSize then .error .nameTooLong
      else if tree.hasFolder place then tree.makeFolders place rest
      else if (tree.files.lookup place).isSome then
        .error (if rest.isEmpty then .exists else .notFolder)
      else { tree with folders := place :: tree.folders }.makeFolders place rest

def makePath (tree : Tree) (path : String) : Except Fault Tree :=
  if path = "" then .ok tree
  else
    match refusal? path with
    | some fault => .error fault
    | none => tree.makeFolders "" (Text.pieces '/' path.toList)

end Tree

end ReleaseGate.Files
