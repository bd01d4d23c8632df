import ReleaseGate.Text.Pieces

namespace ReleaseGate.Files

/-- What a path says, part by part. -/
inductive Component where
  | root
  | here
  | up
  | name (text : String)
  deriving DecidableEq, Repr

def Component.isName : Component → Bool
  | name _ => true
  | _ => false

/-- What a piece between slashes says. An empty piece says nothing, and neither does a dot. -/
def Component.ofPiece? (piece : List Char) : Option Component :=
  if piece = [] ∨ piece = ['.'] then none
  else if piece = ['.', '.'] then some .up
  else some (.name (String.ofList piece))

/-- The parts of a path. Only a dot that leads it is one of them. -/
def components (path : String) : List Component :=
  match Text.pieces '/' path.toList with
  | [] => []
  | [] :: rest => (if rest.isEmpty then [] else [.root]) ++ rest.filterMap Component.ofPiece?
  | ['.'] :: rest => .here :: rest.filterMap Component.ofPiece?
  | all => all.filterMap Component.ofPiece?

def isAbsolute (path : String) : Bool := path.toList.head? == some '/'

/-- An absolute path stands for itself. -/
def join (base path : String) : String :=
  if isAbsolute path || base = "" then path
  else if base.toList.getLast? = some '/' then base ++ path
  else base ++ "/" ++ path

/-- The texts up to the end of each part that counts, with the part. -/
def marks (done : List Char) (first : Bool) : List (List Char) → List (List Char × List Char)
  | [] => []
  | piece :: rest =>
    let upTo := if first then piece else done ++ '/' :: piece
    let later := marks upTo false rest
    if piece = [] ∨ (piece = ['.'] ∧ !first) then later else (upTo, piece) :: later

/-- The path without its last part. -/
def parent? (path : String) : Option String :=
  match (marks [] true (Text.pieces '/' path.toList)).reverse with
  | [] => none
  | [_] => some (if isAbsolute path then "/" else "")
  | _ :: (upTo, _) :: _ => some (String.ofList upTo)

/-- The name at the end of a path. -/
def fileName (path : String) : String :=
  match (components path).getLast? with
  | some (.name text) => text
  | _ => ""

end ReleaseGate.Files
