import ReleaseGate.Http.Url.Basic
import ReleaseGate.Text.Pieces

/-! The path of an address: segments behind slashes, without those that only point elsewhere. -/

namespace ReleaseGate.Http.Url

/-- A segment that stands for the folder itself, written plainly or escaped. -/
def isHere (segment : List Char) : Bool :=
  let text := Text.lowerAscii (String.ofList segment)
  text = "." || text = "%2e"

/-- A segment that stands for the folder above. -/
def isUp (segment : List Char) : Bool :=
  let text := Text.lowerAscii (String.ofList segment)
  text = ".." || text = ".%2e" || text = "%2e." || text = "%2e%2e"

/-- A segment that names a drive: a letter and a colon, for which a bar may stand. -/
def isDrive : List Char → Bool
  | [letter, mark] => letter.isAlpha && (mark == ':' || mark == '|')
  | _ => false

/-- The segments of a path without dots. A dot at the end leaves an empty segment, and a drive is
not left. -/
def settled (done : List (List Char)) : List (List Char) → List (List Char)
  | [] => done
  | segment :: rest =>
    let closing : List (List Char) := if rest.isEmpty then [[]] else []
    if isUp segment then
      let above := if (done.getLast?.map isDrive).getD false then done else done.dropLast
      settled (above ++ closing) rest
    else if isHere segment then settled (done ++ closing) rest
    else settled (done ++ [segment]) rest

/-- The segments of a path after its first slash. -/
def segments (cs : List Char) : List (List Char) :=
  settled [] <| Text.pieces '/' <| match cs with
    | '/' :: rest => rest
    | other => other

def joined (segments : List (List Char)) : String :=
  String.ofList (segments.flatMap fun segment => '/' :: (escape inPath segment).toList)

/-- The path of a file. A drive that leads it has a colon, and the empty segments before the first
name are dropped. -/
def filePath (segments : List (List Char)) : String :=
  match segments with
  | [letter, '|'] :: rest =>
    if letter.isAlpha then joined ([letter, ':'] :: rest) else joined segments
  | _ =>
    match segments.dropWhile (·.isEmpty) with
    | [] => "/"
    | named => joined named

end ReleaseGate.Http.Url
