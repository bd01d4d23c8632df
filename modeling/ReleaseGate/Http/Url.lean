import ReleaseGate.Http.Url.Authority
import ReleaseGate.Http.Url.Path

/-! Addresses, read from any text that means one. -/

namespace ReleaseGate.Http.Url

/-- Outer blanks are no part of an address, nor are line ends and tabs inside it. -/
def cleaned (text : String) : List Char :=
  let outer (c : Char) : Bool := c.toNat ≤ 0x20
  (Text.dropEndWhile outer (text.toList.dropWhile outer)).filter fun c =>
    c != '\t' && c != '\n' && c != '\r'

/-- The scheme in small letters, and what follows its colon. -/
def scheme? (cs : List Char) : Option (String × List Char) :=
  match Text.cut ':' cs with
  | (c :: cs, some rest) =>
    if c.isAlpha && cs.all (fun c => c.isAlphanum || c == '+' || c == '-' || c == '.') then
      some (Text.lowerAscii (String.ofList (c :: cs)), rest)
    else none
  | _ => none

/-- An address with a host, before which any number of slashes may stand. -/
def ofHost? (scheme : String) (implied : Nat) (cs : List Char) : Option Url := do
  let rest := cs.dropWhile (· == '/')
  let (login, host, left) ← authority? (.host implied) (rest.takeWhile (· != '/'))
  let path := left ++ rest.dropWhile (· != '/')
  return ⟨scheme, login, some host, joined (segments path), none, none⟩

/-- The address of a file: a drive is no host, and this machine is a host without a name. A path
that begins with a drive has no other host. -/
def ofFile? (cs : List Char) : Option Url := do
  let (place, path) := match cs with
    | '/' :: '/' :: rest =>
      let place := rest.takeWhile (· != '/')
      if isDrive place then ([], rest) else (place, rest.dropWhile (· != '/'))
    | rest => ([], rest)
  let host ← if place.isEmpty then some "" else hostOf? place
  let segments := segments path
  let nameless := host = "localhost" || (segments.head?.map isDrive).getD false
  return ⟨"file", none, some (if nameless then "" else host), filePath segments, none, none⟩

/-- An address that asks nothing of its host. Two slashes at the start of a path would make a host
of it, so that a dot stands before them. -/
def ofFree? (scheme : String) (last : Bool) : List Char → Option Url
  | '/' :: '/' :: rest => do
    let place := rest.takeWhile (· != '/')
    let path := rest.dropWhile (· != '/')
    if cutLogin place == (some [], []) && !(last && path.isEmpty) then none
    let (login, host, left) ← authority? .free place
    let path := left ++ path
    let written := if path.isEmpty then "" else joined (segments path)
    return ⟨scheme, login, some host, written, none, none⟩
  | '/' :: rest =>
    let path := joined (segments rest)
    some ⟨scheme, none, none, if "//".isPrefixOf path then "/." ++ path else path, none, none⟩
  | rest => some ⟨scheme, none, none, escape "" rest, none, none⟩

/-- The address a text means. -/
def ofText? (text : String) : Option Url := do
  let (scheme, rest) ← scheme? (cleaned text)
  let kind := kind scheme
  let (rest, fragment) := Text.cut '#' rest
  let (rest, query) := Text.cut '?' rest
  let slashed := rest.map fun c => if c = '\\' then '/' else c
  let url ← match kind with
    | .host implied => ofHost? scheme implied slashed
    | .file => ofFile? slashed
    | .free => ofFree? scheme (query.isNone && fragment.isNone) rest
  return { url with
    query := query.map (escape (inQuery kind))
    fragment := fragment.map (escape inFragment) }

end ReleaseGate.Http.Url
