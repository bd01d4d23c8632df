import ReleaseGate.Http.Address
import ReleaseGate.Http.Domain
import ReleaseGate.Http.Url.Basic

/-! What stands between the scheme of an address and its path: a login, a host and a number. -/

namespace ReleaseGate.Http.Url

/-- The groups in brackets, or a name. A name that ends in a number is an address of four bytes. -/
def hostOf? : List Char → Option String
  | '[' :: inner => do
    if inner.getLast? != some ']' then none
    return "[" ++ Address.text (← Address.eight? inner.dropLast) ++ "]"
  | cs => do
    let name ← Domain.ofText? (← Text.Percent.decode? (String.ofList cs))
    if name = "" then none
    match Address.numeric name.toList with
    | .no => return name
    | .yes address => address

/-- Where nothing is asked of the host its name stands as it is. -/
def freeHostOf? : List Char → Option String
  | '[' :: inner => hostOf? ('[' :: inner)
  | cs =>
    if cs.any fun c => c == '\x00' || " #/:<>?@[\\]^|".toList.contains c then none
    else some (escape "" cs)

/-- The host, up to a colon outside brackets, and what follows it. -/
def cutHost (inside : Bool) : List Char → List Char × List Char
  | [] => ([], [])
  | c :: cs =>
    if c = ':' && !inside then ([], c :: cs)
    else
      let (host, rest) := cutHost (c == '[' || (inside && c != ']')) cs
      (c :: host, rest)

/-- What follows the host: nothing, or a colon and a number. The number that the scheme implies is
left out. -/
def numberText? (implied : Option Nat) : List Char → Option String
  | [] | [':'] => some ""
  | ':' :: digits =>
    if digits.all Char.isDigit then
      match Address.numeral? 10 digits with
      | some number =>
        if 65535 < number then none
        else if some number = implied then some ""
        else some (":" ++ toString number)
      | none => none
    else none
  | _ => none

/-- What stands before the last `@`, if there is one, and what follows it. -/
def cutLogin (cs : List Char) : Option (List Char) × List Char :=
  let place := (cs.reverse.takeWhile (· != '@')).reverse
  if place.length = cs.length then (none, cs)
  else (some (cs.take (cs.length - place.length - 1)), place)

/-- A login that says something. -/
def login? (cs : List Char) : Option Login :=
  let (name, secret) := Text.cut ':' cs
  let secret := secret.filter (! ·.isEmpty)
  if name.isEmpty && secret.isNone then none
  else some ⟨escape inLogin name, secret.map (escape inLogin)⟩

/-- The login and the host with its number, in what stands between the scheme and the path, and
what is left of it for the path: a backslash ends the number. -/
def authority? (kind : Kind) (cs : List Char) : Option (Option Login × String × List Char) := do
  let (before, place) := cutLogin cs
  let login := before.bind login?
  let (name, number) := cutHost false place
  let left := number.dropWhile (· != '\\')
  let number := number.takeWhile (· != '\\')
  match kind with
  | .host implied =>
    return (login, (← hostOf? name) ++ (← numberText? (some implied) number), left)
  | _ =>
    let host ← freeHostOf? name
    if host = "" && (login.isSome || !number.isEmpty) then none
    return (login, host ++ (← numberText? none number), left)

end ReleaseGate.Http.Url
