import ReleaseGate.Toml.Value

namespace ReleaseGate.Toml

abbrev Fields := List (String × Toml)

/-- A document as far as it has been read. The table under the last heading is kept apart until
the next heading. -/
structure Draft where
  root : Fields := []
  path : List String := []
  inList : Bool := false
  current : Fields := []

/-- Changes the table at the end of a path. Tables on the way are made if they are not there; of a
list of tables the last is meant. A dotted key may pass only tables without a heading. -/
def within (dotted : Bool) (change : Origin → Fields → Option Fields) :
    List String → Origin → Fields → Option Fields
  | [], origin, fields => change origin fields
  | step :: path, _, fields =>
    match fields.lookup step with
    | none => do
      let origin := if dotted then .dotted else .passage
      let inner ← within dotted change path origin []
      return fields ++ [(step, table origin inner)]
    | some (table origin inner) =>
      if origin matches .braces | .dottedInBraces then none
      else if dotted && origin == .heading then none
      else do
        let inner ← within dotted change path origin inner
        return setField fields step (table origin inner)
    | some (tables items) => do
      let last ← items.getLast?
      let inner ← within dotted change path .heading last
      return setField fields step (tables (items.dropLast ++ [inner]))
    | some _ => none

/-- One more pair in the current table. -/
def Draft.add (draft : Draft) (path : List String) (item : Toml) : Option Draft := do
  let name ← path.getLast?
  let place (origin : Origin) (fields : Fields) : Option Fields :=
    if (origin == .dotted) == path.dropLast.isEmpty then none
    else if (fields.lookup name).isSome then none
    else some (fields ++ [(name, item)])
  let current ← within true place path.dropLast .heading draft.current
  return { draft with current }

/-- The current table takes its place in the document. -/
def Draft.settled (draft : Draft) : Option Fields :=
  match draft.path.getLast? with
  | none => some draft.current
  | some name =>
    let place (_ : Origin) (fields : Fields) : Option Fields :=
      if draft.inList then
        match fields.lookup name with
        | none => some (fields ++ [(name, tables [draft.current])])
        | some (tables items) => some (setField fields name (tables (items ++ [draft.current])))
        | some _ => none
      else
        match fields.lookup name with
        | none => some (fields ++ [(name, table .heading draft.current)])
        | some (table .passage _) | some (table .dotted _) =>
          some (setField fields name (table .heading draft.current))
        | some _ => none
    within false place draft.path.dropLast .heading draft.root

/-- A heading. A table that so far was only passed through goes on from what is in it. -/
def Draft.head (draft : Draft) (path : List String) : Option Draft := do
  let root ← draft.settled
  let name ← path.getLast?
  let check (_ : Origin) (fields : Fields) : Option Fields :=
    match fields.lookup name with
    | none => some fields
    | some (table .passage _) => some (fields.filter (·.1 ≠ name))
    | some _ => none
  let cleared ← within false check path.dropLast .heading root
  return { root := cleared, path := path, inList := false, current := kept root path }
where
  /-- What is in the table at the end of a path. -/
  kept (fields : Fields) : List String → Fields
    | [] => fields
    | step :: path =>
      match fields.lookup step with
      | some (table _ inner) => kept inner path
      | some (tables items) => kept (items.getLast?.getD []) path
      | _ => []

/-- A heading in double brackets begins one more table of a list. -/
def Draft.headInList (draft : Draft) (path : List String) : Option Draft := do
  let root ← draft.settled
  let name ← path.getLast?
  let check (_ : Origin) (fields : Fields) : Option Fields :=
    match fields.lookup name with
    | none => some fields
    | some (tables _) => some fields
    | some _ => none
  let root ← within false check path.dropLast .heading root
  return { root, path, inList := true, current := [] }

/-- One line after another: headings, pairs, and lines that say nothing. -/
def lines : Nat → Draft → List Char → Option Fields
  | 0, _, _ => none
  | fuel + 1, draft, cs =>
    match skipSpace cs with
    | [] => draft.settled
    | '[' :: '[' :: cs => do
      let (path, rest) ← key cs
      let rest ← expect ']' (← expect ']' (skipSpace rest))
      lines fuel (← draft.headInList path) (← nextLine? rest)
    | '[' :: cs => do
      let (path, rest) ← key cs
      let rest ← expect ']' (skipSpace rest)
      lines fuel (← draft.head path) (← nextLine? rest)
    | cs =>
      match nextLine? cs with
      | some rest => lines fuel draft rest
      | none => do
        let (path, rest) ← key cs
        let rest ← expect '=' (skipSpace rest)
        let (item, rest) ← parseValue (2 * rest.length + 2) (nestingLimit - 1) (skipSpace rest)
        lines fuel (← draft.add path item) (← nextLine? rest)

/-- The table that a text in TOML stands for. A byte order mark may lead it. -/
def ofText? (text : String) : Option Toml :=
  let cs := match text.toList with
    | '\uFEFF' :: cs => cs
    | cs => cs
  (lines (cs.length + 1) {} cs).map (table .heading)

end ReleaseGate.Toml
