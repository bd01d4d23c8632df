import ReleaseGate.Text.Percent
import ReleaseGate.Text.Pieces
import ReleaseGate.Toml.Basic

namespace ReleaseGate.Toml

def isSpace (c : Char) : Bool := c == ' ' || c == '\t'

def skipSpace (cs : List Char) : List Char := cs.dropWhile isSpace

/-- A character of a comment or of a text: a tab, or anything that is no control. -/
def isPrintable (c : Char) : Bool := c == '\t' || (0x20 ≤ c.toNat && c.toNat != 0x7F)

def skipComment : List Char → List Char
  | '#' :: cs => cs.dropWhile isPrintable
  | cs => cs

/-- The text after a line end. -/
def newline? : List Char → Option (List Char)
  | '\n' :: cs => some cs
  | '\r' :: '\n' :: cs => some cs
  | _ => none

/-- The next line, if only space and a comment are left of this one. -/
def nextLine? (cs : List Char) : Option (List Char) :=
  match skipComment (skipSpace cs) with
  | [] => some []
  | cs => newline? cs

/-- The text after space, comments and line ends. -/
def skipLines : Nat → List Char → List Char
  | 0, cs => cs
  | fuel + 1, cs =>
    let rest := skipComment (skipSpace cs)
    match newline? rest with
    | some rest => skipLines fuel rest
    | none => rest

/-- The character of a code, which must be one of Unicode. -/
def codePoint? (digits : List Char) : Option Char := do
  let n ← digits.foldlM (fun n c => (Text.Percent.hexValue? c).map (16 * n + ·)) 0
  if n.isValidChar then some (Char.ofNat n) else none

def escape? (c : Char) : Option Char :=
  if c = '"' || c = '\\' then some c
  else if c = 'b' then some '\x08'
  else if c = 'f' then some '\x0c'
  else if c = 'n' then some '\n'
  else if c = 'r' then some '\r'
  else if c = 't' then some '\t'
  else none

/-- A text up to its closing quote, escapes resolved; `done` holds what was read, last first. -/
def basicBody (done : List Char) : List Char → Option (String × List Char)
  | [] => none
  | '"' :: cs => some (String.ofList done.reverse, cs)
  | '\\' :: 'u' :: a :: b :: c :: d :: cs => do
    basicBody ((← codePoint? [a, b, c, d]) :: done) cs
  | '\\' :: 'U' :: a :: b :: c :: d :: e :: f :: g :: h :: cs => do
    basicBody ((← codePoint? [a, b, c, d, e, f, g, h]) :: done) cs
  | '\\' :: c :: cs => do basicBody ((← escape? c) :: done) cs
  | c :: cs => if isPrintable c then basicBody (c :: done) cs else none

def literalBody (done : List Char) : List Char → Option (String × List Char)
  | [] => none
  | '\'' :: cs => some (String.ofList done.reverse, cs)
  | c :: cs => if isPrintable c then literalBody (c :: done) cs else none

/-- What follows three closing quotes: up to two more of them belong to the text. -/
def closing (quote : Char) (done : List Char) : List Char → String × List Char
  | a :: b :: cs =>
    if a = quote ∧ b = quote then (String.ofList (quote :: quote :: done).reverse, cs)
    else if a = quote then (String.ofList (quote :: done).reverse, b :: cs)
    else (String.ofList done.reverse, a :: b :: cs)
  | [a] =>
    if a = quote then (String.ofList (quote :: done).reverse, [])
    else (String.ofList done.reverse, [a])
  | [] => (String.ofList done.reverse, [])

/-- A text of many lines. A backslash at the end of a line takes all space up to the next
character with it, which `trimming` tells. -/
def longBasicBody (trimming : Bool) (done : List Char) : List Char → Option (String × List Char)
  | [] => none
  | '"' :: '"' :: '"' :: cs => some (closing '"' done cs)
  | '\\' :: 'u' :: a :: b :: c :: d :: cs => do
    longBasicBody false ((← codePoint? [a, b, c, d]) :: done) cs
  | '\\' :: 'U' :: a :: b :: c :: d :: e :: f :: g :: h :: cs => do
    longBasicBody false ((← codePoint? [a, b, c, d, e, f, g, h]) :: done) cs
  | '\\' :: c :: cs =>
    if (newline? (skipSpace (c :: cs))).isSome then longBasicBody true done (c :: cs)
    else do longBasicBody false ((← escape? c) :: done) cs
  | '\r' :: '\n' :: cs => longBasicBody trimming (if trimming then done else '\n' :: done) cs
  | c :: cs =>
    if trimming && (isSpace c || c == '\n') then longBasicBody true done cs
    else if c == '\n' || isPrintable c then longBasicBody false (c :: done) cs
    else none

def longLiteralBody (done : List Char) : List Char → Option (String × List Char)
  | [] => none
  | '\'' :: '\'' :: '\'' :: cs => some (closing '\'' done cs)
  | '\r' :: '\n' :: cs => longLiteralBody ('\n' :: done) cs
  | c :: cs => if c == '\n' || isPrintable c then longLiteralBody (c :: done) cs else none

/-- A line end right after the opening quotes is no part of the text. -/
def afterOpening (cs : List Char) : List Char := (newline? cs).getD cs

def quotedText : List Char → Option (String × List Char)
  | '"' :: '"' :: '"' :: cs => longBasicBody false [] (afterOpening cs)
  | '"' :: cs => basicBody [] cs
  | '\'' :: '\'' :: '\'' :: cs => longLiteralBody [] (afterOpening cs)
  | '\'' :: cs => literalBody [] cs
  | _ => none

/-- Digits with single underscores between them. -/
def digits (isDigit : Char → Bool) : Bool → List Char → Option (List Char × List Char)
  | _, [] => some ([], [])
  | after, c :: cs =>
    if isDigit c then do
      let (ds, rest) ← digits isDigit true cs
      return (c :: ds, rest)
    else if c = '_' && after then
      match cs with
      | d :: _ => if isDigit d then digits isDigit false cs else none
      | [] => none
    else some ([], c :: cs)

def someDigits (isDigit : Char → Bool) (cs : List Char) : Option (List Char × List Char) := do
  let (ds, rest) ← digits isDigit false cs
  if ds.isEmpty then none else some (ds, rest)

def value (base : Nat) (ds : List Char) : Nat :=
  ds.foldl (fun n c => base * n + (Text.Percent.hexValue? c).getD 0) 0

def fits (n : Int) : Bool := -0x8000000000000000 ≤ n && n < 0x8000000000000000

/-- A sign, if there is one, and whether it is a minus. -/
def sign : List Char → Option Bool × List Char
  | '+' :: cs => (some false, cs)
  | '-' :: cs => (some true, cs)
  | cs => (none, cs)

/-- Decimal digits without padding. -/
def plainDigits : List Char → Option (List Char × List Char)
  | '0' :: cs => some (['0'], cs)
  | cs => someDigits Char.isDigit cs

def based (base : Nat) (isDigit : Char → Bool) (cs : List Char) : Option (Toml × List Char) := do
  let (ds, rest) ← someDigits isDigit cs
  if fits (value base ds) then some (integer (value base ds), rest) else none

def whole (cs : List Char) : Option (Toml × List Char) := do
  let (minus, rest) := sign cs
  let (ds, rest) ← plainDigits rest
  let n : Int := if minus = some true then -(value 10 ds) else value 10 ds
  if fits n then some (integer n, rest) else none

def number (cs : List Char) : Option (Toml × List Char) :=
  match cs with
  | '0' :: 'x' :: cs => based 16 (fun c => (Text.Percent.hexValue? c).isSome) cs
  | '0' :: 'o' :: cs => based 8 (fun c => '0' ≤ c && c ≤ '7') cs
  | '0' :: 'b' :: cs => based 2 (fun c => c == '0' || c == '1') cs
  | cs => whole cs

/-- The power of ten of an exponent part, cut short far beyond any double. -/
def exponentPart : List Char → Option (Int × List Char)
  | c :: cs =>
    if c = 'e' || c = 'E' then do
      let (minus, rest) := sign cs
      let (ds, rest) ← someDigits Char.isDigit rest
      let size : Int := min (value 10 ds) 100000
      return (if minus = some true then -size else size, rest)
    else none
  | [] => none

/-- A decimal float has a fraction, an exponent or both. One that is too large is refused. -/
def decimalFloat (cs : List Char) : Option (Toml × List Char) := do
  let (minus, rest) := sign cs
  let (whole, rest) ← plainDigits rest
  let (fraction, power, rest) ← match rest with
    | '.' :: rest => do
      let (fraction, rest) ← someDigits Char.isDigit rest
      match exponentPart rest with
      | some (power, rest) => some (fraction, power, rest)
      | none => if rest.head? matches some 'e' | some 'E' then none else some (fraction, 0, rest)
    | rest => do
      let (power, rest) ← exponentPart rest
      some ([], power, rest)
  let scale := power - fraction.length
  let size := Float.ofScientific (value 10 (whole ++ fraction)) (scale < 0) scale.natAbs
  if size.isInf && minus != some true then none else some (float, rest)

def namedFloat (cs : List Char) : Option (Toml × List Char) :=
  match (sign cs).2 with
  | 'i' :: 'n' :: 'f' :: rest | 'n' :: 'a' :: 'n' :: rest => some (float, rest)
  | _ => none

/-- A fixed count of digits whose value lies between two bounds. -/
def fixed (count low high : Nat) (cs : List Char) : Option (Nat × List Char) :=
  let ds := cs.take count
  if ds.length = count && ds.all Char.isDigit && low ≤ value 10 ds && value 10 ds ≤ high then
    some (value 10 ds, cs.drop count)
  else none

def expect (c : Char) : List Char → Option (List Char)
  | d :: cs => if c = d then some cs else none
  | [] => none

def daysIn (year month : Nat) : Nat :=
  if month = 2 then
    if year % 4 = 0 ∧ (year % 100 ≠ 0 ∨ year % 400 = 0) then 29 else 28
  else if month = 4 ∨ month = 6 ∨ month = 9 ∨ month = 11 then 30
  else 31

def day (cs : List Char) : Option (List Char) := do
  let (year, cs) ← fixed 4 0 9999 cs
  let (month, cs) ← fixed 2 1 12 (← expect '-' cs)
  let (_, cs) ← fixed 2 1 (daysIn year month) (← expect '-' cs)
  return cs

def timeOfDay (cs : List Char) : Option (List Char) := do
  let (_, cs) ← fixed 2 0 23 cs
  let (_, cs) ← fixed 2 0 59 (← expect ':' cs)
  let (_, cs) ← fixed 2 0 60 (← expect ':' cs)
  match cs with
  | '.' :: rest =>
    if (rest.head?.map Char.isDigit).getD false then rest.dropWhile Char.isDigit else none
  | _ => cs

def offset (cs : List Char) : Option (List Char) :=
  match cs with
  | 'Z' :: rest | 'z' :: rest => some rest
  | '+' :: rest | '-' :: rest => do
    let (_, rest) ← fixed 2 0 23 rest
    let (_, rest) ← fixed 2 0 59 (← expect ':' rest)
    return rest
  | _ => some cs

/-- A day, a time of day, or both with an offset from UTC. -/
def moment (cs : List Char) : Option (Toml × List Char) :=
  match day cs with
  | none => (timeOfDay cs).map (date, ·)
  | some rest =>
    match rest with
    | c :: after =>
      if c = 'T' || c = 't' || c = ' ' then
        match timeOfDay after with
        | some rest => (offset rest).map (date, ·)
        | none => some (date, rest)
      else some (date, rest)
    | [] => some (date, [])

/-- A value that is not a list or a table. -/
def scalar (cs : List Char) : Option (Toml × List Char) :=
  match cs with
  | '"' :: _ | '\'' :: _ => do
    let (s, rest) ← quotedText cs
    return (text s, rest)
  | 't' :: 'r' :: 'u' :: 'e' :: rest => some (bool true, rest)
  | 'f' :: 'a' :: 'l' :: 's' :: 'e' :: rest => some (bool false, rest)
  | _ => moment cs <|> decimalFloat cs <|> namedFloat cs <|> number cs

def isBareKey (c : Char) : Bool := c.isAlphanum || c == '-' || c == '_'

def simpleKey (cs : List Char) : Option (String × List Char) :=
  match cs with
  | '"' :: rest => basicBody [] rest
  | '\'' :: rest => literalBody [] rest
  | _ =>
    let (name, rest) := cs.span isBareKey
    if name.isEmpty then none else some (String.ofList name, rest)

/-- Keys with dots between them. -/
def keyPath : Nat → List Char → Option (List String × List Char)
  | 0, _ => none
  | fuel + 1, cs => do
    let (name, rest) ← simpleKey (skipSpace cs)
    match skipSpace rest with
    | '.' :: rest =>
      let (names, rest) ← keyPath fuel rest
      return (name :: names, rest)
    | rest => return ([name], rest)

/-- How far lists and tables may nest, and how many keys a path may have. -/
def nestingLimit : Nat := 80

def key (cs : List Char) : Option (List String × List Char) := keyPath (nestingLimit - 1) cs

def setField (fields : List (String × Toml)) (name : String) (value : Toml) :
    List (String × Toml) :=
  if (fields.lookup name).isSome then
    fields.map fun (n, v) => if n = name then (n, value) else (n, v)
  else fields ++ [(name, value)]

/-- The fields between braces with one more at the end of a path. A table that a dotted key made
may grow by dotted keys, and no other. -/
def addInBraces : List String → Bool → String → Toml → List (String × Toml) →
    Option (List (String × Toml))
  | [], _, name, value, fields =>
    if (fields.lookup name).isSome then none else some (fields ++ [(name, value)])
  | step :: path, _, name, value, fields =>
    match fields.lookup step with
    | none => do
      let inner ← addInBraces path true name value []
      return fields ++ [(step, table .dottedInBraces inner)]
    | some (table .dottedInBraces inner) => do
      let inner ← addInBraces path true name value inner
      return setField fields step (table .dottedInBraces inner)
    | some _ => none

mutual

def parseValue : Nat → Nat → List Char → Option (Toml × List Char)
  | 0, _, _ => none
  | fuel + 1, room, cs =>
    match cs with
    | '[' :: cs =>
      if room = 0 then none
      else do
        let (items, rest) ← parseItems fuel (room - 1) cs
        return (list items, rest)
    | '\x7b' :: cs =>
      if room = 0 then none
      else
        match skipSpace cs with
        | '\x7d' :: rest => some (table .braces [], rest)
        | cs => do
          let (fields, rest) ← parsePairs fuel (room - 1) [] cs
          return (table .braces fields, rest)
    | cs => scalar cs

/-- The items of a list up to its bracket; a comma may follow the last. -/
def parseItems : Nat → Nat → List Char → Option (List Toml × List Char)
  | 0, _, _ => none
  | fuel + 1, room, cs =>
    match skipLines cs.length cs with
    | ']' :: rest => some ([], rest)
    | cs => do
      let (item, rest) ← parseValue fuel room cs
      match skipLines rest.length rest with
      | ',' :: rest =>
        let (items, rest) ← parseItems fuel room rest
        return (item :: items, rest)
      | ']' :: rest => return ([item], rest)
      | _ => none

/-- The pairs between braces, on one line, without a comma after the last. -/
def parsePairs : Nat → Nat → List (String × Toml) → List Char →
    Option (List (String × Toml) × List Char)
  | 0, _, _, _ => none
  | fuel + 1, room, done, cs => do
    let (path, rest) ← key cs
    let rest ← expect '=' (skipSpace rest)
    let (item, rest) ← parseValue fuel room (skipSpace rest)
    let name ← path.getLast?
    let fields ← addInBraces path.dropLast false name item done
    match skipSpace rest with
    | ',' :: rest => parsePairs fuel room fields rest
    | '\x7d' :: rest => return (fields, rest)
    | _ => none

end

end ReleaseGate.Toml
