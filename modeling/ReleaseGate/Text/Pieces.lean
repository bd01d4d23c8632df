import ReleaseGate.Text.Blank

namespace ReleaseGate.Text

/-- The pieces between separators. A text without a separator is one piece. -/
def pieces (sep : Char) : List Char → List (List Char)
  | [] => [[]]
  | c :: cs =>
    if c = sep then [] :: pieces sep cs
    else
      match pieces sep cs with
      | [] => [[c]]
      | first :: rest => (c :: first) :: rest

/-- The text before the first separator, and what follows it if there is one. -/
def cut (sep : Char) : List Char → List Char × Option (List Char)
  | [] => ([], none)
  | c :: cs =>
    if c = sep then ([], some cs)
    else ((c :: (cut sep cs).1), (cut sep cs).2)

/-- The text without the first occurrence of `mark`, if `mark` occurs. -/
def without? (mark : List Char) : List Char → Option (List Char)
  | [] => none
  | c :: cs =>
    match mark.isPrefixOf? (c :: cs) with
    | some rest => some rest
    | none => (without? mark cs).map (c :: ·)

/-- The text without the slashes at its end. -/
def withoutEndSlashes (s : String) : String :=
  String.ofList (dropEndWhile (· == '/') s.toList)

/-- The text without the slashes at either end. -/
def withoutOuterSlashes (s : String) : String :=
  String.ofList (dropEndWhile (· == '/') (s.toList.dropWhile (· == '/')))

/-- An ASCII capital becomes its small letter; every other character stays. -/
def lowerAscii (s : String) : String := String.ofList (s.toList.map Char.toLower)

end ReleaseGate.Text
