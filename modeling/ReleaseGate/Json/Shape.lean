import ReleaseGate.Json.Printer
import ReleaseGate.Json.Reader
import ReleaseGate.Text.Quoted

namespace ReleaseGate.Json

/-- What a document should look like. A record may also be written as a list of its fields in
order; the title names it in messages, and the flag of a field says that it must be there. -/
inductive Shape where
  | anything
  | text
  | flag
  | list (item : Shape)
  | map (value : Shape)
  | record (title : String) (fields : List (String × Bool × Shape))

/-- Why a document was refused. -/
inductive Refusal where
  | flaw (category : Category)
  | data (message : String)
  | tooLong (length : Nat)
  deriving DecidableEq, Repr

namespace Refusal

/-- In a text, what follows a list that should have ended is no part of it. -/
def category : Refusal → Category
  | flaw c => c
  | data _ => .wrongData
  | tooLong _ => .syntaxError

def message : Refusal → String
  | flaw _ => ""
  | data message => message
  | tooLong length => "invalid length " ++ toString length ++ ", expected fewer elements in array"

end Refusal

namespace Shape

def expected : Shape → String
  | anything => "any value"
  | text => "a string"
  | flag => "a boolean"
  | list _ => "a sequence"
  | map _ => "a map"
  | record title _ => "struct " ++ title

/-- A value of another type than the shape's. -/
def mistyped (shape : Shape) (found : String) : Refusal :=
  .data ("invalid type: " ++ found ++ ", expected " ++ shape.expected)

end Shape

def ticked (s : String) : String := "\x60" ++ s ++ "\x60"

def Number.described : Number → String
  | whole n => "integer " ++ ticked (toString n)
  | negative n => "integer " ++ ticked ("-" ++ toString n)
  | real bits => "floating point " ++ ticked (Text.Double.text bits)

def tooShort (title : String) (fields found : Nat) : Refusal :=
  .data ("invalid length " ++ toString found ++ ", expected struct " ++ title ++ " with " ++
    toString fields ++ if fields = 1 then " element" else " elements")

/-- The first field that must be there and is not. -/
def absent? (slots : List (String × Bool × Shape)) (found : List (String × Json)) :
    Option String :=
  (slots.find? fun (name, needed, _) => needed && (found.lookup name).isNone).map (·.1)

def Items.length : Items → Nat
  | closed | broken _ => 0
  | item _ rest => rest.length + 1

/-- A nesting that may still be entered; `none` sets no limit. -/
def deeper (room : Option Nat) : Except Refusal (Option Nat) :=
  match room with
  | none => .ok none
  | some n => if n ≤ 1 then .error (.flaw .syntaxError) else .ok (some (n - 1))

mutual

/-- A document that is passed over need only be JSON, however deep. -/
def Document.skip : Document → Except Refusal Unit
  | .list items => items.skip
  | .record fields => fields.skip
  | .flawed flaw => .error (.flaw flaw.skipped)
  | _ => .ok ()

def Items.skip : Items → Except Refusal Unit
  | .closed => .ok ()
  | .broken flaw => .error (.flaw flaw.skipped)
  | .item value rest =>
    match value.skip with
    | .ok () => rest.skip
    | .error e => .error e

def Fields.skip : Fields → Except Refusal Unit
  | .closed => .ok ()
  | .broken flaw => .error (.flaw flaw.skipped)
  | .field _ value rest =>
    match value.skip with
    | .ok () => rest.skip
    | .error e => .error e

end

mutual

/-- The value of a document of the given shape. Documents are looked at from the front, so the
first thing wrong is the refusal. A record keeps the fields of the shape and passes over all
others; a map keeps the last value of a key. -/
def Document.decode (room : Option Nat) (shape : Shape) : Document → Except Refusal Json
  | .flawed flaw => .error (.flaw flaw.read)
  | .null =>
    match shape with
    | .anything => .ok .null
    | _ => .error (shape.mistyped "null")
  | .bool b =>
    match shape with
    | .anything | .flag => .ok (.bool b)
    | _ => .error (shape.mistyped ("boolean " ++ ticked (toString b)))
  | .number none => .error (.flaw .syntaxError)
  | .number (some n) =>
    match shape with
    | .anything => .ok (.number n)
    | _ => .error (shape.mistyped n.described)
  | .text none => .error (.flaw .syntaxError)
  | .text (some s) =>
    match shape with
    | .anything | .text => .ok (.text s)
    | _ => .error (shape.mistyped ("string " ++ Text.quoted s))
  | .list items =>
    match shape with
    | .anything | .list _ => do
      let item := match shape with
        | .list item => item
        | _ => .anything
      return .list (← items.decodeAll (← deeper room) item)
    | .record title slots => do
      return .record (← items.decodeSlots (← deeper room) title slots.length items.length 0 slots)
    | _ => .error (shape.mistyped "sequence")
  | .record fields =>
    match shape with
    | .anything | .map _ => do
      let value := match shape with
        | .map value => value
        | _ => .anything
      return .record (← fields.decodeMap (← deeper room) value [])
    | .record _ slots => do
      return .record (← fields.decodeRecord (← deeper room) slots [])
    | _ => .error (shape.mistyped "map")

def Items.decodeAll (room : Option Nat) (shape : Shape) : Items → Except Refusal (List Json)
  | .closed => .ok []
  | .broken flaw => .error (.flaw flaw.read)
  | .item value rest =>
    match value.decode room shape with
    | .error e => .error e
    | .ok first =>
      match rest.decodeAll room shape with
      | .error e => .error e
      | .ok others => .ok (first :: others)

def Items.decodeSlots (room : Option Nat) (title : String) (count length : Nat) :
    Nat → List (String × Bool × Shape) → Items → Except Refusal (List (String × Json))
  | _, [], .closed => .ok []
  | _, _ :: _, .broken flaw => .error (.flaw flaw.read)
  | _, [], .broken flaw => .error (.flaw flaw.read)
  | _, [], .item _ _ => .error (.tooLong length)
  | found, slot :: slots, .closed =>
    match (slot :: slots).findIdx? (·.2.1) with
    | some later => .error (tooShort title count (found + later))
    | none => .ok []
  | found, (name, _, shape) :: slots, .item value rest =>
    match value.decode room shape with
    | .error e => .error e
    | .ok first =>
      match rest.decodeSlots room title count length (found + 1) slots with
      | .error e => .error e
      | .ok others => .ok ((name, first) :: others)

def Fields.decodeMap (room : Option Nat) (shape : Shape) (done : List (String × Json)) :
    Fields → Except Refusal (List (String × Json))
  | .closed => .ok done
  | .broken flaw => .error (.flaw flaw.read)
  | .field none _ _ => .error (.flaw .syntaxError)
  | .field (some key) value rest =>
    match value.decode room shape with
    | .error e => .error e
    | .ok value => rest.decodeMap room shape (Dict.put key value done)

def Fields.decodeRecord (room : Option Nat) (slots : List (String × Bool × Shape))
    (done : List (String × Json)) : Fields → Except Refusal (List (String × Json))
  | .closed =>
    match absent? slots done with
    | some name => .error (.data ("missing field " ++ ticked name))
    | none => .ok done
  | .broken flaw => .error (.flaw flaw.read)
  | .field none _ _ => .error (.flaw .syntaxError)
  | .field (some key) value rest =>
    match slots.lookup key with
    | none =>
      match value.skip with
      | .error e => .error e
      | .ok () => rest.decodeRecord room slots done
    | some (_, shape) =>
      if (done.lookup key).isSome then .error (.data ("duplicate field " ++ ticked key))
      else
        match value.decode room shape with
        | .error e => .error e
        | .ok value => rest.decodeRecord room slots (Dict.put key value done)

end

/-- How deep the lists and records of a text may nest. -/
def nestingLimit : Nat := 128

/-- The value of a text that should have the given shape. -/
def ofText (shape : Shape) (text : String) : Except Refusal Json := do
  let (document, trailing) := Document.ofText text
  let value ← document.decode (some nestingLimit) shape
  if trailing then .error (.flaw .syntaxError) else .ok value

/-- The value of a text whose shape is judged only once all of it has been read. -/
def ofWholeText (shape : Shape) (text : String) : Except Refusal Json := do
  let (document, trailing) := Document.ofText text
  let _ ← document.decode (some nestingLimit) .anything
  match document.decode none shape with
  | .error e => .error (.data e.message)
  | .ok value => if trailing then .error (.flaw .syntaxError) else .ok value

/-- A value read again as one of the given shape. -/
def reshape (shape : Shape) (value : Json) : Except Refusal Json :=
  value.document.decode none shape

end ReleaseGate.Json
