import Mathlib.Data.List.Basic

/-!
# JSON values

A parsed document as a tree. An object is the list of its members in the order of
the text, which may name a key more than once.
-/

set_option autoImplicit false
set_option linter.all false

namespace NazoAuthCtl.JsonValue

inductive JsonNumber where
  | natural (value : ℕ)
  | negative (value : ℕ)
  | float (text : String)
  deriving DecidableEq, Repr

inductive Json where
  | null
  | bool (value : Bool)
  | number (value : JsonNumber)
  | string (value : String)
  | array (values : List Json)
  | object (members : List (String × Json))

abbrev Members := List (String × Json)

/-- The first member under a key. -/
def member : Members → String → Option Json
  | [], _ => none
  | (name, value) :: rest, key => if name = key then some value else member rest key

namespace Json

def asString : Json → Option String
  | .string value => some value
  | _ => none

def asBool : Json → Option Bool
  | .bool value => some value
  | _ => none

def asArray : Json → Option (List Json)
  | .array values => some values
  | _ => none

def asObject : Json → Option Members
  | .object members => some members
  | _ => none

def isNull : Json → Bool
  | .null => true
  | _ => false

def get (value : Json) (key : String) : Option Json :=
  match value with
  | .object members => member members key
  | _ => none

/-- The value under one key after the other. -/
def pointer : Json → List String → Option Json
  | value, [] => some value
  | value, key :: keys =>
    match value.get key with
    | some inner => pointer inner keys
    | none => none

end Json

end NazoAuthCtl.JsonValue
