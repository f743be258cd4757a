/-
# Documents

The values that a configuration document is made of, whatever notation it was
written in, and how fields of a known type are read from them. Reading says only
whether a value fits; what exactly is wrong with one that does not is left to
the notation.
-/

import ConnectionPooling.Properties
import ConnectionPooling.Connection.Isolation

namespace ConnectionPooling.Document

/-- A value in a document. -/
inductive Value
  | null
  | bool (value : Bool)
  /-- A whole number written as such. -/
  | int (value : Int)
  /-- Any other number. Nothing that is configured is read from one. -/
  | real
  | text (value : String)
  | list (items : List Value)
  | table (entries : List (String × Value))
  deriving Inhabited

/-- In what notations differ when the same document is read. -/
structure Dialect where
  /-- Whether a record may be written as the list of its fields. -/
  positional : Bool
  /-- What may stand where nothing is to be said, beside a name. -/
  isUnit : Value → Bool

namespace Value

/-- A truth value. -/
def bool? : Value → Option Bool
  | .bool value => some value
  | _ => none

/-- A text. -/
def text? : Value → Option String
  | .text value => some value
  | _ => none

/-- A whole number that fits into an unsigned 64-bit word. -/
def word? : Value → Option Nat
  | .int value => if 0 ≤ value ∧ value < UInt64.size then some value.toNat else none
  | _ => none

/-- A list of named texts. -/
def textPairs? : List (String × Value) → Option (List (String × String))
  | [] => some []
  | (name, .text value) :: rest => (textPairs? rest).map ((name, value) :: ·)
  | _ => none

/-- Driver properties. -/
def properties? : Value → Option Properties
  | .table entries => (textPairs? entries).map Properties.ofList
  | _ => none

/-- An isolation level: its name, or a table in which only the name stands and
nothing is said about it. -/
def isolation? (style : Dialect) : Value → Option Isolation
  | .text name => Isolation.ofConfigName? name
  | .table [(name, value)] =>
      if style.isUnit value then Isolation.ofConfigName? name else none
  | _ => none

/-- Access to the fields of a record by name. A record is a table, which may
hold other entries as well; or, where the notation allows it, a list of all its
fields in order. -/
def record? (style : Dialect) (names : List String) : Value →
    Option (String → Option Value)
  | .table entries => some fun name => entries.lookup name
  | .list items =>
      if style.positional && names.length ≤ items.length then
        some fun name => (names.zip items).lookup name
      else none
  | _ => none

/-- A field that must be there. -/
def required {α : Type} (read : Value → Option α) (field : Option Value) : Option α :=
  field.bind read

/-- A field that may be missing. If it is there and holds a value, the value
must fit. -/
def optional {α : Type} (read : Value → Option α) : Option Value → Option (Option α)
  | none | some .null => some none
  | some value => (read value).map some

end Value

end ConnectionPooling.Document
