/-
# Shown values

The readable form of a value that is printed for a person who inspects it: a
record with its fields, a value inside a named wrapping, or a plain word. A
record can be printed on one line or with one field on a line.
-/

namespace ConnectionPooling.Text

/-- What is printed of a value. -/
inductive Shown
  /-- A word that is printed as it is. -/
  | word (text : String)
  /-- One value inside a named wrapping. -/
  | wrapped (name : String) (inner : Shown)
  /-- A record with its fields in order. When `whole` is false the record has
  further fields that are not shown, and two dots say so. -/
  | record (name : String) (fields : List (String × Shown)) (whole : Bool)

namespace Shown

/-- A value that may be missing. -/
def ofOption {α : Type} (shown : α → Shown) : Option α → Shown
  | none => .word "None"
  | some value => .wrapped "Some" (shown value)

/-- A truth value. -/
def ofBool (value : Bool) : Shown :=
  .word (toString value)

/-- A count. -/
def ofNat (value : Nat) : Shown :=
  .word (toString value)

mutual

/-- Everything on one line, fields separated by commas. -/
def inline : Shown → String
  | .word text => text
  | .wrapped name inner => name ++ "(" ++ inner.inline ++ ")"
  | .record name fields whole =>
      let parts := inlineFields fields ++ (if whole then [] else [".."])
      if parts.isEmpty then name
      else name ++ " \x7b " ++ String.intercalate ", " parts ++ " \x7d"

/-- The fields of a record, each as its name and value on one line. -/
def inlineFields : List (String × Shown) → List String
  | [] => []
  | (name, value) :: rest => (name ++ ": " ++ value.inline) :: inlineFields rest

end

/-- The white space in front of a line at nesting depth `depth`. -/
def margin (depth : Nat) : String :=
  String.ofList (List.replicate (4 * depth) ' ')

mutual

/-- One field or wrapped value on a line, indented by four blanks for each
record around it and followed by a comma. -/
def indented (depth : Nat) : Shown → String
  | .word text => text
  | .wrapped name inner =>
      name ++ "(\n" ++ margin (depth + 1) ++ inner.indented (depth + 1) ++ ",\n" ++
        margin depth ++ ")"
  | .record name fields whole =>
      let lines := indentedFields (depth + 1) fields ++
        (if whole then [] else [margin (depth + 1) ++ "..\n"])
      if lines.isEmpty then name
      else name ++ " \x7b\n" ++ String.join lines ++ margin depth ++ "\x7d"

/-- The fields of a record, each on a line of its own. -/
def indentedFields (depth : Nat) : List (String × Shown) → List String
  | [] => []
  | (name, value) :: rest =>
      (margin depth ++ name ++ ": " ++ value.indented depth ++ ",\n") ::
        indentedFields depth rest

end

/-- The printed form, spread over lines or kept on one. -/
def render (spread : Bool) (shown : Shown) : String :=
  if spread then shown.indented 0 else shown.inline

end Shown

end ConnectionPooling.Text
