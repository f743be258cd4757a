/-
# Reading TOML

The document that a text in TOML stands for. A text is read statement by
statement, and the statements are put together into one tree. Lists and tables
between braces nest up to a fixed depth.
-/

import ConnectionPooling.Toml.Moment
import ConnectionPooling.Toml.Tree

namespace ConnectionPooling.Toml

open Document (Value)

/-- How a sequence of items goes on behind one of them. -/
inductive Next
  /-- With another item. -/
  | item (rest : List Char)
  /-- Not at all. -/
  | finish (rest : List Char)

/-- A sequence of items. After each of them `next?` says how it goes on. Every
item must take something off the text. -/
def sequence? {α : Type} (item? : Scanner α) (next? : List Char → Option Next)
    (cs : List Char) : Option (List α × List Char) :=
  match item? cs with
  | none => none
  | some (item, rest) =>
      match next? rest with
      | none => none
      | some (.finish rest) => some ([item], rest)
      | some (.item rest) =>
          if rest.length < cs.length then
            (sequence? item? next? rest).map fun (items, rest) => (item :: items, rest)
          else none
termination_by cs.length

/-- Behind an item of a list: a comma and another item, or the closing bracket,
before which a comma may stand. -/
def nextOfList? (cs : List Char) : Option Next :=
  match skipLines cs with
  | ',' :: rest =>
      match skipLines rest with
      | ']' :: rest => some (.finish rest)
      | rest => some (.item rest)
  | ']' :: rest => some (.finish rest)
  | _ => none

/-- The rest of a list, behind the opening bracket. Blanks, comments and line
ends may stand around its items. -/
def list? (value? : Scanner Value) : Scanner Value := fun cs =>
  match skipLines cs with
  | ']' :: rest => some (.list [], rest)
  | cs => (sequence? value? nextOfList? cs).map fun (items, rest) => (.list items, rest)

/-- A key, an equals sign and a value. -/
def assignment? (value? : Scanner Value) : Scanner (List String × String × Value) :=
  fun cs => do
    let ((path, name), rest) ← key? cs
    let rest ← expect? '=' rest
    let (value, rest) ← value? (skipBlanks rest)
    some ((path, name, value), rest)

/-- Behind an assignment between braces: a comma and another one, or the closing
brace. -/
def nextOfTable? (cs : List Char) : Option Next :=
  match skipBlanks cs with
  | ',' :: rest => some (.item rest)
  | '\x7d' :: rest => some (.finish rest)
  | _ => none

/-- The rest of a table between braces, behind the opening one. -/
def table? (value? : Scanner Value) : Scanner Value := fun cs =>
  match skipBlanks cs with
  | '\x7d' :: rest => some (.table [], rest)
  | cs => do
      let (assignments, rest) ← sequence? (assignment? value?) nextOfTable? cs
      let table ← inlineTable? assignments
      some (table, rest)

/-- A truth value. -/
def bool? : Scanner Value
  | 't' :: 'r' :: 'u' :: 'e' :: rest => some (.bool true, rest)
  | 'f' :: 'a' :: 'l' :: 's' :: 'e' :: rest => some (.bool false, rest)
  | _ => none

/-- A value that is no list and no table. -/
def scalar? : Scanner Value := fun cs =>
  match cs with
  | [] => none
  | c :: _ =>
      if c = '\x22' || c = '\x27' then
        (text? cs).map fun (text, rest) => (.text text, rest)
      else if c = 't' || c = 'f' then bool? cs
      else if looksLikeDate cs || looksLikeTime cs then moment? cs
      else number? cs

/-- A value that nests up to the given depth. -/
def value? : Nat → Scanner Value
  | 0, cs =>
      match cs with
      | '[' :: _ => none
      | '\x7b' :: _ => none
      | cs => scalar? cs
  | depth + 1, cs =>
      match cs with
      | '[' :: rest => list? (fun cs => value? depth cs) rest
      | '\x7b' :: rest => table? (fun cs => value? depth cs) rest
      | cs => scalar? cs

/-- A header: the key between brackets, and whether the brackets are doubled. -/
def header? : Scanner Statement
  | '[' :: '[' :: rest => do
      let ((path, name), rest) ← key? rest
      let rest ← expect? ']' rest
      let rest ← expect? ']' rest
      some (.beginRow path name, rest)
  | '[' :: rest => do
      let ((path, name), rest) ← key? rest
      let rest ← expect? ']' rest
      some (.beginTable path name, rest)
  | _ => none

/-- A statement: a header or an assignment. -/
def statement? : Scanner Statement := fun cs =>
  match cs with
  | '[' :: _ => header? cs
  | cs => (assignment? (value? depthLimit) cs).map fun ((path, name, value), rest) =>
      (.assign path name value, rest)

/-- All statements of a text. Lines without one are skipped, and behind each
statement its line must end. -/
def statements? (cs : List Char) : Option (List Statement) :=
  match skipBlanks cs with
  | [] => some []
  | cs' =>
      match cs'.head? with
      | some '\n' | some '\r' | some '#' =>
          match endOfLine? cs' with
          | none => none
          | some rest => if rest.length < cs.length then statements? rest else none
      | _ => do
          let (statement, rest) ← statement? cs'
          let rest ← endOfLine? rest
          if rest.length < cs.length then
            (statements? rest).map (statement :: ·)
          else none
termination_by cs.length

/-- The text without a byte order mark in front. -/
def skipMark : List Char → List Char
  | '\uFEFF' :: rest => rest
  | cs => cs

/-- The document that a text stands for. -/
def document? (text : String) : Option Value :=
  (statements? (skipMark text.toList)).bind Tree.ofStatements?

/-- How TOML differs from other ways to write a document. -/
def dialect : Document.Dialect where
  positional := true
  isUnit
    | .table [] => true
    | .list [] => true
    | _ => false

end ConnectionPooling.Toml
