/-
# The tree of a TOML document

How the statements of a document make up one tree. A table may be named by a
header, by headers of tables inside it, or by the dots of a key, and the three
do not mix freely: what a header named is not extended by dotted keys, what
dotted keys made is not named by a header, and no name is given twice.
-/

import ConnectionPooling.Document.Value

namespace ConnectionPooling.Toml

open Document (Value)

/-- How a table came to be. -/
inductive Origin
  /-- It was named by a header of its own. -/
  | header
  /-- It lies on the way to a table that was named by a header. -/
  | passed
  /-- It was made by the dots of a key. -/
  | dotted
  deriving DecidableEq

/-- A node of the tree. -/
inductive Node
  /-- A finished value. -/
  | value (value : Value)
  /-- A table that may still grow. -/
  | table (origin : Origin) (entries : List (String × Node))
  /-- A list of tables: the ones before the last, the latest first, and the last
  one, which may still grow. -/
  | tables (before : List (List (String × Node))) (last : List (String × Node))

/-- The named nodes of a table. -/
abbrev Entries := List (String × Node)

namespace Entries

/-- Change the node that a name stands for, or add one if there is none. -/
def alter (name : String) (change : Option Node → Option Node) : Entries → Option Entries
  | [] => (change none).map fun node => [(name, node)]
  | (n, node) :: rest =>
      if n = name then (change (some node)).map fun node => (n, node) :: rest
      else (alter name change rest).map ((n, node) :: ·)

/-- Change the table at the end of a path, which is given with its origin. A
missing table on the way is made. A list of tables stands for its last one.
Nothing leads through a value, and the dots of a key do not lead through a table
that has a header. -/
def alterAt (dotted : Bool) (change : Origin → Entries → Option Entries) :
    List String → Origin → Entries → Option Entries
  | [], origin, entries => change origin entries
  | name :: path, _, entries =>
      entries.alter name fun
        | none =>
            let origin := if dotted then Origin.dotted else .passed
            (alterAt dotted change path origin []).map (.table origin)
        | some (.table origin inner) =>
            if dotted && origin = .header then none
            else (alterAt dotted change path origin inner).map (.table origin)
        | some (.tables before last) =>
            (alterAt dotted change path .header last).map (.tables before)
        | some (.value _) => none

/-- Give a value to a name that has none. -/
def add (name : String) (value : Value) (entries : Entries) : Option Entries :=
  entries.alter name fun
    | none => some (.value value)
    | some _ => none

/-- Give a value to a dotted key. The table that its dots lead to must have been
made by dots. -/
def put (path : List String) (name : String) (value : Value) (entries : Entries) :
    Option Entries :=
  entries.alterAt true
    (fun origin entries =>
      if path.isEmpty || origin = .dotted then entries.add name value else none)
    path .header

/-- Begin a table with a header. It may have been passed on the way to another
one before, but nothing else of that name may be there. -/
def beginTable (path : List String) (name : String) (entries : Entries) : Option Entries :=
  entries.alterAt false
    (fun _ entries => entries.alter name fun
      | none => some (.table .header [])
      | some (.table .passed inner) => some (.table .header inner)
      | _ => none)
    path .header

/-- Begin a further table of a list of tables. -/
def beginRow (path : List String) (name : String) (entries : Entries) : Option Entries :=
  entries.alterAt false
    (fun _ entries => entries.alter name fun
      | none => some (.tables [] [])
      | some (.tables before last) => some (.tables (last :: before) [])
      | _ => none)
    path .header

end Entries

mutual

/-- The value that a node stands for. -/
def Node.toValue : Node → Value
  | .value value => value
  | .table _ entries => .table (Entries.toPairs entries)
  | .tables before last => .list (Entries.toRows before ++ [.table (Entries.toPairs last)])

/-- The named values that the nodes of a table stand for. -/
def Entries.toPairs : List (String × Node) → List (String × Value)
  | [] => []
  | (name, node) :: rest => (name, node.toValue) :: Entries.toPairs rest

/-- The values of tables that are given with the latest first. -/
def Entries.toRows : List (List (String × Node)) → List Value
  | [] => []
  | entries :: rest => Entries.toRows rest ++ [.table (Entries.toPairs entries)]

end

/-- A statement of a document. -/
inductive Statement
  /-- A value for a key, in the table begun last. -/
  | assign (path : List String) (name : String) (value : Value)
  /-- The header of a table. -/
  | beginTable (path : List String) (name : String)
  /-- The header of a further table of a list. -/
  | beginRow (path : List String) (name : String)

/-- A document that may still grow. -/
structure Tree where
  /-- The tables so far. -/
  entries : Entries := []
  /-- Where the table lies that was begun last. -/
  here : List String := []

namespace Tree

/-- The tree with one more statement. -/
def follow (tree : Tree) : Statement → Option Tree
  | .assign path name value =>
      (tree.entries.alterAt false (fun _ entries => entries.put path name value)
        tree.here .header).map fun entries => { tree with entries := entries }
  | .beginTable path name =>
      (tree.entries.beginTable path name).map fun entries =>
        { entries := entries, here := path ++ [name] }
  | .beginRow path name =>
      (tree.entries.beginRow path name).map fun entries =>
        { entries := entries, here := path ++ [name] }

/-- The document that statements make up, unless they contradict each other. -/
def ofStatements? (statements : List Statement) : Option Value :=
  (statements.foldlM follow {}).map fun tree => .table (Entries.toPairs tree.entries)

end Tree

/-- The table that assignments between braces make up. -/
def inlineTable? (assignments : List (List String × String × Value)) : Option Value :=
  (assignments.foldlM (fun entries assignment =>
      Entries.put assignment.1 assignment.2.1 assignment.2.2 entries) []).map fun entries =>
    .table (Entries.toPairs entries)

end ConnectionPooling.Toml
