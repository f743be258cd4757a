/-
# Errors of a single connection

What can go wrong when a physical connection is opened or used, or when a handle
is used after the pool has taken its connection away.
-/

import ConnectionPooling.Text.Word

namespace ConnectionPooling

/-- Why an operation on a connection failed. -/
inductive ConnectionError
  | closed
  | connect (text : String)
  | query (text : String)
  /-- A commit, a rollback or a change of transaction mode failed. -/
  | transaction (text : String)
  /-- The handle no longer stands for a connection. The number names the
  physical connection that it once stood for. -/
  | invalidated (realId : Nat)
  deriving DecidableEq

/-- The kinds of failure. -/
inductive ConnectionError.Kind
  | closed | connect | query | transaction | invalidated
  deriving DecidableEq

namespace ConnectionError

/-- The name of a kind. -/
def Kind.name : Kind → String
  | .closed => "Closed"
  | .connect => "Connect"
  | .query => "Query"
  | .transaction => "Transaction"
  | .invalidated => "Invalidated"

/-- The kind with a given name. -/
def Kind.ofName? (name : String) : Option Kind :=
  [Kind.closed, .connect, .query, .transaction, .invalidated].find? fun kind =>
    kind.name == name

/-- The kind of an error. -/
def kind : ConnectionError → Kind
  | .closed => .closed
  | .connect _ => .connect
  | .query _ => .query
  | .transaction _ => .transaction
  | .invalidated _ => .invalidated

/-- The error of a kind with a text that describes it. A lost handle is described
by the number of its connection, which is zero if the text is not one. -/
def ofKind (kind : Kind) (text : String) : ConnectionError :=
  match kind with
  | .closed => .closed
  | .connect => .connect text
  | .query => .query text
  | .transaction => .transaction text
  | .invalidated => .invalidated ((Text.readWord text).getD 0)

end ConnectionError

/-- The text that a reader sees. -/
def ConnectionError.message : ConnectionError → String
  | .closed => "connection is closed"
  | .connect text => "connect failed: " ++ text
  | .query text => "query failed: " ++ text
  | .transaction text => "transaction error: " ++ text
  | .invalidated realId =>
      "connection " ++ toString realId ++ " has been invalidated and can no longer be used"

end ConnectionPooling
