/-
# Transaction isolation

The isolation levels that a connection can be set to, with the three ways in
which a level is written: the name in configuration files, the words shown to a
reader, and the name shown to a person who inspects a value.
-/

namespace ConnectionPooling

/-- A transaction isolation level. -/
inductive Isolation
  /-- Transactions are not supported. -/
  | none
  /-- Changes of other transactions are visible before they are committed. -/
  | readUncommitted
  /-- Only committed changes are visible. -/
  | readCommitted
  /-- A row that was read once reads the same again. -/
  | repeatableRead
  /-- Transactions behave as if they ran one after another. -/
  | serializable
  deriving DecidableEq

namespace Isolation

/-- All levels, from the weakest to the strongest. -/
def all : List Isolation :=
  [.none, .readUncommitted, .readCommitted, .repeatableRead, .serializable]

/-- The name of a level in configuration files. -/
def configName : Isolation → String
  | .none => "none"
  | .readUncommitted => "read_uncommitted"
  | .readCommitted => "read_committed"
  | .repeatableRead => "repeatable_read"
  | .serializable => "serializable"

/-- The level in words. -/
def words : Isolation → String
  | .none => "none"
  | .readUncommitted => "read uncommitted"
  | .readCommitted => "read committed"
  | .repeatableRead => "repeatable read"
  | .serializable => "serializable"

/-- The name of a level as inspection shows it. -/
def shownName : Isolation → String
  | .none => "None"
  | .readUncommitted => "ReadUncommitted"
  | .readCommitted => "ReadCommitted"
  | .repeatableRead => "RepeatableRead"
  | .serializable => "Serializable"

/-- The level with a given name in configuration files. -/
def ofConfigName? (name : String) : Option Isolation :=
  all.find? fun level => level.configName == name

/-- Reading the configuration name of a level gives that level. -/
@[simp]
theorem ofConfigName?_configName (level : Isolation) :
    ofConfigName? level.configName = some level := by
  cases level <;> decide

end Isolation

end ConnectionPooling
