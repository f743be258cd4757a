/-
# Configuration files in TOML

Configuration files as text: reading one, checking it, and writing one. Whatever
the reader does not know it ignores, as long as the text is TOML.
-/

import ConnectionPooling.Config.File
import ConnectionPooling.Toml.Reader
import ConnectionPooling.Toml.Writer

namespace ConnectionPooling.PoolFile

/-- Why a configuration could not be read. -/
inductive ReadError
  /-- The text is not TOML, or says something else than a configuration. -/
  | malformed
  /-- The configuration has a flaw. -/
  | invalid (flaw : Flaw)
  deriving DecidableEq

/-- Accept a file without flaws. -/
def checked (file : PoolFile) : Except ReadError PoolFile :=
  match file.flaw? with
  | none => .ok file
  | some flaw => .error (.invalid flaw)

/-- Read a configuration and check it. -/
def parse (text : String) : Except ReadError PoolFile :=
  match (Toml.document? text).bind (ofValue? Toml.dialect) with
  | none => .error .malformed
  | some file => file.checked

/-- Why a configuration could not be loaded from a file. -/
inductive LoadError
  /-- There is no such file. -/
  | notFound
  /-- What the file holds is not text. -/
  | notText
  /-- The text could not be read. -/
  | unreadable (error : ReadError)
  deriving DecidableEq

/-- Read a configuration from the bytes of a file, if there is one. -/
def load (content : Option ByteArray) : Except LoadError PoolFile :=
  match content with
  | none => .error .notFound
  | some bytes =>
      match String.fromUTF8? bytes with
      | none => .error .notText
      | some text => (parse text).mapError .unreadable

/-- A line for each property. -/
def writeProperties (properties : Properties) : List Char :=
  properties.pairs.flatMap fun pair =>
    Toml.writeAssignment pair.1 (Toml.writeText pair.2)

/-- A line for a field, if there is something to say. -/
def writeField {α : Type} (name : String) (write : α → List Char) : Option α → List Char
  | none => []
  | some value => Toml.writeAssignment name (write value)

/-- A truth value. -/
def writeBool (value : Bool) : List Char :=
  (toString value).toList

/-- A whole number. -/
def writeNat (value : Nat) : List Char :=
  (toString value).toList

/-- The header of a table. -/
def writeHeader (path : String) : List Char :=
  '[' :: path.toList ++ [']', '\n']

/-- The part about opening, and its properties as a table inside it. -/
def writeSource (part : SourceSection) : List Char :=
  writeHeader "datasource" ++
  writeField "url" Toml.writeText (some part.url) ++
  writeField "username" Toml.writeText part.username ++
  writeField "password" Toml.writeText part.password ++
  writeField "auto_commit" writeBool part.autoCommit ++
  writeField "isolation" (fun level => Toml.writeText level.configName) part.isolation ++
  writeField "network_timeout_ms" writeNat part.networkTimeoutMillis ++
  match part.properties with
  | none => []
  | some properties =>
      '\n' :: writeHeader "datasource.properties" ++ writeProperties properties

/-- The part about pooling. -/
def writePolicy (part : PolicySection) : List Char :=
  writeHeader "pool" ++
  writeField "max_active" writeNat part.maxActive ++
  writeField "max_idle" writeNat part.maxIdle ++
  writeField "max_checkout_time_ms" writeNat part.maxCheckoutMillis ++
  writeField "time_to_wait_ms" writeNat part.timeToWaitMillis ++
  writeField "local_bad_connection_tolerance" writeNat part.tolerance ++
  writeField "ping_enabled" writeBool part.pingEnabled ++
  writeField "ping_query" Toml.writeText part.pingQuery ++
  writeField "ping_not_used_for_ms" writeNat part.pingNotUsedForMillis

/-- All whole numbers of a file. -/
def numbers (file : PoolFile) : List Nat :=
  let policy := file.policy.getD {}
  [file.source.networkTimeoutMillis, policy.maxActive, policy.maxIdle,
    policy.maxCheckoutMillis, policy.timeToWaitMillis, policy.tolerance,
    policy.pingNotUsedForMillis].filterMap id

/-- The text of a file. There is none if a number does not fit into a signed
64-bit word, which is all that TOML promises to hold. -/
def render (file : PoolFile) : Option String :=
  if file.numbers.all (· < Nat.pow 2 63) then
    some (String.ofList (writeSource file.source ++
      match file.policy with
      | none => []
      | some policy => '\n' :: writePolicy policy))
  else none

end ConnectionPooling.PoolFile
