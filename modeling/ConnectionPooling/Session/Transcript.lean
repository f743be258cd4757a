/-
# Transcripts

What is seen of the work on a simulated driver: the part of the journal that was
written since some earlier moment.
-/

import ConnectionPooling.Connection.Exchange
import ConnectionPooling.Simulation.Driver

namespace ConnectionPooling.Simulation

/-- Whether a record is seen: everything is, except what a simulated connection
had no part in. -/
def State.sees (driver : State) (record : Record) : Bool :=
  match record.entry with
  | .call _ conn request _ => driver.takesPart conn request
  | _ => true

/-- The records that were written since the journal had `before` of them, the
earliest first. -/
def recordsSince (before : Nat) (env : Environment State) : List Record :=
  (env.journal.take (env.journal.length - before)).reverse.filter env.driver.sees

end ConnectionPooling.Simulation
