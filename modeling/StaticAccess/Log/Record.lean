import StaticAccess.Log.Level
import StaticAccess.Order.Ranked

/-!
# Log records

This models the records of the `logger` of the storage and of the reader of `.env` files, and the
`format` of `setup_logging`. A record keeps its text as it was put together; the place in the
program that it comes from is left out.

## Main definitions

- `Logger`: where records are written.
- `Record`: a message with its level and its logger.
- `Record.line`: the line that a handler writes for a record.
- `Record.bareLine`: the line that is written for a record without a handler.
-/

namespace StaticAccess

/-- Where records are written. -/
inductive Logger where
  /-- The logger of additions to graphs. -/
  | graphs
  /-- The logger of the reading of assignment files. -/
  | assignments
  deriving DecidableEq, Repr

/-- The name of a logger. -/
def Logger.name : Logger → String
  | .graphs => "static_usage.graph.storage"
  | .assignments => "dotenv.main"

/-- A log record. -/
structure Record where
  /-- Where the record is written. -/
  logger : Logger
  /-- How severe the record is. -/
  level : Level
  /-- What happened. -/
  message : String
  deriving DecidableEq, Repr

namespace Record

/-- The strings of a record within its logger. -/
def strings (r : Record) : List String := [r.level.name, r.message]

/-- The line that a handler writes for a record at a given time. -/
def line (time : String) (r : Record) : String :=
  time ++ " - " ++ r.logger.name ++ " - " ++ r.level.name ++ " - " ++ r.message ++ "\n"

/-- The line that the handler of last resort writes for a record. -/
def bareLine (r : Record) : String := r.message ++ "\n"

/-- Some records, sorted by the names of their levels and by their messages. -/
def sorted (records : List Record) : List Record :=
  records.mergeSort fun r s => Ranked.atMost r.strings s.strings

end Record

end StaticAccess
