/-!
# Log events

What is written to the log while statements are built and run. The numbers of
parameters and rows stand for the data, which never are in the log.
-/

namespace SqlCompose

/-- The weight of an event. -/
inductive Level
  | debug
  | warn
  | error
deriving DecidableEq

/-- Something that happened to a statement. -/
inductive Event
  /-- A query was compiled for a dialect. -/
  | built (dialect sql : String) (params : Nat)
  /-- A statement is about to be sent. -/
  | executing (sql : String) (params : Nat)
  | completed (rows : Nat)
  | slow (sql : String) (thresholdMillis : Nat)
  | failed (sql error : String)
deriving DecidableEq

namespace Event

/-- The weight of an event. -/
def level : Event → Level
  | built .. | executing .. | completed _ => .debug
  | slow .. => .warn
  | failed .. => .error

/-- What an event says. -/
def message : Event → String
  | built .. => "built query"
  | executing .. => "executing query"
  | completed _ => "query completed"
  | slow .. => "slow query"
  | failed .. => "query failed"

end Event

end SqlCompose
