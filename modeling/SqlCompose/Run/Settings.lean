import SqlCompose.Duration
import SqlCompose.Text.Utf8
/-!
# Settings of a connection

How long a statement may take, when it counts as slow, and what is written to the log.
SQL text in the log is cut at the last boundary between characters that fits
(`Settings.shorten`).
-/

namespace SqlCompose

/-- The settings of a connection. -/
structure Settings where
  /-- The time after which a statement is given up. -/
  timeout : Option Duration := none
  /-- The time above which a statement counts as slow. -/
  slowThreshold : Option Duration := none
  /-- Whether every statement is logged; failures and slow statements always are. -/
  logging : Bool := true
  /-- The greatest number of bytes of SQL text in the log. -/
  maxSqlLength : Option Nat := some 200

namespace Settings

/-- SQL text as it stands in the log. -/
def shorten (s : Settings) (sql : String) : String :=
  match s.maxSqlLength with
  | some max =>
    if sql.utf8ByteSize ≤ max then sql else Text.within max sql ++ "..."
  | none => sql

/-- A setting that may be absent. -/
def writeOption : Option String → String
  | some text => "Some(" ++ text ++ ")"
  | none => "None"

/-- The settings as a text for developers. -/
def write (s : Settings) : String :=
  "ConnectionConfig \x7b query_timeout: " ++ writeOption (s.timeout.map Duration.write) ++
    ", slow_query_threshold: " ++ writeOption (s.slowThreshold.map Duration.write) ++
    ", logging_enabled: " ++ (if s.logging then "true" else "false") ++
    ", max_sql_log_length: " ++ writeOption (s.maxSqlLength.map toString) ++ " \x7d"

end Settings

end SqlCompose
