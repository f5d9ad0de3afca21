import SqlCompose.Run.Event
import SqlCompose.Run.ResultSet
import SqlCompose.Run.Settings
import SqlCompose.Session.Statement
/-!
# Running statements

A `Backend` answers statements, and what it answers may depend on all statements that
it got before. A `Connection` compiles queries for its dialect (`Connection.build`) and
sends statements (`Connection.execute`): every statement is sent once, its answer is
given back unchanged unless it comes too late, and the settings otherwise only decide
what is logged. What was sent and logged is collected in a `Trace`.
-/

namespace SqlCompose

/-- What a backend does about a statement. -/
structure Reply where
  result : Except Error ResultSet
  /-- The time after which the answer is there. -/
  delay : Duration := ⟨0⟩
  /-- The time that the statement took by the stopwatch of the log. -/
  measured : Duration := ⟨0⟩

/-- The replies of a backend to a statement after the statements that it got before. -/
abbrev Backend := List Statement → Statement → Reply

/-- The statements that were sent and the events that were logged, in order. -/
structure Trace where
  sent : List Statement := []
  events : List Event := []

/-- A dialect and the settings with which statements are run. -/
structure Connection where
  dialect : Dialect
  settings : Settings := {}

namespace Statement

/-- Binds a parameter, perhaps again. -/
def bind (s : Statement) (name : String) (value : Value) : Statement :=
  { s with params := s.params.insert name value }

/-- The statement in the positional form of a dialect. -/
def toPositional (s : Statement) (d : Dialect) : Except Error Positional :=
  s.params.toPositional s.sql d.placeholderStyle

end Statement

namespace Trace

/-- A trace that goes on with events. -/
def log (t : Trace) (events : List Event) : Trace :=
  { t with events := t.events ++ events }

end Trace

namespace Settings

/-- The answer in a reply, unless it comes too late. -/
def accept (s : Settings) (r : Reply) : Except Error ResultSet :=
  match s.timeout with
  | some limit => if limit.nanos < r.delay.nanos then .error (.timeout limit) else r.result
  | none => r.result

/-- The events of a statement that is about to be sent. -/
def eventsBefore (s : Settings) (st : Statement) : List Event :=
  if s.logging then [.executing (s.shorten st.sql) st.params.size] else []

/-- The events of a statement with its answer. -/
def eventsAfter (s : Settings) (st : Statement) (measured : Duration) :
    Except Error ResultSet → List Event
  | .error e => [.failed (s.shorten st.sql) e.message]
  | .ok answer =>
    (if s.logging then [.completed answer.size] else []) ++
      match s.slowThreshold with
      | some threshold =>
        if threshold.nanos < measured.nanos then
          [.slow (s.shorten st.sql) threshold.millis]
        else []
      | none => []

end Settings

namespace Connection

/-- The connection as a text for developers. -/
def write (c : Connection) : String :=
  "Connection \x7b dialect: \"" ++ c.dialect.name ++ "\", config: " ++ c.settings.write ++
    ", .. \x7d"

/-- Compiles a query into a statement. -/
def build (c : Connection) (q : Query) (t : Trace) : Except Error Statement × Trace :=
  match ({ dialect := c.dialect } : Target).build q {} with
  | .ok s => (.ok s, t.log [.built c.dialect.name s.sql s.params.size])
  | .error e => (.error e, t)

/-- Sends a statement. -/
def execute (c : Connection) (backend : Backend) (s : Statement) (t : Trace) :
    Except Error ResultSet × Trace :=
  let reply := backend t.sent s
  let answer := c.settings.accept reply
  let events := c.settings.eventsBefore s ++ c.settings.eventsAfter s reply.measured answer
  (answer, { (t.log events) with sent := t.sent ++ [s] })

end Connection

end SqlCompose
