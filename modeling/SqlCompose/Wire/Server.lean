import SqlCompose.Run.ResultSet
import SqlCompose.Session.Statement
import SqlCompose.Wire.Decode
import SqlCompose.Wire.Encode
/-!
# Statements on the wire

A `Server` takes statements with numbered parameters and answers each of them alike.
Running a statement there (`Server.run`) goes through fixed steps, the first of which
to fail gives the error: numbering the parameters, preparing the text, giving the
values as parameters, executing, and reading the rows. What the server was asked on the
way is an `Exchange`.
-/

namespace SqlCompose

/-- A request to a server about a statement. -/
inductive Request
  | prepare
  | execute
deriving DecidableEq

/-- What goes wrong at a server. -/
inductive Fault
  /-- The server answers a request with an error. -/
  | refuses (r : Request)
  /-- The server ends the connection at a request. -/
  | hangsUp (r : Request)
deriving DecidableEq

/-- A server that answers every statement alike. -/
structure Server where
  paramTypes : List WireType := []
  columns : List (String × WireType) := []
  rows : List (List (Option (List UInt8))) := []
  fault : Option Fault := none

/-- What a server was asked: the texts to prepare and the parameters of executions. -/
structure Exchange where
  prepared : List String := []
  bound : List (List (Option (List UInt8))) := []

namespace Server

/-- The error of a request, if it fails. -/
def failure? (s : Server) (r : Request) : Option Error :=
  if s.fault = some (.refuses r) then some (.query "db error")
  else if s.fault = some (.hangsUp r) then some (.connection "connection closed")
  else none

/-- The bytes of values given as parameters, the first of which has the number
`index`. -/
def encodeFrom (index : Nat) :
    List WireType → List Value → Except Error (List (Option (List UInt8)))
  | t :: ts, v :: vs =>
    match t.encode v with
    | .error _ => .error (.query ("error serializing parameter " ++ toString index))
    | .ok cell => (encodeFrom (index + 1) ts vs).map (cell :: ·)
  | _, _ => .ok []

/-- The bytes of values given as the parameters of a statement. -/
def encodeAll (s : Server) (vs : List Value) : Except Error (List (Option (List UInt8))) :=
  if s.paramTypes.length ≠ vs.length then
    .error (.query ("expected " ++ toString s.paramTypes.length ++ " parameters but got " ++
      toString vs.length))
  else encodeFrom 0 s.paramTypes vs

/-- The values of the cells of a row, the first of which is in the column with the
number `index`. -/
def decodeFrom (index : Nat) :
    List (String × WireType) → List (Option (List UInt8)) → Except Error (List (String × Value))
  | (name, t) :: columns, cell :: cells =>
    match t.decodeCell name index cell with
    | .error e => .error e
    | .ok v => (decodeFrom (index + 1) columns cells).map ((name, v) :: ·)
  | _, _ => .ok []

/-- The rows of the answer. -/
def decodeRows (s : Server) : Except Error ResultSet :=
  let fields := s.columns.map fun c => ⟨c.1, c.2.typeName⟩
  (s.rows.mapM fun cells => (decodeFrom 0 s.columns cells).map Row.mk).map (⟨·, fields⟩)

/-- Runs a statement with named parameters. -/
def run (s : Server) (st : Statement) : Except Error ResultSet × Exchange :=
  match st.params.toPositional st.sql .dollar with
  | .error e => (.error e, {})
  | .ok p =>
    match s.failure? .prepare with
    | some e => (.error e, { prepared := [p.sql] })
    | none =>
      match s.encodeAll p.values with
      | .error e => (.error e, { prepared := [p.sql] })
      | .ok cells =>
        let exchange : Exchange := ⟨[p.sql], [cells]⟩
        match s.failure? .execute with
        | some e => (.error e, exchange)
        | none => (s.decodeRows, exchange)

end Server

end SqlCompose
