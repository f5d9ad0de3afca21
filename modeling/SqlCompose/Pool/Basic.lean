import SqlCompose.Error
import SqlCompose.Pool.Pairs
import SqlCompose.Pool.Url
/-!
# Connection pools

A `Pool` is set up from a connection string and opens connections on demand, so that it
has none at first. A string is a URL if it begins like one, and a list of pairs
otherwise; every option in it has to be known and to have a value that it takes.
-/

namespace SqlCompose

/-- The options in a connection string. -/
def ConnectionOption.parse? (s : String) : Option (List ConnectionOption) := do
  let options ←
    match Url.afterScheme? s.toList with
    | some cs => Url.read? cs
    | none => Pairs.read? .start s.toList
  if options.all ConnectionOption.isValid then some options else none

/-- A pool of connections. -/
structure Pool where
  options : List ConnectionOption
  /-- The greatest number of connections. -/
  maxSize : Nat
  /-- The number of open connections. -/
  size : Nat := 0
  closed : Bool := false

namespace Pool

/-- The greatest number of connections where none is given. -/
def defaultMaxSize : Nat := 16

/-- A pool for the server that a connection string names. -/
def create (url : String) (maxSize : Nat) : Except Error Pool :=
  match ConnectionOption.parse? url with
  | some options => .ok { options, maxSize }
  | none => .error (.connection "invalid connection string")

/-- The pool without connections, and without new ones. -/
def close (p : Pool) : Pool := { p with size := 0, closed := true }

/-- The error of asking a pool for a connection, if it is closed. -/
def refusal? (p : Pool) : Option Error :=
  if p.closed then some (.pool "Pool has been closed") else none

end Pool

end SqlCompose
