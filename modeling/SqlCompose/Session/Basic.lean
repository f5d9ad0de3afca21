import SqlCompose.Error
import SqlCompose.Params.Allocator
import SqlCompose.Text.Basic
/-!
# Sessions

A `Session` writes SQL text and binds the values in it as it goes. It starts with an
allocator and ends with a text or an error; the allocator that it leaves behind holds
what was bound on the way, also in front of an error, and the next session can go on
with it.
-/

namespace SqlCompose

/-- A computation that binds values to fresh placeholders, one after the other. -/
abbrev Session := ExceptT Error (StateM Allocator)

namespace Session

variable {α : Type}

/-- Binds a value; the text is its placeholder. -/
def slot (v : Value) : Session String :=
  ExceptT.mk fun a => (.ok (a.bind v).1, (a.bind v).2)

/-- What was read from operands, or the error. -/
def lift (x : Except Error α) : Session α :=
  ExceptT.mk fun a => (x, a)

/-- The outcome of a session and the allocator that it leaves behind. -/
def runFrom (x : Session α) (a : Allocator) : Except Error α × Allocator :=
  StateT.run (ExceptT.run x) a

end Session

end SqlCompose
