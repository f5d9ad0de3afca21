import SqlCompose.Error
import SqlCompose.Params.Allocator
/-!
# Fragments of statements

A `Fragment` is SQL text with slots where values go. Compiling a query yields a
fragment, which does not depend on the names of placeholders; only `Fragment.fill`
gives the values of the slots names, from left to right.

A part of a query that is refused may stand behind parts that are not. A `Rejection`
therefore has, with the error, the values of the slots in front of it: they are bound
all the same.
-/

namespace SqlCompose

/-- A piece of a statement. -/
inductive Piece
  | text (s : String)
  /-- A place for a value. -/
  | slot (v : Value)

/-- SQL text with slots for values. -/
abbrev Fragment := List Piece

/-- A part that was refused. -/
structure Rejection where
  error : Error
  /-- The values of the slots in front of the part that was refused. -/
  bound : List Value

/-- A fragment, or the reason why there is none. -/
abbrev Compiled := Except Rejection Fragment

namespace Fragment

/-- Text without slots. -/
def text (s : String) : Fragment := [.text s]

/-- A slot alone. -/
def slot (v : Value) : Fragment := [.slot v]

/-- Whether a fragment is no text at all. -/
def isEmpty (f : Fragment) : Bool :=
  f.all fun
    | .text s => s.isEmpty
    | .slot _ => false

/-- The values of the slots, from left to right. -/
def values (f : Fragment) : List Value :=
  f.filterMap fun
    | .text _ => none
    | .slot v => some v

/-- Fragments one after the other with text between neighbours. -/
def join (separator : String) : List Fragment → Fragment
  | [] => []
  | [f] => f
  | f :: rest => f ++ text separator ++ join separator rest

/-- The text of a fragment with a fresh placeholder for every slot, and the allocator
that has bound their values. -/
def fill (a : Allocator) : Fragment → String × Allocator
  | [] => ("", a)
  | .text s :: rest =>
    let (sql, a) := fill a rest
    (s ++ sql, a)
  | .slot v :: rest =>
    let (name, a) := a.bind v
    let (sql, a) := fill a rest
    (name ++ sql, a)

/-- The texts of fragments that are filled one after the other. -/
def fillEach (a : Allocator) : List Fragment → List String × Allocator
  | [] => ([], a)
  | f :: rest =>
    let (sql, a) := fill a f
    let (sqls, a) := fillEach a rest
    (sql :: sqls, a)

end Fragment

namespace Compiled

/-- A refusal behind nothing. -/
def reject {α : Type} (e : Error) : Except Rejection α := .error ⟨e, []⟩

/-- What was read from operands; a refusal stands behind nothing. -/
def lift {α : Type} : Except Error α → Except Rejection α
  | .ok x => .ok x
  | .error e => reject e

/-- The fragments of parts that stand one behind the other; the first refusal counts,
with the values in front of it. -/
def sequence : List Compiled → Except Rejection (List Fragment)
  | [] => .ok []
  | .error r :: _ => .error r
  | .ok f :: rest =>
    match sequence rest with
    | .ok fs => .ok (f :: fs)
    | .error r => .error { r with bound := Fragment.values f ++ r.bound }

/-- The texts of compiled parts, or the error, and the allocator that has bound the
values of either. -/
def fillAll (a : Allocator) :
    Except Rejection (List Fragment) → Except Error (List String) × Allocator
  | .ok fs =>
    let (sqls, a) := Fragment.fillEach a fs
    (.ok sqls, a)
  | .error r => (.error r.error, (a.bindAll r.bound).2)

/-- The text of a compiled part, or the error, and the allocator that has bound the
values of either. -/
def fill (a : Allocator) : Compiled → Except Error String × Allocator
  | .ok f =>
    let (sql, a) := Fragment.fill a f
    (.ok sql, a)
  | .error r => (.error r.error, (a.bindAll r.bound).2)

end Compiled

end SqlCompose
