import SqlCompose.Dialect.Basic
import SqlCompose.Text.Blank
import SqlCompose.Text.Word
/-!
# Type texts

The type of a column is given as text. It may begin with the token of an abstract type
(`string`, `pk`), and then stands for the physical type of the dialect. Arguments
(`string(200)`) take the place of those of the physical type, and what follows the
token or the arguments is kept. All other text is a physical type already.
-/

namespace SqlCompose

namespace TypeText

/-- The arguments and the rest of a text that goes on with arguments in parentheses and
is a single line. There is at least one character between the parentheses. -/
def arguments? : List Char → Option (List Char × List Char)
  | '(' :: c :: cs =>
    let args := cs.takeWhile (· ≠ ')')
    match cs.dropWhile (· ≠ ')') with
    | _ :: rest => if (c :: cs).contains '\n' then none else some (c :: args, rest)
    | [] => none
  | _ => none

/-- A physical type with its arguments, if it has any, replaced: all between its first
opening and its last closing parenthesis. -/
def withArguments (args physical : List Char) : List Char :=
  match physical.dropWhile (· ≠ '(') with
  | _ :: _ :: cs =>
    match Text.splitLast? ')' (String.ofList cs) with
    | some (_, tail) => physical.takeWhile (· ≠ '(') ++ ['('] ++ args ++ [')'] ++ tail.toList
    | none => physical
  | _ => physical

/-- What a token with a physical type stands for when `rest` follows it; nothing, if the
token does not end there. -/
def substitute? (physical rest : List Char) : Option (List Char) :=
  match rest with
  | [] => some physical
  | c :: _ =>
    match arguments? rest with
    | some (args, tail) => some (withArguments args physical ++ tail)
    | none => if Text.isBlank c then some (physical ++ rest) else none

end TypeText

/-- The physical type that a type text stands for. -/
def Dialect.resolveType (d : Dialect) (text : String) : String :=
  let cs := text.toList
  match ColumnType.ofToken? (String.ofList (cs.takeWhile Text.isWord)) with
  | none => text
  | some type =>
    match TypeText.substitute? (d.physicalType type).toList (cs.dropWhile Text.isWord) with
    | some resolved => String.ofList resolved
    | none => text

end SqlCompose
