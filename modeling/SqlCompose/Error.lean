import SqlCompose.Duration
/-!
# Errors

The reasons for which a query is not compiled or a statement not executed, each with
its message. `Error.isCompileError` marks those that arise from the query itself.
-/

namespace SqlCompose

/-- Why a query was not compiled or executed. -/
inductive Error
  /-- An operator with the wrong number of operands. -/
  | arity (operator expected : String)
  /-- An operand of the wrong shape for its operator. -/
  | invalidOperand (operator message : String)
  /-- Text that is no operator of the pattern family. -/
  | invalidOperator (text : String)
  /-- A join without a type or a table. -/
  | invalidJoin (message : String)
  /-- A statement that the dialect does not have. -/
  | notSupported (dialect feature : String)
  /-- Other malformed input. -/
  | validation (message : String)
  /-- A placeholder without a value. -/
  | missingParam (name : String)
  /-- No connection, or a broken one. -/
  | connection (message : String)
  /-- A statement that the server or its protocol refused. -/
  | query (message : String)
  /-- A statement that an executor refused. -/
  | execution (message : String)
  /-- A result that is not of the announced type. -/
  | decode (column message : String)
  /-- No connection from the pool. -/
  | pool (message : String)
  /-- A statement that took too long. -/
  | timeout (limit : Duration)
deriving DecidableEq

namespace Error

/-- The text of an error. -/
def message : Error → String
  | arity operator expected => "Operator '" ++ operator ++ "' requires " ++ expected ++ "."
  | invalidOperand operator m => "Invalid operand for operator '" ++ operator ++ "': " ++ m
  | invalidOperator text => "Invalid operator '" ++ text ++ "'."
  | invalidJoin m => m
  | notSupported dialect feature => dialect ++ " does not support " ++ feature
  | validation m => "Validation error: " ++ m
  | missingParam name => "Missing value for placeholder '" ++ name ++ "'"
  | connection m => "Connection error: " ++ m
  | query m => "Query error: " ++ m
  | execution m => "Execution error: " ++ m
  | decode column m => "Decode error on column '" ++ column ++ "': " ++ m
  | pool m => "Pool error: " ++ m
  | timeout limit => "Query timeout after " ++ limit.write

/-- Whether an error arose while a query was compiled, so that running it again cannot
help. -/
def isCompileError : Error → Bool
  | arity .. | invalidOperand .. | invalidOperator _ | invalidJoin _ | notSupported ..
  | validation _ => true
  | _ => false

/-- Whether a statement took too long. -/
def isTimeout : Error → Bool
  | timeout _ => true
  | _ => false

end Error

end SqlCompose
