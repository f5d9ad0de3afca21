import SqlCompose.Pool.Address
/-!
# Connection options

The options that a connection string may give, and the values that each of them takes.
-/

namespace SqlCompose

/-- An option of a connection with its value. -/
structure ConnectionOption where
  name : String
  value : String
deriving DecidableEq

namespace ConnectionOption

/-- Whether a text is a whole number without a minus sign that is below a bound. -/
def isBelow (bound : Nat) (s : String) : Bool :=
  match s.toList with
  | '+' :: cs => !cs.isEmpty && cs.all Char.isDigit && digitsValue cs < bound
  | cs => !cs.isEmpty && cs.all Char.isDigit && digitsValue cs < bound

/-- Whether a text is a whole number of 64 bits. -/
def isInt64 (s : String) : Bool := (readInt64? s.toList).isSome

/-- Whether a text is the number of a port, or nothing for the usual one. -/
def isPort (s : String) : Bool := s.isEmpty || isBelow 65536 s

/-- The options whose value is any text. -/
def free : List String := ["user", "password", "dbname", "options", "application_name", "host"]

/-- The options whose value is one of some words. -/
def words : List (String × List String) :=
  [("sslmode", ["disable", "prefer", "require"]), ("sslnegotiation", ["postgres", "direct"]),
    ("target_session_attrs", ["any", "read-write", "read-only"]),
    ("channel_binding", ["disable", "prefer", "require"]),
    ("load_balance_hosts", ["disable", "random"])]

/-- The options whose value is a number of seconds; one below 1 means none. -/
def seconds : List String :=
  ["connect_timeout", "tcp_user_timeout", "keepalives_idle", "keepalives_interval"]

/-- Whether there is such an option and it takes such a value. -/
def isValid (o : ConnectionOption) : Bool :=
  if free.contains o.name then true
  else if seconds.contains o.name then isInt64 o.value
  else
    match words.find? fun e => e.1 == o.name with
    | some e => e.2.contains o.value
    | none =>
      match o.name with
      | "hostaddr" => (Text.split ',' o.value).all Address.isNumeric
      | "port" => (Text.split ',' o.value).all isPort
      | "keepalives" => isBelow (Nat.pow 2 64) o.value
      | "keepalives_retries" => isBelow (Nat.pow 2 32) o.value
      | _ => false

end ConnectionOption

end SqlCompose
