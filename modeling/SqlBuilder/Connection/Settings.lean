import SqlBuilder.Text.Digits

/-!
Settings of a connection, and the parameters that set them by name.
-/

namespace SqlBuilder

structure ConnectionSettings where
  user : Option Text := none
  password : Option Text := none
  hosts : List Text := []
  ports : List Nat := []
  database : Option Text := none
  applicationName : Option Text := none
  /-- In milliseconds. -/
  connectTimeout : Option Nat := none
  /-- Parameters that are only handed on. -/
  further : List (Text × Text) := []
deriving DecidableEq, Repr

namespace ConnectionSettings

/-- The port of a server unless another one is given. -/
def defaultPort : Nat := 5432

/-- A whole number from 0 up to the bound, perhaps with a plus sign. -/
def number? (bound : Nat) (value : Text) : Option Nat :=
  let digits := match value with
    | '+' :: rest => rest
    | other => other
  (Text.toNat? digits).filter (· ≤ bound)

/-- A port; the empty text means the usual one. -/
def port? (value : Text) : Option Nat :=
  if value.isEmpty then some defaultPort else number? 65535 value

/-- Parameters with a fixed choice of values. -/
def choices : List (Text × List Text) :=
  [("sslmode", ["disable".toList, "prefer".toList, "require".toList]),
   ("target_session_attrs", ["any".toList, "read-write".toList, "read-only".toList]),
   ("channel_binding", ["disable".toList, "prefer".toList, "require".toList]),
   ("load_balance_hosts", ["disable".toList, "random".toList])]

/-- Parameters whose value is a number. -/
def numeric : List Text :=
  ["tcp_user_timeout".toList, "keepalives".toList, "keepalives_idle".toList,
   "keepalives_interval".toList, "keepalives_retries".toList]

/-- The settings with a parameter set.  An unknown parameter and a value that
the parameter does not admit are refused. -/
def set? (settings : ConnectionSettings) (name value : Text) : Option ConnectionSettings :=
  if name = "user" then some { settings with user := some value }
  else if name = "password" then some { settings with password := some value }
  else if name = "dbname" then some { settings with database := some value }
  else if name = "application_name" then some { settings with applicationName := some value }
  else if name = "host" then
    some { settings with hosts := settings.hosts ++ value.splitOn ',' }
  else if name = "port" then
    ((value.splitOn ',').mapM port?).map fun ports =>
      { settings with ports := settings.ports ++ ports }
  else if name = "connect_timeout" then
    match value with
    | '-' :: digits => (number? Int64.minValue.toInt.natAbs digits).map fun _ => settings
    | digits => (number? Int64.maxValue.toInt.natAbs digits).map fun seconds =>
        if seconds = 0 then settings
        else { settings with connectTimeout := some (1000 * seconds) }
  else
    let known :=
      name = "options" ∨ name = "hostaddr" ∨
      (name ∈ numeric ∧ (number? 0xFFFFFFFFFFFFFFFF value).isSome) ∨
      choices.any fun choice => choice.1 == name && choice.2.contains value
    if known then some { settings with further := settings.further ++ [(name, value)] } else none

end ConnectionSettings

end SqlBuilder
