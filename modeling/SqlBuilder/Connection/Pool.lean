import SqlBuilder.Connection.Address
import SqlBuilder.Error
import SqlBuilder.Event

/-!
Pools of connections.  Making a pool reads the address and opens nothing.
-/

namespace SqlBuilder

structure PoolOptions where
  /-- The greatest number of open connections. -/
  maxSize : Nat := 16
  /-- Whether a connection that is used again is tried out first. -/
  verifyOnRecycle : Bool := false
  /-- Takes the place of the name in the address. -/
  applicationName : Option Text := none
  /-- Takes the place of the timeout in the address, in milliseconds. -/
  connectTimeout : Option Nat := none
deriving DecidableEq, Repr

namespace PoolOptions

/-- The settings of an address under the options. -/
def applied (options : PoolOptions) (settings : ConnectionSettings) : ConnectionSettings :=
  { settings with
    applicationName := options.applicationName.or settings.applicationName
    connectTimeout := options.connectTimeout.or settings.connectTimeout }

end PoolOptions

/-- A pool with the number of its open connections. -/
structure Pool where
  settings : ConnectionSettings
  maxSize : Nat
  verifyOnRecycle : Bool
  size : Nat := 0
deriving DecidableEq, Repr

namespace Pool

/-- A pool for the address.  An address that cannot be read is a connection
error, and then no pool is reported. -/
def create (address : Text) (options : PoolOptions) : Reported (Except Error Pool) :=
  match Address.settings? address with
  | none => ⟨[], .error (.connection "invalid connection string")⟩
  | some settings =>
      ⟨[.poolCreated options.maxSize options.verifyOnRecycle],
        .ok
          { settings := options.applied settings
            maxSize := options.maxSize
            verifyOnRecycle := options.verifyOnRecycle }⟩

end Pool

end SqlBuilder
