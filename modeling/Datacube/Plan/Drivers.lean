import Datacube.Query.Build

/-!
# Drivers of connections

A driver is registered for a connection, of one provider or of any. A table is served by the driver
of its provider's connection, else by that of the connection, else by the default driver.
-/

namespace Datacube

/-- The registered drivers by connection, and the default. -/
structure Drivers where
  registered : Entries Value Driver
  fallback : Option Driver

namespace Drivers

/-- A connection as a key, with the provider in front where one is given. -/
def keyOf (connection provider : Value) : Value :=
  if provider.isTrue then .text (provider.toText ++ ":" ++ connection.toText) else connection

def register (ds : Drivers) (connection : Value) (d : Driver) (provider : Value) :
    Outcome Drivers :=
  let key := keyOf connection provider
  if key.isKey then .ok { ds with registered := ds.registered.put key d } else fail .wrongType

def find? (ds : Drivers) (connection provider : Value) : Outcome (Option Driver) :=
  let key := keyOf connection provider
  if connection.isNull then .ok none
  else match (if key.isKey then ds.registered.get? key else none), connection.isKey with
    | some d, _ => .ok (some d)
    | none, true => .ok (ds.registered.get? connection)
    | none, false => fail .wrongType

def forConnection (ds : Drivers) (connection provider : Value) : Outcome Driver := do
  match (← ds.find? connection provider).or ds.fallback with
  | some d => return d
  | none =>
    refuse (.driverNotFound (.text (keyOf connection provider).toText) (some ds.registered.keys))

def forTable (ds : Drivers) (t : Table) : Outcome Driver :=
  ds.forConnection t.connection t.provider

end Drivers
end Datacube
