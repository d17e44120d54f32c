import SchemaLineage.Association
import SchemaLineage.Service.Connection
/-
The connections that were registered, each under its name and in the order in which the names first
came.
-/

namespace SchemaLineage

abbrev Registry := List (String × Connection)

namespace Registry

def find? (r : Registry) (name : String) : Option Connection := r.lookup name

/-- A name that is already there gets the new connection and keeps its place. -/
def register (r : Registry) (c : Connection) : Registry := upsert c.serviceName c r

def remove (r : Registry) (name : String) : Registry := r.filter fun e => e.1 != name

def names (r : Registry) : List String := r.map (·.1)

def entries (r : Registry) : List ConnectionEntry := r.map fun e => .ofConnection e.2

theorem find?_register_self (r : Registry) (c : Connection) :
    (r.register c).find? c.serviceName = some c := lookup_upsert_self _ _ _

theorem find?_register_of_ne {r : Registry} {c : Connection} {name : String}
    (h : name ≠ c.serviceName) : (r.register c).find? name = r.find? name :=
  lookup_upsert_of_ne h _ _

theorem nodup_names_register {r : Registry} (h : r.names.Nodup) (c : Connection) :
    (r.register c).names.Nodup := nodup_keys_upsert _ _ h

end Registry
end SchemaLineage
