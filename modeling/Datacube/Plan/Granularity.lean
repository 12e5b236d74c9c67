import Datacube.Dialect
import Datacube.Schema.Table

/-!
# Requested dimensions

A requested dimension matches the dimensions of tables that bear its name and are of its kind; a
plain request matches every kind. A time dimension must be bucketed by a granularity that the
dialect knows and that is no finer than a matching dimension allows.
-/

namespace Datacube

namespace Dimension

/-- The first dimension of a table that answers a request. -/
def matching? (requested : Dimension) (t : Table) : Option Dimension :=
  t.dimensions.values.find? fun d => requested.kind.admits d.kind && d.name.same requested.name

/-- The matching dimensions of several tables by table name. -/
def resolve (requested : Dimension) (tables : List Table) : Entries Value Dimension :=
  Entries.ofPairs (tables.filterMap fun t => (requested.matching? t).map fun d => (t.name, d))

/-- All granularities from the finest to the coarsest. -/
def granularities : List String := ["minute", "hour", "day", "week", "month", "quarter", "year"]

/-- The granularity that a declared dimension allows at least. -/
def minimum? (d : Dimension) : Outcome (Option Nat) := do
  let fields ← d.metadata.objectFields
  match Value.named? fields "minGranularity" with
  | some (.text s) => return granularities.findIdx? (· == s)
  | _ => return none

/-- Checks the granularity of a requested time dimension against a dialect and the matching
dimensions. -/
def checkGranularity (requested : Dimension) (matching : List Dimension) (d : Option Dialect) :
    Outcome Unit :=
  match requested.detail with
  | .time granularity _ => match granularities.findIdx? (· == granularity) with
    | none => refuse (.granularityUnsupported granularity .null)
    | some position =>
      if d.any fun d => !d.supports granularity then
        refuse (.granularityUnsupported granularity (.ofText? (d.map (·.name))))
      else matching.forM fun declared => do
        match ← declared.minimum? with
        | some minimum =>
          -- Positions count from the finest granularity.
          if position < minimum then
            refuse (.granularityUnsupported granularity (.ofText? (d.map (·.name))))
          else return ()
        | none => return ()
  | _ => .ok ()

end Dimension
end Datacube
