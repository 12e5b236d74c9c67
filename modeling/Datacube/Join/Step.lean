import Datacube.Schema.Compiled

/-!
# Joins

A join connects the table that declares a relation with the table that the relation points to. A
join step is a join between two tables of a schema, which it names by their identifiers.
-/

namespace Datacube

/-- A join between two tables that are known by name. -/
structure Join where
  source : Value
  target : Value
  relation : Relation
  type : Value

/-- A join between two tables of a schema. -/
structure JoinStep extends Join where
  sourceId : String
  targetId : String

namespace Join

def key (j : Join) : String := j.source.toText ++ "->" ++ j.target.toText

/-- The join as a document, with the identifiers of its tables where they are known. -/
def document (j : Join) (identifiers : Option (String × String)) : Value :=
  .record [("from", j.source), ("to", j.target), ("type", j.type),
    ("relation", j.relation.document),
    ("fromIdentifier", .ofText? (identifiers.map (·.1))),
    ("toIdentifier", .ofText? (identifiers.map (·.2)))]

end Join

namespace JoinStep

def between (source target : Table) (relation : Relation) (type : Value) : JoinStep :=
  { source := source.name, target := target.name, relation, type
    sourceId := source.identifier, targetId := target.identifier }

def document (s : JoinStep) : Value := s.toJoin.document (some (s.sourceId, s.targetId))

end JoinStep
end Datacube
