import Datacube.Join.Graph
import Datacube.Query.Build

/-!
# Joins in queries

The steps by which a query takes a join. The type of the relation says which columns are compared;
a polymorphic relation also fixes the class of the row that it belongs to, and a many-to-many
relation joins its pivot table in between.
-/

namespace Datacube

namespace Join

def qualify (table column : Value) : Value := .text (table.toText ++ "." ++ column.toText)

/-- The join of the target on two columns. -/
def on (j : Join) (own theirs : Value) : QueryStep :=
  .join j.target (qualify j.source own) "=" (qualify j.target theirs) j.type

/-- The condition that fixes the class of a polymorphic relation, if it declares one. -/
def discriminator (j : Join) (table : Value) : List QueryStep :=
  let type := j.relation.key "morph_type"
  let expected := j.relation.key "morph_class"
  if type.isTrue && expected.isTrue then [.filter (qualify table type) "=" expected] else []

/-- The column in a role, which is the usual one unless the relation names another. -/
def keyOrId (j : Join) (role : String) : Value := (Value.named? j.relation.keys role).getD "id"

def steps (j : Join) : List QueryStep :=
  let key := j.relation.key
  match j.relation.type with
  | .belongsTo => [j.on (key "foreign") (key "owner")]
  | .hasMany | .hasOne => [j.on (key "local") (key "foreign")]
  | .morphMany => j.on (key "local") (key "foreign") :: j.discriminator j.target
  | .morphTo => j.on (key "foreign") (key "owner") :: j.discriminator j.source
  | .belongsToMany =>
    let pivot := j.relation.pivot
    [.join pivot (qualify j.source (j.keyOrId "local")) "=" (qualify pivot (key "foreign")) j.type,
     .join j.target (qualify pivot (key "related")) "=" (qualify j.target (j.keyOrId "owner"))
       j.type]
  | .crossJoin =>
    if (key "left").isTrue && (key "right").isTrue then [j.on (key "left") (key "right")]
    else [.crossJoin j.target]
  | .dimension => [j.on (key "left") (key "right")]

end Join

namespace JoinGraph

def steps (g : JoinGraph) : List QueryStep := g.flatMap (·.toJoin.steps)

end JoinGraph
end Datacube
