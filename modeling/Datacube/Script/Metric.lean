import Datacube.Metric.Computed
import Datacube.Metric.Rendering
import Datacube.Schema.Registry
import Datacube.Script.Query

/-!
# Metrics in scripts

An aggregation is declared by its kind and reference, a computed metric by its expression with calls
that modify it. Dependencies are declared as metrics or by their aliases.
-/

namespace Datacube

def Aggregation.ofScript (v : Value) : Outcome Aggregation := do
  let kind ← match AggregationKind.ofName? ((v.member "agg").textOr "") with
    | some k => pure k
    | none => fail .missingKey
  let a ← Aggregation.make kind (← Value.required v.members "reference")
  let a ← match v.field? "percentile" with
    | some p => if kind = .percentile then a.withPercentile p else fail .wrongType
    | none => pure a
  return match v.field? "alias" with
    | some aliasName => a.withAlias aliasName
    | none => a

namespace Aggregation

def vocabulary (a : Aggregation) : Vocabulary where
  calls :=
    Vocabulary.questions ["kind", "get_reference", "provider", "local_reference", "table", "column",
      "get_alias", "rollup", "to_dict"] ++
    [("set_alias", .exactly ["alias"]), ("with_reference", .upTo ["reference"] ["alias"]),
     ("make", if a.kind = .percentile then .upTo ["reference"] ["percentile"]
       else .exactly ["reference"])] ++
    (match a.kind with
      | .avg => Vocabulary.questions ["partial_aliases"]
      | .percentile => ("percentile", .exactly ["percentile"]) ::
          Vocabulary.questions ["median", "get_percentile"]
      | _ => []) ++
    Vocabulary.unchecked ["to_sql"]
  fields := ["ROLLUP"]

def modified (a : Aggregation) (c : Call) : Option (Outcome Aggregation) :=
  a.vocabulary.checked c (match c.name with
    | "set_alias" => some (do return a.withAlias (← c.required 0 "alias"))
    | "percentile" => some (do a.withPercentile (← c.required 0 "percentile"))
    | "median" => some (a.withPercentile (.float 0.5))
    | _ => none)

def answer (a : Aggregation) (c : Call) : Outcome Value := do
  a.vocabulary.check c
  match c.name with
  | "kind" => return .text a.kind.name
  | "get_reference" => return .text a.reference
  | "provider" => return .ofText? a.provider?
  | "local_reference" => return .text a.localReference
  | "table" => return .text a.table
  | "column" => match a.column? with
    | some column => return .text column
    | none => fail .outOfRange
  | "get_alias" => return a.aliasName
  | "rollup" => return .ofText? (a.rollup?.map (·.name))
  | "partial_aliases" => return .texts [a.partialAliases.1, a.partialAliases.2]
  | "get_percentile" => return .float a.percentile
  | "with_reference" =>
    return (← a.withReference (← c.required 0 "reference") (c.optional 1 "alias")).document
  | "make" =>
    let made ← Aggregation.make a.kind (← c.required 0 "reference")
    return (← (c.argument? 1 "percentile").elim (pure made) made.withPercentile).document
  | "to_sql" => return .text (← Renderings.builtin.render a (← Dialect.ofValue (← c.required 0 "")))
  | "to_dict" => return a.document
  | "__repr__" => return .text a.label
  | _ => Call.unknown

end Aggregation

namespace Computed

def vocabulary : Vocabulary where
  calls :=
    Vocabulary.questions ["kind", "key", "get_alias", "get_expression", "get_label", "get_table",
      "get_decimals", "referenced_metrics", "get_dependencies", "format", "to_dict"] ++
    [("label", .exactly ["label"]), ("for_table", .exactly ["table"]),
     ("decimals", .exactly ["decimals"]), ("percentage", .upTo [] ["percentage"]),
     ("currency", .exactly ["currency"]), ("set_alias", .exactly ["alias"]),
     ("make", .exactly ["expression"]), ("evaluate", .exactly ["row"]), ("depends_on", .any)]
  fields := []

/-- The modified metric that a call asks for; `aliasOf` names a declared dependency. -/
def modified (aliasOf : Value → Outcome Value) (m : Computed) (c : Call) :
    Option (Outcome Computed) :=
  vocabulary.checked c (match c.name with
    | "depends_on" => some (do return m.dependsOn (← c.arguments.mapM aliasOf))
    | "label" => some (do return { m with explicitLabel := ← c.required 0 "label" })
    | "for_table" => some (do return { m with table := ← c.required 0 "table" })
    | "decimals" => some (do return { m with decimals := ← c.required 0 "decimals" })
    | "percentage" =>
      some (.ok { m with percentage := (c.argumentOr 0 "percentage" (.bool true)).isTrue })
    | "currency" => some (do return { m with currency := ← c.required 0 "currency" })
    | "set_alias" => some (do return { m with explicitAlias := ← c.required 0 "alias" })
    | _ => none)

/-- Answers a question about a computed metric. A row is looked at when a metric is read. -/
def answer (m : Computed) (c : Call) : Outcome Value := do
  vocabulary.check c
  match c.name with
  | "kind" => return "computed"
  | "key" => return .text m.key
  | "get_alias" => return m.aliasName
  | "get_expression" => return .text m.expression
  | "get_label" => return m.label
  | "get_table" => return m.table
  | "get_decimals" => return m.decimals
  | "referenced_metrics" => return .texts m.referenced
  | "get_dependencies" => return .list m.dependencies
  | "evaluate" =>
    let row ← c.required 0 "row"
    m.evaluate fun name => do (Row.cell (← row.objectFields) name).toNumber
  | "format" => return m.format
  | "make" => return (← make (← c.required 0 "expression")).document
  | "to_dict" => return m.document
  | "__repr__" => return .text m.display
  | _ => Call.unknown

mutual

/-- The alias that a dependency is declared by: that of a metric, or a text. The depth bounds how
far declarations nest. -/
def declaredAlias : Nat → Value → Outcome Value
  | 0, _ => fail .endless
  | depth + 1, v =>
    if (v.field? "computed").isSome then do return (← ofScriptWithin depth v).aliasName
    else match v with
      | .object _ => do return (← Aggregation.ofScript v).aliasName
      | .text _ => .ok v
      | _ => fail .wrongType

def ofScriptWithin : Nat → Value → Outcome Computed
  | 0, _ => fail .endless
  | depth + 1, v => do
    runScript (modified (declaredAlias depth)) (← make (v.member "computed")) v.calls

end

end Computed

def Value.nesting : Value → Nat
  | .list items => 1 + (items.attach.map fun ⟨v, _⟩ => v.nesting).foldl max 0
  | .object fields => 1 + (fields.attach.map fun ⟨f, _⟩ => f.2.nesting).foldl max 0
  | _ => 0
termination_by v => sizeOf v
decreasing_by
  · rename_i h; have := List.sizeOf_lt_of_mem h; simp; omega
  · rename_i h
    have := List.sizeOf_lt_of_mem h
    obtain ⟨k, w⟩ := f
    simp at this ⊢
    omega

def Computed.dependencyAlias (v : Value) : Outcome Value := declaredAlias (v.nesting + 2) v

def Computed.ofScript (v : Value) : Outcome Computed := ofScriptWithin (v.nesting + 2) v

/-- The rendering that a template stands for; null is none. -/
def Rendering.ofValue : Value → Option Rendering
  | .text s => some (.template s)
  | _ => none

namespace Renderings

/-- The kind of aggregation that a value names, by itself or by its class. -/
def kindName : Value → String
  | .object [(.text "class", v)] => v.toText
  | v => v.toText

def registerAll (table : Renderings) (kind templates : Value) : Outcome Renderings :=
  match templates with
  | .object entries =>
    .ok (table.register (kindName kind) (entries.map fun (b, t) => (b.toText, Rendering.ofValue t)))
  | _ => fail .wrongType

/-- The renderings that a script declares, on top of the built-in ones unless it does without. -/
def ofScript (v : Value) : Outcome Renderings :=
  (v.member "compilers").elements.foldlM (fun table entry => match entry with
    | .list [kind, templates] => table.registerAll kind templates
    | _ => fail .badValue) (if (v.member "defaults").truth true then builtin else [])

end Renderings
end Datacube
