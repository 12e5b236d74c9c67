import Datacube.Proofs.Join.Origin
import Datacube.Proofs.Merge.Types
import Datacube.Proofs.Plan.Merging
import Datacube.Settings.Basic

/-!
# The types of joins in plans

The relations of a software plan have the type that the settings name, or are inner joins where they
compare a shared dimension. Rows are joined as the type says, unless it keeps rows without a match
that the join drops: those of the right side, and in full joins those of the left side as well.
-/

namespace Datacube

namespace Settings
variable {fields : Entries Value Value} {settings : Settings}

theorem asOneOf_ok {choices : List String} {v : Value} {s : String}
    (read : asOneOf choices v = .ok s) : s ∈ choices := by
  cases v with
  | text t =>
      simp only [asOneOf, asText, bind, Except.bind] at read
      split at read
      · rename_i listed
        obtain rfl := Except.ok.inj read
        exact List.contains_iff_mem.mp listed
      · cases read
  | _ => cases read

/-- A field holds its default or a value that fits. -/
theorem checked_fst {α : Type} (name : String) (default : α) (check : Value → Checked α) :
    (checked fields name default check).1 = default ∨
      ∃ v, check v = .ok (checked fields name default check).1 := by
  rw [checked]
  split
  · exact .inl rfl
  · split
    · rename_i v _ _ _ read
      exact .inr ⟨v, read⟩
    · exact .inl rfl

theorem joinType_mem (settled : ofFields fields = .ok settings) :
    settings.joinType ∈ Row.joinTypes := by
  simp only [ofFields] at settled
  split at settled
  · obtain rfl := Except.ok.inj settled
    rcases checked_fst "default_join_type" "left" (asOneOf ["left", "inner", "right", "full"]) with
      unset | ⟨v, read⟩
    · rw [unset]
      exact List.mem_cons_self
    · exact asOneOf_ok read
  · cases settled

end Settings

namespace Planner
variable {p : Planner} {metrics : List RequestedMetric} {dimensions : List Dimension} {r : Resolved}
  {schema : Schema} {joins : JoinGraph} {tables : Entries String Table} {k : MergeKeys}
  {plans : Entries Value TablePlan} {filters : Value} {q : QueryPlan} {sp : SoftwarePlan}
  {settings : Settings} {fields : Entries Value Value}

theorem relations_types {dimensions : List BoundDimension}
    (run : joins.foldlM (addJoin tables (participantNames tables) dimensions) .none = .ok k) :
    k.relations.map (·.type) = joins.map (·.type) := by
  refine Outcome.foldlM_induction
    (fun done k => k.relations.map (·.type) = done.map (·.type)) run rfl ?_
  intro done s _ a b now added
  obtain ⟨before, own, theirs, keyed, rfl⟩ := addJoin_ok added
  rw [MergeKeys.addRelation, List.map_append, List.map_append, keyed.relations, now]
  rfl

theorem Assembled.types
    (assembled : Assembled p r dimensions schema joins tables k plans filters) :
    ∀ relation ∈ k.relations, relation.type = p.joinType ∨ relation.type = "inner" := by
  intro relation member
  have listed := List.mem_map_of_mem (f := (·.type)) member
  rw [relations_types assembled.keyed] at listed
  obtain ⟨step, joined, same⟩ := List.mem_map.mp listed
  have nodup : schema.tables.keys.Nodup := Schema.nodup_keys assembled.compiled
  rw [← same]
  exact ((JoinGraph.build_rooted nodup assembled.built).1 step joined).type

/-- A keyed relation joins rows by its type, where this keeps no rows that the join drops. Keys that
are lists or objects are refused. -/
def JoinsBy (relation : JoinRelation) (type : String) : Prop :=
  ∀ left right : List Row,
    if (right.all (Row.keyed relation.targetAlias) &&
        left.all (Row.keyed relation.sourceAlias)) = true then
      ∃ rows, Row.join left right relation.sourceAlias relation.targetAlias relation.type =
          .ok rows ∧
        (rows.Perm (Row.joinedBy type left right relation.sourceAlias relation.targetAlias) ↔
          (type = "full" →
              Row.unmetLeft left right relation.sourceAlias relation.targetAlias = []) ∧
            (Row.keepsRight type = true →
              Row.unmetRight left right relation.sourceAlias relation.targetAlias = []))
    else Row.join left right relation.sourceAlias relation.targetAlias relation.type =
      fail .wrongType

theorem joinsBy_of_mem {relation : JoinRelation} {type : String} (listed : type ∈ Row.joinTypes)
    (typed : relation.type = .text type)
    (named : (!relation.sourceAlias.isTrue && !relation.targetAlias.isTrue) = false) :
    JoinsBy relation type := by
  intro left right
  rw [typed]
  split
  · rename_i keyed
    obtain ⟨rows, joined⟩ := Row.join_of_keyed named keyed type
    exact ⟨rows, joined, Row.perm_joinedBy_iff listed joined⟩
  · rename_i unkeyed
    rw [Row.join, Row.keepsUnmatched_of_mem listed]
    simp only [bind, Except.bind, named, Bool.false_eq_true, if_false, if_neg unkeyed]

theorem plan_joins_by_type (settled : Settings.ofFields fields = .ok settings)
    (typed : p.joinType = .text settings.joinType) (planned : p.plan metrics dimensions = .ok q)
    (software : q.joinPlan = .software sp) :
    ∀ relation ∈ sp.relations, ∃ type ∈ Row.joinTypes, relation.type = .text type ∧
      (type = settings.joinType ∨ type = "inner") ∧
      ((!relation.sourceAlias.isTrue && !relation.targetAlias.isTrue) = false →
        JoinsBy relation type) := by
  obtain ⟨r, -, built⟩ := plan_software planned software
  obtain ⟨schema, joins, k, filters, assembled, whole, -, -⟩ := softwarePlan_ok built software
  intro relation member
  rw [whole] at member
  rcases assembled.types relation member with same | inner
  · exact ⟨_, Settings.joinType_mem settled, same.trans typed, .inl rfl,
      joinsBy_of_mem (Settings.joinType_mem settled) (same.trans typed)⟩
  · have listed : "inner" ∈ Row.joinTypes := by decide
    exact ⟨"inner", listed, inner, .inr rfl, joinsBy_of_mem listed inner⟩

/-! ## Customers without orders -/

open PathFinder (belonging)

def namedCustomers : Table :=
  { belonging "crm" "customers" [] with dimensions := .ofDimensions [.make .plain "name"] }

/-- Orders and their customers, of two providers, with right joins. -/
def callers : Planner where
  registry := .ofSources [
    ⟨"shop", .indexed, .null, [belonging "shop" "orders" [("customer", "customers")]]⟩,
    ⟨"crm", .indexed, .null, [namedCustomers]⟩]
  drivers := ⟨[], some ⟨"main", "main", .sqlite, .relational, .bool true, .bool true⟩⟩
  renderings := .builtin
  joinType := "right"

def orderTotal : List RequestedMetric := [.aggregation ⟨.sum, "orders.total", "total", 0.5⟩]

def customerNames : List Dimension := [.make .plain "customers.name"]

def orderRows : List Row := [[("orders__customer_id", .int 1), ("total", .int 5)]]

def customerRows : List Row :=
  [[("name", "Ada"), ("customers__id", .int 1)], [("name", "Bob"), ("customers__id", .int 2)]]

theorem callers_join_by_type : ∃ settings q sp,
    Settings.ofFields [("default_join_type", "right")] = .ok settings ∧
    callers.joinType = .text settings.joinType ∧ callers.plan orderTotal customerNames = .ok q ∧
    q.joinPlan = .software sp ∧ sp.relations ≠ [] ∧
    ∀ relation ∈ sp.relations, ∃ type ∈ Row.joinTypes, relation.type = .text type ∧
      (type = settings.joinType ∨ type = "inner") ∧
      ((!relation.sourceAlias.isTrue && !relation.targetAlias.isTrue) = false →
        JoinsBy relation type) := by
  obtain ⟨settings, settled, named⟩ := Outcome.any_ok (show
    (Settings.ofFields [("default_join_type", "right")]).toOption.any
      (·.joinType == "right") = true by decide +kernel)
  obtain ⟨q, planned, shape⟩ := Outcome.any_ok (show
    (callers.plan orderTotal customerNames).toOption.any fun q =>
      q.joinPlan.software?.any (!·.relations.isEmpty) by decide +kernel)
  obtain ⟨sp, software, some⟩ := JoinPlan.any_software shape
  have typed : callers.joinType = .text settings.joinType := by rw [beq_iff_eq.mp named]; rfl
  exact ⟨settings, q, sp, settled, typed, planned, software, by simpa using some,
    plan_joins_by_type settled typed planned software⟩

/-- The right join of orders and customers drops the customer who has no orders. -/
theorem callers_lose_customer : ∃ q sp relation rows,
    callers.plan orderTotal customerNames = .ok q ∧ q.joinPlan = .software sp ∧
    relation ∈ sp.relations ∧ relation.type = "right" ∧
    Row.join orderRows customerRows relation.sourceAlias relation.targetAlias relation.type =
      .ok rows ∧
    ¬ rows.Perm (Row.joinedBy "right" orderRows customerRows relation.sourceAlias
      relation.targetAlias) := by
  obtain ⟨q, planned, shape⟩ := Outcome.any_ok (show
    (callers.plan orderTotal customerNames).toOption.any fun q =>
      q.joinPlan.software?.any fun sp => sp.relations.any fun relation =>
        relation.type == "right" &&
        (Row.join orderRows customerRows relation.sourceAlias relation.targetAlias
          relation.type).toOption.any fun rows => rows.length <
            (Row.joinedBy "right" orderRows customerRows relation.sourceAlias
              relation.targetAlias).length by decide +kernel)
  obtain ⟨sp, software, shape⟩ := JoinPlan.any_software shape
  obtain ⟨relation, listed, shape⟩ := List.any_eq_true.mp shape
  rw [Bool.and_eq_true, Value.beq_text] at shape
  obtain ⟨rows, joined, fewer⟩ := Outcome.any_ok shape.2
  refine ⟨q, sp, relation, rows, planned, software, listed, shape.1, joined, fun same => ?_⟩
  exact absurd same.length_eq (Nat.ne_of_lt (of_decide_eq_true fewer))

end Planner
end Datacube
