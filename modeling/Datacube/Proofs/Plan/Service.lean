import Datacube.Proofs.Join.Origin
import Datacube.Proofs.Plan.Steps

/-!
# The tables that a driver serves

A native plan has one driver, which serves the tables that take part. The tables on the way have the
connection key of these, so the driver serves them as well where the key tells the connection. It
does not where a connection is called `null`, as the missing connection is.
-/

namespace Datacube

namespace Planner
variable {p : Planner} {metrics : List RequestedMetric} {dimensions : List Dimension} {r : Resolved}
  {f : PathFinder} {joins : JoinGraph} {tables tables' : Entries String Table} {t u : Table}
  {participants : Entries String Table} {driver : Driver} {plan : QueryPlan} {query : Query}
  {identifier : String} {path : List JoinStep}

/-! ## Drivers -/

def Serves (ds : Drivers) (driver : Driver) (t : Table) : Prop :=
  ∃ d, ds.forTable t = .ok d ∧ d.identity = driver.identity

/-- The driver of a native plan serves all its participants. -/
theorem nativeDriver?_some {tables : List Table}
    (found : p.nativeDriver? tables = .ok (some driver)) :
    ∀ t ∈ tables, Serves p.drivers driver t := by
  cases tables with
  | nil => cases found
  | cons first rest =>
      rw [nativeDriver?] at found
      split at found
      · cases found
      · simp only [Outcome.bind_eq_ok] at found
        obtain ⟨d, serves, others, mapped, found⟩ := found
        split at found
        · rename_i agree
          obtain rfl := Option.some.inj (Outcome.pure_eq_ok.mp found)
          simp only [Bool.and_eq_true, List.all_eq_true, beq_iff_eq] at agree
          intro t member
          rcases List.mem_cons.mp member with rfl | later
          · exact ⟨d, serves, rfl⟩
          · obtain ⟨d', listed, serves'⟩ := exists_of_mem_left (Outcome.mapM_ok mapped) later
            exact ⟨d', serves', agree.1 d' listed⟩
        · cases Outcome.pure_eq_ok.mp found

theorem plan_native (planned : p.plan metrics dimensions = .ok plan)
    (native : plan.query = some query) :
    ∃ r driver, p.resolve metrics dimensions = .ok r ∧
      p.nativeDriver? r.participants.values = .ok (some driver) ∧
      p.nativePlan driver r dimensions = .ok plan := by
  simp only [Planner.plan, Outcome.bind_eq_ok] at planned
  obtain ⟨r, resolved, found, driven, planned⟩ := planned
  cases found with
  | some driver => exact ⟨r, driver, resolved, driven, planned⟩
  | none => cases (softwarePlan_query planned).symm.trans native

/-! ## Tables on the way -/

/-- The tables of a plan are reached from its participants. -/
theorem pathTables_reached (clear : f.schema.Unambiguous)
    (keyed : ∀ e ∈ participants, e.1 = e.2.identifier)
    (ends : ∀ s ∈ joins, ∃ t, t.identifier = s.targetId ∧ f.ReachedFrom participants.values t)
    (run : joins.foldlM (fun acc s => addPathTable f.schema acc s.targetId) participants =
      .ok tables) :
    participants <+: tables ∧ (∀ s ∈ joins, s.targetId ∈ tables.keys) ∧
      ∀ t ∈ tables.values, f.ReachedFrom participants.values t := by
  refine Outcome.foldlM_induction (fun done (now : Entries String Table) => participants <+: now ∧
    (∀ s ∈ done, s.targetId ∈ now.keys) ∧ ∀ t ∈ now.values, f.ReachedFrom participants.values t)
    run ⟨List.prefix_rfl, nofun, fun t member => ⟨t, member, [], .nil t⟩⟩ ?_
  rintro done s inside now next ⟨start, targets, reached⟩ added
  have listed : s ∈ joins := inside.subset (by simp)
  obtain ⟨t, same, here, member, path, chain⟩ := ends s listed
  -- The target of a join is a participant or the table that the schema has under its identifier.
  have place : s.targetId ∈ now.keys ∨ f.schema.Holds t := by
    rcases chain.holds_or_eq clear with rfl | held
    · obtain ⟨e, participates, rfl⟩ := List.mem_map.mp member
      rw [← same, ← keyed e participates]
      exact .inl (List.mem_map_of_mem (start.subset participates))
    · exact .inr held
  rcases addPathTable_located (place.imp_right fun held => ⟨t, same, held⟩) added with
    ⟨known, rfl⟩ | ⟨new, u, same', held', rfl⟩
  · refine ⟨start, fun s' earlier => ?_, reached⟩
    rcases List.mem_append.mp earlier with old | last
    · exact targets s' old
    · rw [List.mem_singleton.mp last]
      exact known
  · obtain rfl := held'.unique (place.resolve_left new) (same'.trans same.symm)
    refine ⟨start.trans (List.prefix_append _ _), fun s' earlier => ?_, fun t' member' => ?_⟩
    · rw [Entries.keys_append_one]
      rcases List.mem_append.mp earlier with old | last
      · exact List.mem_append_left _ (targets s' old)
      · simp [List.mem_singleton.mp last]
    · rw [Entries.values, List.map_append] at member'
      rcases List.mem_append.mp member' with old | last
      · exact reached t' old
      · rw [List.mem_singleton.mp last]
        exact ⟨here, member, path, chain⟩

/-- Joins of known origin connect tables that are known once their targets are. -/
theorem sources_known (keyed : ∀ e ∈ participants, e.1 = e.2.identifier)
    (start : participants <+: tables) (targets : ∀ s ∈ joins, s.targetId ∈ tables.keys)
    (sources : ∀ s ∈ joins, s.sourceId ∈ participants.values.map (·.identifier) ∨
      s.sourceId ∈ joins.map (·.targetId)) : ∀ s ∈ joins, s.sourceId ∈ tables.keys := by
  intro s member
  rcases sources s member with participates | behind
  · obtain ⟨t, inside, same⟩ := List.mem_map.mp participates
    obtain ⟨e, listed, rfl⟩ := List.mem_map.mp inside
    rw [← same, ← keyed e listed]
    exact List.mem_map_of_mem (start.subset listed)
  · obtain ⟨s', listed, same⟩ := List.mem_map.mp behind
    exact same ▸ targets s' listed

/-- What a native plan is made from: its joins, its tables and its driver. -/
theorem nativePlan_parts (planned : p.nativePlan driver r dimensions = .ok plan)
    (native : plan.query = some query) :
    ∃ schema joins, p.registry.compile = .ok schema ∧
      JoinGraph.build ⟨schema, true, p.joinType⟩ r.participants.values dimensions = .ok joins ∧
      joins.foldlM (fun acc s => addPathTable schema acc s.targetId) r.participants =
        .ok plan.tables ∧
      query.driver = driver ∧ ∀ joins', plan.joinPlan = .database joins' → joins' = joins := by
  simp only [nativePlan, Outcome.bind_eq_ok, Outcome.pure_eq_ok] at planned
  obtain ⟨schema, compiled, joins, connected, tables, passed, q₀, read, q₁, joined, q₂, grouped, q₃,
    measured, rfl⟩ := planned
  obtain rfl := Option.some.inj native
  refine ⟨schema, joins, compiled, connected, passed, ?_, fun joins' same => ?_⟩
  · rw [(Query.foldlM_adds (fun _ _ _ _ => Query.selectMetric_adds) measured).driver,
      (Query.foldlM_adds (fun _ _ _ _ added => (addDimension_adds added).1) grouped).driver,
      (Query.addAll_adds joined).driver, (Driver.queryFor_unconstrained read).1]
  · simp only at same
    split at same
    · cases same
    · exact (JoinPlan.database.inj same).symm

/-! ## Connections -/

def Known (p : Planner) (metrics : List RequestedMetric) (t : Table) : Prop :=
  t ∈ p.registry.all ∨ Brings metrics t

/-- Tables of one connection key have one provider and one connection. -/
def ConnectionsApart (known : Table → Prop) : Prop :=
  ∀ t u, known t → known u → t.connectionKey = u.connectionKey →
    t.provider = u.provider ∧ t.connection = u.connection

/-- Connection keys tell connections apart where no provider bears a colon and no connection is
called like a missing one. -/
theorem connectionsApart_of_named {known : Table → Prop}
    (bare : ∀ t, known t → ':' ∉ t.provider.toList)
    (named : ∀ t, known t → t.connection = .null ∨
      ∃ name, t.connection = .text name ∧ name ≠ "null") : ConnectionsApart known := by
  intro t u here there same
  have letters := congrArg String.toList same
  simp only [Table.connectionKey, Table.keyOf, String.toList_append, List.append_assoc] at letters
  obtain ⟨providers, connections⟩ := Text.first_unique (bare t here) (bare u there) letters
  have connections := String.toList_injective connections
  refine ⟨String.toList_injective providers, ?_⟩
  rcases named t here with missing | ⟨name, text, other⟩ <;>
    rcases named u there with missing' | ⟨name', text', other'⟩
  · rw [missing, missing']
  · rw [missing, text'] at connections
    exact absurd connections.symm other'
  · rw [text, missing'] at connections
    exact absurd connections other
  · rw [text, text'] at connections
    rw [text, text']
    exact congrArg Value.text connections

/-- A driver serves what is reached on the connection of a table that it serves. -/
theorem serves_reached (apart : ConnectionsApart (p.Known metrics)) (same : f.sameConnection = true)
    (chain : f.Chain t path u) (known : p.Known metrics t) (known' : p.Known metrics u)
    (serves : Serves p.drivers driver t) : Serves p.drivers driver u := by
  obtain ⟨d, found, identical⟩ := serves
  have permitted := chain.permits
  simp only [PathFinder.permits, same, Bool.not_true, Bool.false_or, beq_iff_eq] at permitted
  obtain ⟨providers, connections⟩ := apart t u known known' permitted
  refine ⟨d, ?_, identical⟩
  rw [Drivers.forTable, ← connections, ← providers]
  exact found

/-- A native plan only touches tables that its driver serves: its participants, the tables that its
joins connect, and no others. -/
theorem plan_served (clear : ∀ schema, p.registry.compile = .ok schema → schema.Unambiguous)
    (apart : ConnectionsApart (p.Known metrics)) (planned : p.plan metrics dimensions = .ok plan)
    (native : plan.query = some query) :
    ∃ r, p.resolve metrics dimensions = .ok r ∧ r.participants <+: plan.tables ∧
      (∀ joins, plan.joinPlan = .database joins → ∀ s ∈ joins,
        s.sourceId ∈ plan.tables.keys ∧ s.targetId ∈ plan.tables.keys) ∧
      ∀ t ∈ plan.tables.values, Serves p.drivers query.driver t := by
  obtain ⟨r, driver, resolved, driven, built⟩ := plan_native planned native
  obtain ⟨schema, joins, compiled, connected, passed, rfl, database⟩ :=
    nativePlan_parts built native
  have known := participants_known resolved
  have keyed := participants_keyed resolved
  have serves := nativeDriver?_some driven
  let f : PathFinder := ⟨schema, true, p.joinType⟩
  obtain ⟨origin, sources⟩ := JoinGraph.build_rooted (f := f) (Schema.nodup_keys compiled) connected
  have ends : ∀ s ∈ joins, ∃ t, t.identifier = s.targetId ∧
      f.ReachedFrom r.participants.values t := by
    intro s member
    obtain ⟨_, t, _, _, rfl, -, target⟩ := (origin s member).ends
    exact ⟨t, rfl, target⟩
  obtain ⟨start, targets, reached⟩ :=
    pathTables_reached (f := f) (clear schema compiled) keyed ends passed
  refine ⟨r, resolved, start, fun joins' same s member => ?_, fun t member => ?_⟩
  · obtain rfl := database joins' same
    exact ⟨sources_known keyed start targets sources s member, targets s member⟩
  · obtain ⟨u, participates, path, chain⟩ := reached t member
    refine serves_reached apart rfl chain (known u participates) ?_ (serves u participates)
    rcases chain.holds_or_eq (clear schema compiled) with rfl | held
    · exact known t participates
    · exact .inl (Schema.get?_tables compiled held).2

/-! ## Customers between orders and regions -/

open PathFinder (belonging)

/-- Orders and regions without a connection, and customers between them on the given one. The
connection `null` has a driver of its own. -/
def regional (connection : Value) : Planner where
  registry := .ofSources [⟨"shop", .indexed, .null,
    [belonging "shop" "orders" [("customer", "customers")],
      { belonging "shop" "customers" [("region", "regions")] with connection },
      belonging "shop" "regions" []]⟩]
  drivers := ⟨[("null", ⟨"other", "other", .sqlite, .recorded, .bool true, .bool true⟩)],
    some ⟨"main", "main", .sqlite, .recorded, .bool true, .bool true⟩⟩
  renderings := .builtin
  joinType := "left"

def regionalTotal : List RequestedMetric := [.aggregation ⟨.sum, "orders.total", "total", 0.5⟩]

def regionNames : List Dimension := [.make .plain "regions.name"]

theorem regional_indexed (connection : Value) : (regional connection).registry.Indexed := by
  apply Registry.indexed_ofSources
  intro s member
  rw [List.mem_singleton.mp member]
  exact ⟨rfl, by simp [belonging], by simp [Table.Plain, belonging], by simp [belonging]⟩

theorem regional_known {connection : Value} {t : Table}
    (known : (regional connection).Known regionalTotal t) :
    t.provider = "shop" ∧ (t.connection = .null ∨ t.connection = connection) := by
  rcases known with listed | ⟨source, a, member, -⟩
  · obtain ⟨e, listed, inside⟩ := Registry.mem_all.mp listed
    rw [List.mem_singleton.mp listed] at inside
    simp only [List.mem_cons, List.not_mem_nil, or_false] at inside
    rcases inside with rfl | rfl | rfl
    · exact ⟨rfl, .inl rfl⟩
    · exact ⟨rfl, .inr rfl⟩
    · exact ⟨rfl, .inl rfl⟩
  · simp [regionalTotal] at member

theorem regional_served : ∃ plan query r,
    (regional .null).plan regionalTotal regionNames = .ok plan ∧ plan.query = some query ∧
    plan.tables.keys = ["shop:orders", "shop:regions", "shop:customers"] ∧
    (regional .null).resolve regionalTotal regionNames = .ok r ∧ r.participants <+: plan.tables ∧
    (∀ joins, plan.joinPlan = .database joins → ∀ s ∈ joins,
      s.sourceId ∈ plan.tables.keys ∧ s.targetId ∈ plan.tables.keys) ∧
    ∀ t ∈ plan.tables.values, Serves (regional .null).drivers query.driver t := by
  obtain ⟨plan, planned, shape⟩ := Outcome.any_ok (show
    ((regional .null).plan regionalTotal regionNames).toOption.any fun plan =>
      plan.query.isSome && plan.tables.keys == ["shop:orders", "shop:regions", "shop:customers"] by
    decide +kernel)
  rw [Bool.and_eq_true, Option.isSome_iff_exists, beq_iff_eq] at shape
  obtain ⟨⟨query, native⟩, keys⟩ := shape
  have apart : ConnectionsApart ((regional .null).Known regionalTotal) :=
    connectionsApart_of_named (fun t known => by simp [(regional_known known).1])
      fun t known => .inl ((regional_known known).2.elim id id)
  obtain ⟨r, resolved, served⟩ := plan_served
    (fun schema compiled => (regional_indexed .null).unambiguous compiled) apart planned native
  exact ⟨plan, query, r, planned, native, keys, resolved, served⟩

/-- Customers on a connection called `null` are joined by the driver of the tables without one. -/
theorem regional_unserved : ∃ plan query t, (regional "null").plan regionalTotal regionNames =
      .ok plan ∧ plan.query = some query ∧ t ∈ plan.tables.values ∧
    ¬ Serves (regional "null").drivers query.driver t := by
  obtain ⟨plan, planned, shape⟩ := Outcome.any_ok (show
    ((regional "null").plan regionalTotal regionNames).toOption.any fun plan =>
      plan.query.any fun query => plan.tables.values.any fun t =>
        ((regional "null").drivers.forTable t).toOption.any
          (·.identity != query.driver.identity) by
    decide +kernel)
  obtain ⟨query, native, shape⟩ := (Option.any_eq_true _ _).mp shape
  obtain ⟨t, listed, shape⟩ := List.any_eq_true.mp shape
  obtain ⟨d, found, other⟩ := Outcome.any_ok shape
  refine ⟨plan, query, t, planned, native, listed, ?_⟩
  rintro ⟨d', found', same⟩
  rw [found, Except.ok.injEq] at found'
  exact bne_iff_ne.mp other (found' ▸ same)

end Planner
end Datacube
