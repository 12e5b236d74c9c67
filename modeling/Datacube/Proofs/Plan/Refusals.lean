import Datacube.Plan.Software
import Datacube.Proofs.Outcome

/-!
# Where requests are refused

Refusals because of the dependencies between metrics come from planning the computed metrics. No
other part of planning makes one: looking up tables and drivers, joining tables and building queries
are refused for reasons of their own.
-/

namespace Datacube
open Text

/-- The error says that a metric depends on what is not requested, or on itself. -/
def Error.ofDependencies : Error → Bool
  | .refused (.unknownDependency ..) | .refused (.circularDependency _) => true
  | _ => false

/-- An operation that is not refused because of dependencies between metrics. -/
def Independent {α : Type} (x : Outcome α) : Prop :=
  ∀ e, x = .error e → e.ofDependencies = false

/-! ## Sequences of operations -/

namespace Outcome
variable {α β : Type} {x : Outcome α} {items : List α}

@[simp]
theorem independent_ok (a : α) : Independent (.ok a : Outcome α) := by
  intro e failed
  cases failed

@[simp]
theorem independent_pure (a : α) : Independent (pure a : Outcome α) := independent_ok a

@[simp]
theorem independent_error {e : Error} (reason : e.ofDependencies = false) :
    Independent (.error e : Outcome α) := by
  rintro e' ⟨⟩
  exact reason

@[simp]
theorem independent_fail (fault : Fault) : Independent (fail fault : Outcome α) :=
  independent_error rfl

@[simp]
theorem independent_refuse {cause : Cause} (reason : (Error.refused cause).ofDependencies = false) :
    Independent (refuse cause : Outcome α) :=
  independent_error reason

@[simp]
theorem independent_bind {f : α → Outcome β} :
    Independent (x >>= f) ↔ Independent x ∧ ∀ a, x = .ok a → Independent (f a) := by
  constructor
  · intro run
    refine ⟨fun e failed => run e ?_, fun a first e failed => run e ?_⟩
    · exact bind_eq_error.mpr (.inl failed)
    · exact bind_eq_error.mpr (.inr ⟨a, first, failed⟩)
  · rintro ⟨first, later⟩ e failed
    rcases bind_eq_error.mp failed with failed | ⟨a, ran, failed⟩
    · exact first e failed
    · exact later a ran e failed

@[simp]
theorem independent_map {f : α → β} : Independent (f <$> x) ↔ Independent x := by
  rw [map_eq_pure_bind, independent_bind]
  exact and_iff_left fun a _ => independent_pure (f a)

/-- A part of an operation and what follows it. -/
theorem independent_next {f : α → Outcome β} (first : Independent x)
    (later : ∀ a, Independent (f a)) : Independent (x >>= f) :=
  independent_bind.mpr ⟨first, fun a _ => later a⟩

@[simp]
theorem independent_mapM {f : α → Outcome β} (each : ∀ a, Independent (f a)) :
    Independent (items.mapM f) := by
  intro e failed
  obtain ⟨a, -, failed⟩ := mapM_error failed
  exact each a e failed

@[simp]
theorem independent_foldlM {f : β → α → Outcome β} {first : β}
    (each : ∀ b a, Independent (f b a)) : Independent (items.foldlM f first) := by
  intro e failed
  obtain ⟨b, a, -, failed⟩ := foldlM_error failed
  exact each b a e failed

@[simp]
theorem independent_forM {f : α → Outcome Unit} (each : ∀ a, Independent (f a)) :
    Independent (items.forM f) := by
  intro e failed
  obtain ⟨a, -, failed⟩ := forM_error failed
  exact each a e failed

@[simp]
theorem independent_anyM {f : α → Outcome Bool} (each : ∀ a, Independent (f a)) :
    Independent (items.anyM f) := by
  induction items with
  | nil => exact independent_ok false
  | cons a rest ih =>
      refine independent_next (each a) fun holds => ?_
      cases holds with
      | true => exact independent_ok true
      | false => exact ih

@[simp]
theorem independent_findSomeM? {f : α → Outcome (Option β)} (each : ∀ a, Independent (f a)) :
    Independent (items.findSomeM? f) := by
  induction items with
  | nil => exact independent_ok none
  | cons a rest ih =>
      refine independent_next (each a) fun found => ?_
      cases found with
      | some b => exact independent_ok (some b)
      | none => exact ih

end Outcome

open Outcome

/-! ## Values -/

namespace Value

@[simp]
theorem independent_onlyText (v : Value) : Independent v.onlyText := by
  cases v <;> simp [onlyText]

@[simp]
theorem independent_objectFields (v : Value) : Independent v.objectFields := by
  cases v <;> simp [objectFields]

@[simp]
theorem independent_toItems (v : Value) : Independent v.toItems := by
  cases v <;> simp [toItems]

@[simp]
theorem independent_toPair (v : Value) : Independent v.toPair := by
  refine independent_next (independent_toItems v) fun items => ?_
  split
  · split <;> simp
  · simp

@[simp]
theorem independent_toFields (v : Value) : Independent v.toFields := by
  cases v <;> simp [toFields]

@[simp]
theorem independent_required (fields : Entries Value Value) (name : String) :
    Independent (required fields name) := by
  rw [required]
  split <;> simp

@[simp]
theorem independent_equals (a b : Value) : Independent (a.equals b) := by
  rw [equals]
  split <;> simp

@[simp]
theorem independent_occursIn (v collection : Value) : Independent (v.occursIn collection) := by
  rw [occursIn.eq_def]
  split
  · simp
  · split <;> simp
  · split <;> simp
  · simp

@[simp]
theorem independent_filterUnder (filters : Value) (name : String) :
    Independent (filters.filterUnder name) := by
  rw [filterUnder.eq_def]
  split
  · simp
  · refine independent_next (independent_occursIn _ _) fun holds => ?_
    split <;> simp

end Value

/-! ## Dialects -/

namespace Dialect
variable (d : Dialect)

@[simp]
theorem independent_wrap (s : String) : Independent (d.wrap s) := by
  rw [wrap]
  split <;> simp

@[simp]
theorem independent_wrapValue (v : Value) : Independent (d.wrapValue v) := by
  cases v <;> simp [wrapValue]

@[simp]
theorem independent_timeBucket (table column : Value) (granularity : String) :
    Independent (d.timeBucket table column granularity) := by
  rw [timeBucket]
  split
  · simp
  · exact independent_refuse rfl

end Dialect

/-! ## Queries -/

namespace Query

namespace Relational
variable (d : Dialect)

@[simp]
theorem independent_columnOf (v : Value) : Independent (columnOf d v) := by
  simp [columnOf]

@[simp]
theorem independent_source (v : Value) : Independent (source v) := by
  cases v <;> simp [source]

@[simp]
theorem independent_readable {α : Type} (x : Except Sql.SyntaxError α) :
    Independent (readable x) := by
  rw [readable.eq_def]
  split <;> simp

@[simp]
theorem independent_fragment (v : Value) : Independent (fragment d v) := by
  refine independent_next (independent_source v) fun s => ?_
  split <;> simp

@[simp]
theorem independent_rawQuery (v : Value) : Independent (rawQuery d v) := by
  refine independent_next (independent_source v) fun s => ?_
  refine independent_next (independent_readable _) fun e => ?_
  split <;> simp

@[simp]
theorem independent_subqueryAlias (aliasName : Value) :
    Independent (subqueryAlias d aliasName) := by
  rw [subqueryAlias.eq_def]
  split
  · simp
  · split <;> simp

@[simp]
theorem independent_definitionName (name : Value) : Independent (definitionName d name) := by
  rw [definitionName]
  split <;> simp

@[simp]
theorem independent_comparison (left : String) (operator : Value) (right : String) :
    Independent (comparison left operator right) := by
  refine independent_next (Value.independent_onlyText operator) fun s => ?_
  dsimp only
  split
  · simp
  · split
    · simp
    · exact independent_error rfl

@[simp]
theorem independent_condition (reference operator v : Value) :
    Independent (condition d reference operator v) := by
  simp [condition]

@[simp]
theorem independent_membership (reference : Value) (values : List Value) :
    Independent (membership d reference values) := by
  simp [membership]

@[simp]
theorem independent_exclusion (reference : Value) (values : List Value) :
    Independent (exclusion d reference values) := by
  simp [exclusion]

@[simp]
theorem independent_extend (s : Selection) (step : QueryStep) :
    Independent (s.extend d step) := by
  cases step <;> simp only [Selection.extend]
  case filterIn reference values =>
    split <;> simp
  case filterOut reference values =>
    split <;> simp
  all_goals simp

end Relational

variable (q : Query)

@[simp]
theorem independent_check (s : QueryStep) : Independent (q.check s) := by
  rw [check]
  split
  · simp
  · cases s <;> simp only [ClickHouse.check]
    case define name sql => split <;> simp
    all_goals simp
  · simp

theorem independent_take (s : QueryStep) : Independent (q.take s).1 := by
  rw [take]
  split
  · simp
  · rename_i e failed _
    exact independent_error (independent_check q s e failed)
  · rename_i e failed _
    exact independent_error (independent_check q s e failed)

theorem independent_takeAll (steps : List QueryStep) : Independent (q.takeAll steps).1 := by
  induction steps generalizing q with
  | nil => exact independent_ok ()
  | cons s rest ih =>
      rw [takeAll]
      split
      · exact ih _
      · exact independent_take q s

@[simp]
theorem independent_addAll (steps : List QueryStep) : Independent (q.addAll steps) :=
  independent_next (independent_takeAll q steps) fun _ => independent_ok _

@[simp]
theorem independent_add (s : QueryStep) : Independent (q.add s) := independent_addAll q [s]

end Query

/-! ## Drivers -/

namespace Driver
variable (d : Driver)

@[simp]
theorem independent_query (table : Value) : Independent (d.query table) := by
  rw [query]
  split <;> simp

@[simp]
theorem independent_queryFor (t : Table) : Independent (d.queryFor t) := by
  rw [queryFor]
  split <;> simp

end Driver

namespace Drivers
variable (ds : Drivers)

@[simp]
theorem independent_find? (connection provider : Value) :
    Independent (ds.find? connection provider) := by
  rw [find?]
  split
  · simp
  · split <;> simp

@[simp]
theorem independent_forTable (t : Table) : Independent (ds.forTable t) := by
  refine independent_next (independent_find? ds _ _) fun found => ?_
  split
  · simp
  · exact independent_refuse rfl

end Drivers

/-! ## Schemas and joins -/

@[simp]
theorem Source.independent_table (s : Source) (identifier : String) :
    Independent (s.table identifier) := by
  rw [Source.table]
  split
  · simp
  · exact independent_refuse rfl

namespace Registry
variable (r : Registry)

@[simp]
theorem independent_table (identifier : String) : Independent (r.table identifier) := by
  rw [table]
  split
  · split
    · exact independent_refuse rfl
    · split
      · simp
      · exact independent_refuse rfl
  · split
    · exact independent_refuse rfl
    · simp
    · exact independent_refuse rfl

@[simp]
theorem independent_compile : Independent r.compile := by
  rw [compile, Schema.ofOwned]
  split <;> simp

end Registry

@[simp]
theorem Schema.independent_find (s : Schema) (identifier preferred : Value) :
    Independent (s.find identifier preferred) := by
  rw [find]
  split
  · exact independent_error rfl
  · split
    · simp
    · split
      · cases identifier <;> simp [preferred?]
      · simp

namespace PathFinder
variable (f : PathFinder)

@[simp]
theorem independent_expand (target : String) (source : Table) (relations : List Relation)
    (fresh : List String) : Independent (f.expand target source relations fresh) := by
  induction relations generalizing fresh with
  | nil => exact independent_ok _
  | cons r rest ih =>
      have next : Independent (f.next? source r) := by simp [next?]
      rw [expand]
      split
      · rename_i e failed
        exact independent_error (next e failed)
      · exact ih fresh
      · dsimp only
        split
        · split
          · simp
          · split
            · rename_i e failed
              exact independent_error (ih _ e failed)
            · simp
        · exact ih fresh

@[simp]
theorem independent_search (target : String) (queue : List (Table × List JoinStep))
    (fresh : List String) : Independent (f.search target queue fresh) := by
  fun_induction search f target queue fresh with
  | case1 => exact independent_ok _
  | case2 fresh t path rest e failed =>
      exact independent_error (independent_expand f _ _ _ _ e failed)
  | case3 => exact independent_ok _
  | case4 _ _ _ _ _ _ _ _ ih => exact ih

@[simp]
theorem independent_find (source target : Table) : Independent (f.find source target) := by
  rw [find]
  split
  · simp
  · split <;> simp

end PathFinder

namespace JoinGraph
variable (f : PathFinder) (dimensions : List Dimension)

theorem independent_attach (connected : List Table) (target : Table) :
    Independent (attach f connected target dimensions) := by
  refine independent_next ?_ fun found => ?_
  · simp [path?]
  · split
    · simp
    · split
      · simp
      · exact independent_refuse rfl

@[simp]
theorem independent_add (g : Growth) (target : Table) :
    Independent (g.add f dimensions target) := by
  rw [Growth.add]
  split
  · simp
  · exact independent_next (independent_attach f dimensions _ _) fun _ => independent_ok _

@[simp]
theorem independent_build (tables : List Table) : Independent (build f tables dimensions) := by
  rw [build.eq_def]
  split <;> simp

end JoinGraph

/-! ## Dimensions and metrics -/

theorem Dimension.independent_minimum? (d : Dimension) : Independent d.minimum? := by
  refine independent_next (Value.independent_objectFields _) fun fields => ?_
  split <;> simp

theorem Dimension.independent_checkGranularity (requested : Dimension) (matching : List Dimension)
    (d : Option Dialect) : Independent (requested.checkGranularity matching d) := by
  rw [checkGranularity.eq_def]
  split
  · split
    · exact independent_refuse rfl
    · split
      · exact independent_refuse rfl
      · refine independent_forM fun declared => ?_
        refine independent_next (independent_minimum? declared) fun minimum => ?_
        split
        · split
          · exact independent_refuse rfl
          · simp
        · simp
  · simp

namespace BoundDimension
variable (d : BoundDimension)

@[simp]
theorem independent_check (dialect : Dialect) : Independent (d.check dialect) :=
  Dimension.independent_checkGranularity _ _ _

@[simp]
theorem independent_steps (dialect : Dialect) (ordered : Bool) :
    Independent (d.steps dialect ordered) := by
  rw [steps.eq_def]
  split <;> simp

@[simp]
theorem independent_filter (q : Query) : Independent (d.filter q) := by
  rw [filter]
  split
  · simp
  · refine independent_next (Value.independent_filterUnder _ _) fun only => ?_
    extract_lets afterExcept afterOnly
    have last : ∀ q, Independent (afterExcept q) := by
      intro q
      refine independent_next (Value.independent_filterUnder _ _) fun condition => ?_
      split <;> simp
    have rest : ∀ q, Independent (afterOnly q) := by
      intro q
      refine independent_next (Value.independent_filterUnder _ _) fun except => ?_
      split <;> simp [last]
    split <;> simp [rest]

end BoundDimension

namespace Query
variable (q : Query)

@[simp]
theorem independent_selectDimension (d : BoundDimension) (ordered : Bool) :
    Independent (q.selectDimension d ordered) := by
  simp [selectDimension]

@[simp]
theorem independent_selectKey (reference aliasName : String) :
    Independent (q.selectKey reference aliasName) :=
  independent_addAll q _

@[simp]
theorem independent_selectMetric (renderings : Renderings) (a : Aggregation) :
    Independent (q.selectMetric renderings a) := by
  refine independent_next ?_ fun text => independent_add _ _
  rw [Renderings.render]
  split
  · rename_i rendering _
    cases rendering <;> simp only [Rendering.render]
    case countRows =>
      refine independent_next (Dialect.independent_wrapValue _ _) fun aliasName => ?_
      split <;> simp
    case template text =>
      refine independent_next (Dialect.independent_wrap _ _) fun column => ?_
      split <;> simp
    all_goals simp
  · exact independent_refuse rfl

end Query

/-! ## Plans -/

namespace Planner
variable (p : Planner) (r : Resolved) (requested : List Dimension)

@[simp]
theorem independent_bindDimension (tables : List Table) (primary : Table) (d : Dimension) :
    Independent (p.bindDimension tables primary d) := by
  rw [bindDimension]
  split
  · simp
  · dsimp only
    split <;> simp

@[simp]
theorem independent_nativeDriver? (tables : List Table) : Independent (p.nativeDriver? tables) := by
  rw [nativeDriver?.eq_def]
  split
  · simp
  · split
    · simp
    · refine independent_next (Drivers.independent_forTable _ _) fun driver => ?_
      refine independent_next (independent_mapM (Drivers.independent_forTable _)) fun others => ?_
      split <;> simp

@[simp]
theorem independent_addPathTable (schema : Schema) (tables : Entries String Table)
    (identifier : String) : Independent (addPathTable schema tables identifier) := by
  rw [addPathTable]
  split
  · simp
  · refine independent_next (Schema.independent_find _ _ _) fun found => ?_
    split <;> simp

@[simp]
theorem independent_addDimension (driver : Driver) (q : Query) (d : BoundDimension) :
    Independent (addDimension driver q d) := by
  simp [addDimension]

theorem independent_nativePlan (driver : Driver) :
    Independent (p.nativePlan driver r requested) := by
  simp [nativePlan]

theorem independent_checkRollups (aggregations : Entries Value Aggregation) :
    Independent (checkRollups aggregations) := by
  refine independent_forM fun entry => ?_
  dsimp only
  split
  · simp
  · exact independent_refuse rfl

theorem independent_addJoin (tables : Entries String Table) (names : Entries String Value)
    (dimensions : List BoundDimension) (k : MergeKeys) (s : JoinStep) :
    Independent (addJoin tables names dimensions k s) := by
  have columns : Independent (joinColumns s.relation) := by
    rw [joinColumns]
    cases s.relation.type
    case belongsToMany => exact independent_refuse rfl
    all_goals exact independent_ok _
  rw [addJoin]
  refine independent_next columns fun pair => ?_
  split
  · simp
  · split
    · dsimp only
      split <;> simp
    · simp [keyAlias]

@[simp]
theorem independent_selectOwned (q : Query) (d : BoundDimension) :
    Independent (selectOwned q d) := by
  simp [selectOwned]

@[simp]
theorem independent_tableQuery (k : MergeKeys) (identifier : String) (t : Table) :
    Independent (p.tableQuery r k identifier t) := by
  simp [tableQuery]

theorem independent_dimensionFilters (dimensions : List BoundDimension) :
    Independent (dimensionFilters dimensions) := by
  refine independent_next (independent_mapM fun d => ?_) fun _ => independent_ok _
  refine independent_next (Value.independent_toFields _) fun fields => ?_
  split <;> simp

theorem independent_softwarePlan : Independent (p.softwarePlan r requested) := by
  simp [softwarePlan, independent_checkRollups, independent_addJoin, independent_dimensionFilters]

/-- Once a request is resolved, its plan is not refused because of dependencies. -/
theorem independent_plan {metrics : List RequestedMetric}
    (resolved : p.resolve metrics requested = .ok r) : Independent (p.plan metrics requested) := by
  rw [plan, resolved]
  change Independent (p.nativeDriver? r.participants.values >>= _)
  refine independent_next (independent_nativeDriver? p _) fun driver => ?_
  split
  · exact independent_nativePlan p r requested _
  · exact independent_softwarePlan p r requested

end Planner

end Datacube
