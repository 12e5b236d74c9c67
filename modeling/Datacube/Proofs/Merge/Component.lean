import Datacube.Proofs.Grouping
import Datacube.Proofs.Merge.NestedLoop
import Mathlib.Logic.Relation

/-!
# Merging a component

Relations connect tables, whichever way they point. The schedule merges every table that is
connected with the primary one, each once and along a relation whose other table is merged, and
leaves the relations of other tables. So merging is stuck on just those, where it does not fail by
a key that cannot be compared.
-/

namespace Datacube

/-- The tables, the key columns and the type of a relation are texts. -/
structure JoinRelation.Named (r : JoinRelation) : Prop where
  source : ∃ s, r.source = .text s
  target : ∃ s, r.target = .text s
  sourceAlias : ∃ s, r.sourceAlias = .text s
  targetAlias : ∃ s, r.targetAlias = .text s
  type : ∃ s, r.type = .text s

namespace Row
variable {left right rows : List Row} {row other : Row} {columns : List Value} {c : Value}
  {own theirs type : Value} {e : Value × Value}

/-- What stands under some columns can be compared. -/
def Comparable (columns : List Value) (rows : List Row) : Prop :=
  ∀ row ∈ rows, ∀ e ∈ row, e.1 ∈ columns → e.2.isKey = true

theorem Comparable.cell (comparable : Comparable columns rows)
    (texts : ∀ c ∈ columns, ∃ s, c = .text s) (listed : c ∈ columns) :
    ∀ row ∈ rows, (row.cell c).isKey = true := by
  intro row member
  obtain ⟨s, rfl⟩ := texts c listed
  rw [Row.cell]
  cases found : row.get? (.text s) with
  | none => rfl
  | some v =>
      exact comparable row member _ (Entries.mem_of_get? (Entries.exact_text s) found) listed

theorem mem_merge (member : e ∈ row.merge other) (text : ∃ s, e.1 = .text s) :
    e ∈ row ∨ e ∈ other := by
  obtain ⟨s, text⟩ := text
  rw [merge, Entries.putAll] at member
  induction other generalizing row with
  | nil => exact .inl member
  | cons first rest ih =>
      rcases ih member with put | later
      · rcases Entries.mem_put_known put with old | ⟨rfl, -⟩ | ⟨_, -, -, here, value⟩
        · exact .inl old
        · exact .inr List.mem_cons_self
        · rw [text, Value.beq_text, ← text] at here
          exact .inr (Prod.ext here.symm value ▸ List.mem_cons_self)
      · exact .inr (List.mem_cons_of_mem first later)

theorem mem_pad {added : List Value} (member : e ∈ row.pad added) : e ∈ row ∨ e.2 = .null := by
  rw [pad] at member
  induction added generalizing row with
  | nil => exact .inl member
  | cons column rest ih =>
      rcases ih member with before | null
      · exact (Entries.mem_putNew before).imp_right fun here => congrArg Prod.snd here
      · exact .inr null

theorem Comparable.join (comparable : Comparable columns left)
    (texts : ∀ c ∈ columns, ∃ s, c = .text s) (comparable' : Comparable columns right)
    (joined : Row.join left right own theirs type = .ok rows) : Comparable columns rows := by
  obtain ⟨keep, -, rfl⟩ := join_ok joined
  intro row' member e inside listed
  obtain ⟨row, known, member⟩ := List.mem_flatMap.mp member
  rcases mem_joinOne member with ⟨other, found, -, rfl⟩ | rfl
  · rcases mem_merge inside (texts _ listed) with here | there
    · exact comparable row known e here listed
    · exact comparable' other found e there listed
  · rcases mem_pad inside with here | null
    · exact comparable row known e here listed
    · rw [null]
      rfl

end Row

namespace MergeStep
variable {relations pending : List JoinRelation} {merged : List Value} {r : JoinRelation}
  {s : MergeStep} {steps later : List MergeStep} {a table : Value}
  {results : Entries Value (List Row)}

def back (r : JoinRelation) : MergeStep := ⟨r.source, r.targetAlias, r.sourceAlias, r.type⟩

/-- A relation stands between two tables. -/
def Linked (relations : List JoinRelation) (a b : Value) : Prop :=
  ∃ r ∈ relations, r.source = a ∧ r.target = b ∨ r.source = b ∧ r.target = a

/-- The tables that relations lead to from a table, in either direction. -/
def Connected (relations : List JoinRelation) : Value → Value → Prop :=
  Relation.ReflTransGen (Linked relations)

open Classical in
/-- The relations of tables that are not connected with the primary one. -/
noncomputable def unreached (primary : Value) (relations : List JoinRelation) :
    List JoinRelation :=
  relations.filter fun r =>
    ¬ Connected relations primary r.source ∧ ¬ Connected relations primary r.target

/-- A merge along a relation from a merged table to its other one. -/
def Along (merged : List Value) (r : JoinRelation) (s : MergeStep) : Prop :=
  s = forward r ∧ r.source ∈ merged ∨ s = back r ∧ r.target ∈ merged

/-- Merges along relations, each of a table that is not merged before. -/
inductive Walk (relations : List JoinRelation) : List Value → List MergeStep → Prop where
  | nil {merged : List Value} : Walk relations merged []
  | cons {merged : List Value} {r : JoinRelation} {s : MergeStep} {steps : List MergeStep}
      (member : r ∈ relations) (along : Along merged r s) (new : s.table ∉ merged)
      (rest : Walk relations (merged ++ [s.table]) steps) : Walk relations merged (s :: steps)

/-- The merged tables are those connected with the primary one, and no table is merged twice. -/
structure Spans (primary : Value) (relations : List JoinRelation) (steps : List MergeStep) :
    Prop where
  walk : Walk relations [primary] steps
  once : (primary :: steps.map (·.table)).Nodup
  all : ∀ table, table ∈ primary :: steps.map (·.table) ↔ Connected relations primary table

/-! ## Walks -/

theorem Walk.append (walk : Walk relations merged steps)
    (next : Walk relations (merged ++ steps.map (·.table)) later) :
    Walk relations merged (steps ++ later) := by
  induction walk with
  | nil => simpa using next
  | cons member along new _ ih => exact .cons member along new (ih (by simpa using next))

theorem Walk.nodup (walk : Walk relations merged steps) (distinct : merged.Nodup) :
    (merged ++ steps.map (·.table)).Nodup := by
  induction walk with
  | nil => simpa using distinct
  | cons _ _ new _ ih =>
      have grown := ih (List.concat_eq_append ▸ distinct.concat new)
      rwa [List.append_assoc] at grown

theorem Walk.origin (walk : Walk relations merged steps) (member : s ∈ steps) :
    ∃ r ∈ relations, s = forward r ∨ s = back r := by
  induction walk with
  | nil => cases member
  | @cons _ r _ _ listed along _ _ ih =>
      rcases List.mem_cons.mp member with rfl | later
      · exact ⟨r, listed, along.imp And.left And.left⟩
      · exact ih later

theorem Along.connected (along : Along merged r s) (member : r ∈ relations)
    (start : ∀ table ∈ merged, Connected relations a table) : Connected relations a s.table := by
  rcases along with ⟨rfl, known⟩ | ⟨rfl, known⟩
  · exact Relation.ReflTransGen.tail (start _ known) ⟨r, member, .inl ⟨rfl, rfl⟩⟩
  · exact Relation.ReflTransGen.tail (start _ known) ⟨r, member, .inr ⟨rfl, rfl⟩⟩

/-- What is merged along relations is connected with what was merged before. -/
theorem Walk.connected (walk : Walk relations merged steps)
    (start : ∀ table ∈ merged, Connected relations a table) :
    ∀ table ∈ merged ++ steps.map (·.table), Connected relations a table := by
  induction walk with
  | nil => simpa using start
  | @cons merged _ s _ member along _ _ ih =>
      have grown : ∀ table ∈ merged ++ [s.table], Connected relations a table := by
        intro table listed
        rcases List.mem_append.mp listed with old | added
        · exact start table old
        · exact List.mem_singleton.mp added ▸ along.connected member start
      have final := ih grown
      rwa [List.append_assoc] at final

/-! ## Passes -/

/-- Neither table of a relation is merged. -/
def Apart (merged : List Value) (r : JoinRelation) : Prop :=
  r.source ∉ merged ∧ r.target ∉ merged

def Within (merged : List Value) (r : JoinRelation) : Prop :=
  r.source ∈ merged ∧ r.target ∈ merged

/-- What is left of relations once tables are merged: none that is apart from those is dropped, and
what is dropped is between them. -/
structure Leaves (merged : List Value) (pending left : List JoinRelation) : Prop where
  sublist : left.Sublist pending
  keeps : ∀ P : JoinRelation → Bool, (∀ r, P r = true → Apart merged r) →
    left.filter P = pending.filter P
  settles : ∀ r ∈ pending, r ∈ left ∨ Within merged r

structure Passed (relations : List JoinRelation) (merged : List Value)
    (pending : List JoinRelation) (next : Pass) : Prop where
  walk : Walk relations merged next.steps
  grown : next.merged = merged ++ next.steps.map (·.table)
  leaves : Leaves next.merged pending next.remaining
  idle : next.remaining.length = pending.length →
    next.steps = [] ∧ ∀ r ∈ pending, Apart merged r

theorem Passed.subset {next : Pass} (passed : Passed relations merged pending next) :
    merged ⊆ next.merged := by
  rw [passed.grown]
  exact List.subset_append_left _ _

theorem Leaves.drop {left : List JoinRelation} (leaves : Leaves merged pending left)
    (within : Within merged r) : Leaves merged (r :: pending) left where
  sublist := leaves.sublist.cons r
  keeps := by
    intro P apart
    rw [List.filter_cons, if_neg fun holds => (apart r holds).1 within.1]
    exact leaves.keeps P apart
  settles := by
    intro r' member
    rcases List.mem_cons.mp member with rfl | later
    · exact .inr within
    · exact leaves.settles r' later

theorem Leaves.defer {left : List JoinRelation} (leaves : Leaves merged pending left)
    (r : JoinRelation) : Leaves merged (r :: pending) (r :: left) where
  sublist := leaves.sublist.cons_cons r
  keeps := by
    intro P apart
    rw [List.filter_cons, List.filter_cons, leaves.keeps P apart]
  settles := by
    intro r' member
    rcases List.mem_cons.mp member with rfl | later
    · exact .inl List.mem_cons_self
    · exact (leaves.settles r' later).imp_left (List.mem_cons_of_mem r)

theorem Within.mono {grown : List Value} (within : Within merged r) (subset : merged ⊆ grown) :
    Within grown r :=
  ⟨subset within.1, subset within.2⟩

theorem Leaves.trans {grown : List Value} {left last : List JoinRelation}
    (leaves : Leaves merged pending left) (next : Leaves grown left last)
    (subset : merged ⊆ grown) : Leaves grown pending last where
  sublist := next.sublist.trans leaves.sublist
  keeps := by
    intro P apart
    rw [next.keeps P apart]
    exact leaves.keeps P fun r holds =>
      ⟨fun known => (apart r holds).1 (subset known), fun known => (apart r holds).2 (subset known)⟩
  settles := by
    intro r member
    rcases leaves.settles r member with still | within
    · exact next.settles r still
    · exact .inr (within.mono subset)

theorem Passed.skip {next : Pass} (passed : Passed relations merged pending next)
    (within : Within merged r) : Passed relations merged (r :: pending) next where
  walk := passed.walk
  grown := passed.grown
  leaves := passed.leaves.drop (within.mono passed.subset)
  idle := fun same => absurd passed.leaves.sublist.length_le (by simp [same])

theorem Passed.step {next : Pass} (passed : Passed relations (merged ++ [s.table]) pending next)
    (member : r ∈ relations) (along : Along merged r s) (new : s.table ∉ merged) :
    Passed relations merged (r :: pending) { next with steps := s :: next.steps } where
  walk := .cons member along new passed.walk
  grown := by rw [passed.grown, List.append_assoc, List.map_cons, List.singleton_append]
  leaves := by
    refine passed.leaves.drop (Within.mono ?_ passed.subset)
    rcases along with ⟨rfl, known⟩ | ⟨rfl, known⟩
    · exact ⟨List.mem_append_left _ known, List.mem_append_right _ List.mem_cons_self⟩
    · exact ⟨List.mem_append_right _ List.mem_cons_self, List.mem_append_left _ known⟩
  idle := fun same => absurd passed.leaves.sublist.length_le (by simp [same])

theorem Passed.defer {next : Pass} (passed : Passed relations merged pending next)
    (apart : Apart merged r) : Passed relations merged (r :: pending)
      { next with remaining := r :: next.remaining } where
  walk := passed.walk
  grown := passed.grown
  leaves := passed.leaves.defer r
  idle := by
    intro same
    obtain ⟨still, all⟩ := passed.idle (Nat.succ_inj.mp same)
    refine ⟨still, fun r' member => ?_⟩
    rcases List.mem_cons.mp member with rfl | later
    · exact apart
    · exact all r' later

theorem pass_passed (named : ∀ r ∈ relations, r.Named) (subset : pending ⊆ relations) :
    Passed relations merged pending (pass merged pending) := by
  induction pending generalizing merged with
  | nil => exact ⟨.nil, by simp [pass], ⟨.refl _, fun _ _ => rfl, by simp⟩, by simp [pass]⟩
  | cons r rest ih =>
      have member : r ∈ relations := subset List.mem_cons_self
      have later : rest ⊆ relations := fun r' inside => subset (List.mem_cons_of_mem r inside)
      have source : merged.contains r.source = true ↔ r.source ∈ merged :=
        Value.contains_iff (named r member).source
      have target : merged.contains r.target = true ↔ r.target ∈ merged :=
        Value.contains_iff (named r member).target
      rw [pass]
      split
      case isTrue known =>
        split
        case isTrue known' => exact (ih later).skip ⟨source.mp known, target.mp known'⟩
        case isFalse new =>
          exact (ih later).step (s := forward r) member (.inl ⟨rfl, source.mp known⟩)
            (mt target.mpr new)
      case isFalse new =>
        split
        case isTrue known =>
          exact (ih later).step (s := back r) member (.inr ⟨rfl, target.mp known⟩)
            (mt source.mpr new)
        case isFalse new' => exact (ih later).defer ⟨mt source.mpr new, mt target.mpr new'⟩

/-! ## Schedules -/

structure Scheduled (relations : List JoinRelation) (merged : List Value)
    (pending : List JoinRelation) (steps : List MergeStep) (stuck : List JoinRelation) :
    Prop where
  walk : Walk relations merged steps
  leaves : Leaves (merged ++ steps.map (·.table)) pending stuck
  apart : ∀ r ∈ stuck, Apart (merged ++ steps.map (·.table)) r

theorem schedule_scheduled (named : ∀ r ∈ relations, r.Named) (subset : pending ⊆ relations) :
    Scheduled relations merged pending (schedule merged pending).1
      (schedule merged pending).2 := by
  -- Every pass but the last one walks a relation or drops one; the last one meets no relation of a
  -- merged table.
  induction merged, pending using schedule.induct with
  | case1 merged pending next progress steps stuck run ih =>
      have passed : Passed relations merged pending next := pass_passed named subset
      have rest := ih (List.Subset.trans passed.leaves.sublist.subset subset)
      have whole : schedule merged pending = (next.steps ++ steps, stuck) := by
        rw [schedule, if_pos progress, run]
      have final : next.merged ++ steps.map (·.table) =
          merged ++ (next.steps ++ steps).map (·.table) := by
        rw [passed.grown, List.append_assoc, List.map_append]
      rw [run] at rest
      rw [whole]
      exact {
        walk := passed.walk.append (passed.grown ▸ rest.walk)
        leaves := final ▸ passed.leaves.trans rest.leaves (List.subset_append_left _ _)
        apart := final ▸ rest.apart }
  | case2 merged pending next idle =>
      have passed : Passed relations merged pending next := pass_passed named subset
      have same := Nat.le_antisymm passed.leaves.sublist.length_le (not_lt.mp idle)
      have whole : schedule merged pending = (next.steps, next.remaining) := by
        rw [schedule, if_neg idle]
      have all : next.remaining = pending := passed.leaves.sublist.eq_of_length same
      obtain ⟨still, apart⟩ := passed.idle same
      have final : next.merged = merged ++ next.steps.map (·.table) := passed.grown
      rw [whole]
      refine ⟨passed.walk, final ▸ passed.leaves, ?_⟩
      rw [still, all, List.map_nil, List.append_nil]
      exact apart

/-- What is merged is what relations connect with the primary table. -/
theorem Scheduled.reached {primary : Value} {stuck : List JoinRelation}
    (scheduled : Scheduled relations [primary] relations steps stuck) :
    table ∈ primary :: steps.map (·.table) ↔ Connected relations primary table := by
  obtain ⟨walk, leaves, apart⟩ := scheduled
  refine ⟨walk.connected (fun table listed => List.mem_singleton.mp listed ▸ .refl) table,
    fun connected => ?_⟩
  induction connected with
  | refl => exact List.mem_cons_self
  | tail _ link known =>
      -- A relation with one merged table is not stuck, so the other one is merged too.
      obtain ⟨r, member, ⟨rfl, rfl⟩ | ⟨rfl, rfl⟩⟩ := link
      · exact ((leaves.settles r member).resolve_left fun still => (apart r still).1 known).2
      · exact ((leaves.settles r member).resolve_left fun still => (apart r still).2 known).1

open Classical in
theorem Scheduled.stuck_eq {primary : Value} {stuck : List JoinRelation}
    (scheduled : Scheduled relations [primary] relations steps stuck) :
    stuck = unreached primary relations := by
  have unconnected : ∀ r, Apart (primary :: steps.map (·.table)) r ↔
      ¬ Connected relations primary r.source ∧ ¬ Connected relations primary r.target := by
    intro r
    rw [← scheduled.reached, ← scheduled.reached]
    rfl
  rw [unreached, ← scheduled.leaves.keeps _ fun r holds =>
    (unconnected r).mpr (of_decide_eq_true holds)]
  symm
  exact List.filter_eq_self.mpr fun r still =>
    decide_eq_true ((unconnected r).mp (scheduled.apart r still))

/-- The schedule merges what is connected with the primary table, and is stuck on all else. -/
theorem schedule_spans (named : ∀ r ∈ relations, r.Named) (primary : Value) :
    ∃ steps, schedule [primary] relations = (steps, unreached primary relations) ∧
      Spans primary relations steps := by
  have scheduled : Scheduled relations [primary] relations (schedule [primary] relations).1
      (schedule [primary] relations).2 := schedule_scheduled named (List.Subset.refl relations)
  generalize schedule [primary] relations = run at scheduled
  obtain ⟨steps, stuck⟩ := run
  exact ⟨steps, congrArg _ scheduled.stuck_eq, scheduled.walk,
    scheduled.walk.nodup (List.nodup_singleton primary), fun _ => scheduled.reached⟩

/-! ## Results -/

def keyColumns (relations : List JoinRelation) : List Value :=
  relations.flatMap fun r => [r.sourceAlias, r.targetAlias]

/-- The key columns of the relations hold keys in all results. -/
def Keyed (relations : List JoinRelation) (results : Entries Value (List Row)) : Prop :=
  ∀ rows ∈ results.values, Row.Comparable (keyColumns relations) rows

theorem Keyed.get (keyed : Keyed relations results) (table : Value) :
    Row.Comparable (keyColumns relations) ((results.get? table).getD []) := by
  cases found : results.get? table with
  | none => exact fun row member => absurd member List.not_mem_nil
  | some rows => exact keyed rows (Entries.mem_values_of_get? found)

theorem keyColumns_text (named : ∀ r ∈ relations, r.Named) :
    ∀ c ∈ keyColumns relations, ∃ s, c = .text s := by
  intro c member
  obtain ⟨r, listed, here⟩ := List.mem_flatMap.mp member
  rcases List.mem_pair.mp here with rfl | rfl
  · exact (named r listed).sourceAlias
  · exact (named r listed).targetAlias

/-- The columns and the type of a merge along a relation. -/
theorem Walk.columns (walk : Walk relations merged steps) (named : ∀ r ∈ relations, r.Named)
    (member : s ∈ steps) : s.own ∈ keyColumns relations ∧ s.theirs ∈ keyColumns relations ∧
      ∃ type, s.type = .text type := by
  obtain ⟨r, listed, rfl | rfl⟩ := walk.origin member
  · exact ⟨List.mem_flatMap.mpr ⟨r, listed, by simp [forward]⟩,
      List.mem_flatMap.mpr ⟨r, listed, by simp [forward]⟩, (named r listed).type⟩
  · exact ⟨List.mem_flatMap.mpr ⟨r, listed, by simp [back]⟩,
      List.mem_flatMap.mpr ⟨r, listed, by simp [back]⟩, (named r listed).type⟩

theorem Walk.applies (walk : Walk relations merged steps) (named : ∀ r ∈ relations, r.Named)
    (keyed : Keyed relations results) {rows : List Row}
    (comparable : Row.Comparable (keyColumns relations) rows) :
    ∃ rows', steps.foldlM (apply results) rows = .ok rows' := by
  have texts := keyColumns_text named
  have each := fun s (member : s ∈ steps) => walk.columns named member
  clear walk
  induction steps generalizing rows with
  | nil => exact ⟨rows, rfl⟩
  | cons s rest ih =>
      obtain ⟨own, theirs, type, kind⟩ := each s List.mem_cons_self
      have key : ∀ {c : Value}, c ∈ keyColumns relations → c.isKey = true := by
        intro c listed
        obtain ⟨s, rfl⟩ := texts c listed
        rfl
      have joined := Row.join_eq_ok (key own) (key theirs) (fun _ => ⟨comparable.cell texts own,
        (keyed.get s.table).cell texts theirs⟩) type
      rw [← kind] at joined
      obtain ⟨last, run⟩ := ih (comparable.join texts (keyed.get s.table) joined)
        fun s' later => each s' (List.mem_cons_of_mem s later)
      exact ⟨last, Outcome.bind_eq_ok.mpr ⟨_, joined, run⟩⟩

/-- Merging takes every table that is connected with the primary one, each once and none besides.
It is refused when there are relations of other tables, and then for all of those, in their order,
unless a key cannot be compared before. -/
theorem mergeResults_spans (named : ∀ r ∈ relations, r.Named) (primary : Value)
    (results : Entries Value (List Row)) : ∃ steps, Spans primary relations steps ∧
      (∀ rows, mergeResults primary relations results = .ok rows ↔
        unreached primary relations = [] ∧
          steps.foldlM (apply results) ((results.get? primary).getD []) = .ok rows) ∧
      (∀ keys, mergeResults primary relations results = refuse (.mergeStuck keys) ↔
        unreached primary relations ≠ [] ∧ keys = (unreached primary relations).map (·.key) ∧
          ∃ rows, steps.foldlM (apply results) ((results.get? primary).getD []) = .ok rows) ∧
      (Keyed relations results → ∃ rows,
        steps.foldlM (apply results) ((results.get? primary).getD []) = .ok rows) := by
  obtain ⟨steps, run, spans⟩ := schedule_spans named primary
  have keyed := fun keyed : Keyed relations results =>
    spans.walk.applies named keyed (keyed.get primary)
  refine ⟨steps, spans, ?_⟩
  rw [mergeResults, run]
  simp only
  cases fold : steps.foldlM (apply results) ((results.get? primary).getD []) with
  | error e =>
      -- A join fails by a fault, which is no refusal.
      obtain ⟨rows, s, -, failed⟩ := Outcome.foldlM_error fold
      obtain ⟨fault, rfl⟩ := join_error failed
      rw [fold] at keyed
      refine ⟨fun rows => ?_, fun keys => ?_, keyed⟩ <;> simp [refuse, bind, Except.bind]
  | ok rows =>
      refine ⟨fun rows' => ?_, fun keys => ?_, fun _ => ⟨rows, rfl⟩⟩ <;>
        cases unreached primary relations <;>
        simp [refuse, bind, Except.bind, pure, Except.pure, eq_comm]

/-- Orders, customers and regions in a cycle, with orders related to themselves and to customers
twice and back; visits lead to guests only. -/
def market : List JoinRelation :=
  [⟨"customers->regions", "customers", "regions", "left", "region", "region"⟩,
    ⟨"orders->orders", "orders", "orders", "inner", "parent", "id"⟩,
    ⟨"visits->guests", "visits", "guests", "inner", "guest", "guest"⟩,
    ⟨"orders->customers", "orders", "customers", "left", "customer", "customer"⟩,
    ⟨"customers->orders", "customers", "orders", "inner", "customer", "customer"⟩,
    ⟨"orders->customers", "orders", "customers", "left", "customer", "customer"⟩,
    ⟨"regions->orders", "regions", "orders", "inner", "region", "region"⟩]

def trades : Entries Value (List Row) :=
  [("orders", [[("customer", .int 1), ("total", .int 5)], [("customer", .float 2.0)]]),
    ("customers", [[("customer", .bool true), ("region", "north")]])]

theorem mergeResults_spans_market : (∀ r ∈ market, r.Named) ∧
    ∃ steps, Spans "orders" market steps ∧
      (∀ rows, mergeResults "orders" market trades = .ok rows ↔
        unreached "orders" market = [] ∧
          steps.foldlM (apply trades) ((trades.get? "orders").getD []) = .ok rows) ∧
      (∀ keys, mergeResults "orders" market trades = refuse (.mergeStuck keys) ↔
        unreached "orders" market ≠ [] ∧ keys = (unreached "orders" market).map (·.key) ∧
          ∃ rows, steps.foldlM (apply trades) ((trades.get? "orders").getD []) = .ok rows) ∧
      (Keyed market trades → ∃ rows,
        steps.foldlM (apply trades) ((trades.get? "orders").getD []) = .ok rows) := by
  have named : ∀ r ∈ market, r.Named := by
    intro r member
    simp only [market, List.mem_cons, List.not_mem_nil, or_false] at member
    rcases member with rfl | rfl | rfl | rfl | rfl | rfl | rfl <;>
      exact ⟨⟨_, rfl⟩, ⟨_, rfl⟩, ⟨_, rfl⟩, ⟨_, rfl⟩, ⟨_, rfl⟩⟩
  exact ⟨named, mergeResults_spans named "orders" trades⟩

/-- Two tables with lists for keys, and two that nothing connects with them. -/
def bundled : List JoinRelation :=
  [⟨"a->b", "a", "b", "inner", "k", "k"⟩, ⟨"x->y", "x", "y", "inner", "", ""⟩]

def bundles : Entries Value (List Row) :=
  [("a", [[("k", .list [.int 1])]]), ("b", [[("k", .list [.int 1])]])]

/-- A key that cannot be compared keeps merging from being refused. -/
theorem mergeResults_bundled : (∃ r ∈ bundled, ¬ Connected bundled "a" r.source ∧
      ¬ Connected bundled "a" r.target) ∧
    ∀ keys, mergeResults "a" bundled bundles ≠ refuse (.mergeStuck keys) := by
  have apart : ∀ table, Connected bundled "a" table → table = "a" ∨ table = "b" := by
    intro table connected
    induction connected with
    | refl => exact .inl rfl
    | tail _ link known =>
        obtain ⟨r, member, ends⟩ := link
        simp only [bundled, List.mem_cons, List.not_mem_nil, or_false] at member
        rcases member with rfl | rfl
        · rcases ends with ⟨-, rfl⟩ | ⟨rfl, -⟩
          · exact .inr rfl
          · exact .inl rfl
        · rcases known with rfl | rfl <;> simp at ends
  refine ⟨⟨_, List.mem_cons_of_mem _ List.mem_cons_self, fun connected => ?_,
    fun connected => ?_⟩, fun keys same => ?_⟩
  · have clash := apart _ connected
    simp at clash
  · have clash := apart _ connected
    simp at clash
  · have walked : pass ["a"] bundled = ⟨[forward bundled[0]], ["a", "b"], [bundled[1]]⟩ := by
      rfl
    have stopped : pass ["a", "b"] [bundled[1]] = ⟨[], ["a", "b"], [bundled[1]]⟩ := by
      rfl
    have scheduled : schedule ["a"] bundled = ([forward bundled[0]], [bundled[1]]) := by
      rw [schedule, walked, if_pos (by decide), schedule, stopped, if_neg (by decide)]
      rfl
    have faulty : mergeResults "a" bundled bundles = fail .wrongType := by
      rw [mergeResults, scheduled]
      rfl
    rw [faulty] at same
    cases same

end MergeStep
end Datacube
