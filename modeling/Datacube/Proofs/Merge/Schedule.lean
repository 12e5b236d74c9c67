import Datacube.Merge.Schedule
import Datacube.Proofs.Entries
import Datacube.Proofs.Join.Tree
import Datacube.Proofs.Outcome

/-!
# Schedules of ordered relations

When every relation starts at a merged table and leads to one that is not, a single pass walks all
of them forward and the schedule ends there. Relations that follow the joins of a tree, between
tables that are told apart by their names, are of this kind.
-/

namespace Datacube

theorem Value.contains_text (s : String) (values : List Value) :
    values.contains (.text s) = true ↔ .text s ∈ values := by
  rw [List.contains_eq_any_beq, List.any_eq_true]
  constructor
  · rintro ⟨v, member, same⟩
    rw [(Value.same_text s v).mp same]
    exact member
  · intro member
    exact ⟨_, member, (Value.same_text s _).mpr rfl⟩

theorem Value.contains_iff {v : Value} {values : List Value} (text : ∃ s, v = .text s) :
    values.contains v = true ↔ v ∈ values := by
  obtain ⟨s, rfl⟩ := text
  exact Value.contains_text s values

namespace MergeStep
variable {merged : List Value} {relations : List JoinRelation} {r : JoinRelation} {primary : Value}
  {results : Entries Value (List Row)}

def forward (r : JoinRelation) : MergeStep := ⟨r.target, r.sourceAlias, r.targetAlias, r.type⟩

/-- Relations that start at merged tables and lead to tables that are not merged. -/
def Ordered (merged : List Value) : List JoinRelation → Prop
  | [] => True
  | r :: rest => merged.contains r.source = true ∧ merged.contains r.target = false ∧
    Ordered (merged ++ [r.target]) rest

theorem Ordered.snoc (ordered : Ordered merged relations)
    (known : (merged ++ relations.map (·.target)).contains r.source = true)
    (new : (merged ++ relations.map (·.target)).contains r.target = false) :
    Ordered merged (relations ++ [r]) := by
  induction relations generalizing merged with
  | nil => exact ⟨by simpa using known, by simpa using new, trivial⟩
  | cons first rest ih =>
      obtain ⟨starts, leads, ordered⟩ := ordered
      refine ⟨starts, leads, ih ordered ?_ ?_⟩
      · rw [List.append_assoc]
        exact known
      · rw [List.append_assoc]
        exact new

theorem pass_ordered (ordered : Ordered merged relations) :
    pass merged relations =
      ⟨relations.map forward, merged ++ relations.map (·.target), []⟩ := by
  induction relations generalizing merged with
  | nil => simp [pass]
  | cons first rest ih =>
      obtain ⟨starts, leads, ordered⟩ := ordered
      simp [pass, starts, leads, ih ordered, forward]

/-- Ordered relations are walked forward, one after the other, and none is left. -/
theorem schedule_ordered (ordered : Ordered merged relations) :
    schedule merged relations = (relations.map forward, []) := by
  cases relations with
  | nil => simp [schedule, pass]
  | cons first rest =>
      rw [schedule, pass_ordered ordered]
      simp [schedule, pass]

/-! ## Merging -/

theorem mergeResults_ordered (ordered : Ordered [primary] relations) :
    mergeResults primary relations results =
      (relations.map forward).foldlM (apply results) ((results.get? primary).getD []) := by
  simp only [mergeResults, schedule_ordered ordered]
  cases (relations.map forward).foldlM (apply results) ((results.get? primary).getD []) <;> rfl

/-- Joining rows fails by a fault in what they hold, and refuses nothing. -/
theorem join_error {left right : List Row} {own theirs type : Value} {e : Error}
    (failed : Row.join left right own theirs type = .error e) : ∃ fault, e = .fault fault := by
  cases keep : Row.keepsUnmatched type with
  | error e' =>
      rw [Row.join, keep] at failed
      rw [← Except.error.inj failed]
      cases type with
      | text s => simp [Row.keepsUnmatched] at keep
      | _ => exact ⟨_, (Except.error.inj keep).symm⟩
  | ok kept =>
      simp only [Row.join, keep, bind, Except.bind] at failed
      split at failed
      · cases failed
      · split at failed
        · cases failed
        · exact ⟨_, (Except.error.inj failed).symm⟩

theorem mergeResults_error {e : Error} (ordered : Ordered [primary] relations)
    (failed : mergeResults primary relations results = .error e) : ∃ fault, e = .fault fault := by
  rw [mergeResults_ordered ordered] at failed
  obtain ⟨rows, step, -, failed⟩ := Outcome.foldlM_error failed
  exact join_error failed

/-! ## Relations along a tree -/

theorem ordered_of_tree {root : String} {joins : List JoinStep} {name : String → Value}
    (tree : JoinGraph.RootedTree root joins)
    (texts : ∀ identifier ∈ JoinGraph.joined root joins, ∃ s, name identifier = .text s)
    (distinct : ∀ a ∈ JoinGraph.joined root joins, ∀ b ∈ JoinGraph.joined root joins,
      name a = name b → a = b)
    (along : relations.map (fun r => (r.source, r.target)) =
      joins.map fun step => (name step.sourceId, name step.targetId)) :
    Ordered [name root] relations := by
  induction tree generalizing relations with
  | nil =>
      rw [List.map_nil, List.map_eq_nil_iff] at along
      subst along
      trivial
  | @snoc joins step tree known new ih =>
      rw [List.map_append] at along
      obtain ⟨before, last, rfl, earlier, final⟩ := List.map_eq_append_iff.mp along
      obtain ⟨r, rfl, ends⟩ := List.map_eq_singleton_iff.mp final
      obtain ⟨source, target⟩ := Prod.mk.inj ends
      have within : ∀ a ∈ JoinGraph.joined root joins,
          a ∈ JoinGraph.joined root (joins ++ [step]) := by
        intro a member
        rw [JoinGraph.joined_append]
        exact List.mem_append_left _ member
      have here : step.targetId ∈ JoinGraph.joined root (joins ++ [step]) := by simp
      -- What is merged before the last relation are the names of the tables of the smaller tree.
      have merged : [name root] ++ before.map (·.target) =
          (JoinGraph.joined root joins).map name := by
        have targets := congrArg (List.map Prod.snd) earlier
        simp only [List.map_map] at targets
        rw [JoinGraph.joined, List.map_cons, List.map_map, List.singleton_append]
        exact congrArg _ targets
      refine (ih (fun a member => texts a (within a member))
        (fun a member b member' => distinct a (within a member) b (within b member'))
        earlier).snoc ?_ ?_
      · obtain ⟨s, text⟩ := texts _ (within _ known)
        rw [merged, source, text, Value.contains_text, ← text]
        exact List.mem_map_of_mem known
      · obtain ⟨s, text⟩ := texts _ here
        rw [merged, target, text, ← Bool.not_eq_true, Value.contains_text, ← text]
        intro member
        obtain ⟨a, joined, same⟩ := List.mem_map.mp member
        exact new (distinct a (within a joined) _ here same ▸ joined)

end MergeStep
end Datacube
