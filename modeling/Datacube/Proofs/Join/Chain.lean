import Datacube.Join.Path
import Datacube.Proofs.Schema.Resolution

/-!
# Chains of steps

A path finder may step from a table along a relation that the table declares, to the table that the
target of the relation leads to, unless the finder keeps to one connection and the two tables are
not on the same. Chains of such steps are what paths are measured by.
-/

namespace Datacube.PathFinder

/-- The finder may step along the relation from the first table to the second. -/
def Admits (f : PathFinder) (source : Table) (r : Relation) (target : Table) : Prop :=
  r ∈ source.relations.values ∧ f.schema.find r.target source.provider = .ok (some target) ∧
    f.permits source target = true

/-- A chain of admissible steps between two tables. -/
inductive Chain (f : PathFinder) : Table → List JoinStep → Table → Prop where
  | nil (t : Table) : Chain f t [] t
  | cons {t u v : Table} {r : Relation} {path : List JoinStep} (admitted : f.Admits t r u)
      (rest : Chain f u path v) : Chain f t (.between t u r f.joinType :: path) v

def visited (source : Table) (path : List JoinStep) : List String :=
  source.identifier :: path.map (·.targetId)

/-- Steps lead from the table to one with the identifier. -/
def Reaches (f : PathFinder) (source : Table) (identifier : String) : Prop :=
  ∃ path t, f.Chain source path t ∧ t.identifier = identifier

/-- Steps lead to the table from one of the list. -/
def ReachedFrom (f : PathFinder) (tables : List Table) (t : Table) : Prop :=
  ∃ s ∈ tables, ∃ path, f.Chain s path t

/-- The tables that are reached from a list of tables can be told apart by their identifiers, and
the schema knows the identifiers. -/
structure Clear (f : PathFinder) (tables : List Table) : Prop where
  unique : ∀ {a b t u : Table} {path path' : List JoinStep}, a ∈ tables → f.Chain a path t →
    b ∈ tables → f.Chain b path' u → t.identifier = u.identifier → t = u
  known : ∀ {a t : Table} {path : List JoinStep}, a ∈ tables → f.Chain a path t →
    t.identifier = a.identifier ∨ t.identifier ∈ f.schema.tables.keys

variable {f : PathFinder} {s t u v w : Table} {path path' : List JoinStep} {r : Relation}

theorem next?_ok {found : Option Table} (h : f.next? s r = .ok found) :
    ∃ resolved, f.schema.find r.target s.provider = .ok resolved ∧
      found = resolved.filter (f.permits s) := by
  rw [next?, Outcome.bind_eq_ok] at h
  obtain ⟨resolved, looked, same⟩ := h
  exact ⟨resolved, looked, (Outcome.pure_eq_ok.mp same).symm⟩

theorem next?_error {e : Error} (h : f.next? s r = .error e) :
    f.schema.find r.target s.provider = .error e := by
  rw [next?] at h
  cases looked : f.schema.find r.target s.provider with
  | error e' => rw [looked] at h; exact h
  | ok resolved => rw [looked] at h; cases h

theorem admits_of_next? (declared : r ∈ s.relations.values) (h : f.next? s r = .ok (some t)) :
    f.Admits s r t := by
  obtain ⟨resolved, looked, same⟩ := next?_ok h
  obtain ⟨found, permitted⟩ := Option.filter_eq_some_iff.mp same.symm
  exact ⟨declared, found ▸ looked, permitted⟩

theorem Admits.next? (admitted : f.Admits s r t) : f.next? s r = .ok (some t) := by
  obtain ⟨-, looked, permitted⟩ := admitted
  simp [PathFinder.next?, looked, permitted, bind, Except.bind, pure, Except.pure]

theorem Admits.holds (clear : f.schema.Unambiguous) (admitted : f.Admits s r t) :
    f.schema.Holds t :=
  clear _ _ _ admitted.2.1

namespace Chain

theorem append (first : f.Chain s path t) (second : f.Chain t path' u) :
    f.Chain s (path ++ path') u := by
  induction first with
  | nil => exact second
  | cons admitted _ ih => exact .cons admitted (ih second)

theorem concat (chain : f.Chain s path t) (admitted : f.Admits t r u) :
    f.Chain s (path ++ [.between t u r f.joinType]) u :=
  chain.append (.cons admitted (.nil u))

theorem holds (clear : f.schema.Unambiguous) (chain : f.Chain s path t) :
    path = [] ∧ t = s ∨ f.schema.Holds t := by
  induction chain with
  | nil => exact .inl ⟨rfl, rfl⟩
  | cons admitted _ ih =>
      rcases ih with ⟨-, rfl⟩ | held
      · exact .inr (admitted.holds clear)
      · exact .inr held

theorem holds_or_eq (clear : f.schema.Unambiguous) (chain : f.Chain s path t) :
    t = s ∨ f.schema.Holds t :=
  (chain.holds clear).imp_left (·.2)

theorem end_visited (chain : f.Chain s path t) : t.identifier ∈ visited s path := by
  induction chain with
  | nil => exact List.mem_singleton_self _
  | cons _ _ ih => exact List.mem_cons_of_mem _ ih

theorem ends_unique (chain : f.Chain s path t) (chain' : f.Chain s path u) : t = u := by
  generalize same : path = path' at chain'
  induction chain generalizing path' with
  | nil =>
      cases chain' with
      | nil => rfl
      | cons => cases same
  | @cons t _ _ r _ admitted _ ih =>
      cases chain' with
      | nil => cases same
      | @cons _ _ _ r' _ admitted' rest' =>
          rw [List.cons.injEq] at same
          have relation : r = r' := congrArg (·.relation) same.1
          have looked := admitted.2.1
          rw [relation, admitted'.2.1, Except.ok.injEq, Option.some.injEq] at looked
          subst looked
          exact ih _ same.2 rest'

theorem split {step : JoinStep} (chain : f.Chain s path t) (member : step ∈ path) :
    ∃ before u r v after, path = before ++ step :: after ∧ step = .between u v r f.joinType ∧
      f.Chain s before u ∧ f.Admits u r v ∧ f.Chain v after t := by
  induction chain with
  | nil => cases member
  | @cons t u v r rest admitted tail ih =>
      rcases List.mem_cons.mp member with rfl | later
      · exact ⟨[], t, r, u, rest, rfl, rfl, .nil t, admitted, tail⟩
      · obtain ⟨before, a, r', b, after, rfl, same, head, inner, last⟩ := ih later
        exact ⟨_ :: before, a, r', b, after, rfl, same, .cons admitted head, inner, last⟩

theorem permits (chain : f.Chain s path t) : f.permits s t = true := by
  induction chain with
  | nil => simp [PathFinder.permits]
  | cons admitted _ ih =>
      have first := admitted.2.2
      simp only [PathFinder.permits, Bool.or_eq_true, Bool.not_eq_true', beq_iff_eq] at first ih ⊢
      rcases first with free | same
      · exact .inl free
      · exact ih.imp_right same.trans

end Chain

theorem Reaches.refl (f : PathFinder) (s : Table) : f.Reaches s s.identifier :=
  ⟨[], s, .nil s, rfl⟩

theorem Clear.mono {tables tables' : List Table} (clear : f.Clear tables)
    (within : tables' ⊆ tables) : f.Clear tables' where
  unique := fun member chain member' chain' =>
    clear.unique (within member) chain (within member') chain'
  known := fun member => clear.known (within member)

theorem Clear.single {tables : List Table} (clear : f.Clear tables) (member : s ∈ tables) :
    f.Clear [s] :=
  clear.mono (by simpa using member)

/-- An unambiguous schema tells apart what is reached from tables that no other ones pose as. -/
theorem clear_of_recognizes {tables : List Table} (clear : f.schema.Unambiguous)
    (known : ∀ t ∈ tables, f.schema.Recognizes t)
    (distinct : ∀ t ∈ tables, ∀ u ∈ tables, t.identifier = u.identifier → t = u) :
    f.Clear tables where
  unique := by
    intro a b t u path path' member chain member' chain' same
    rcases chain.holds_or_eq clear with rfl | held
    · rcases chain'.holds_or_eq clear with rfl | held'
      · exact distinct t member u member' same
      · exact ((known t member).unique held' same.symm).symm
    · rcases chain'.holds_or_eq clear with rfl | held'
      · exact (known u member').unique held same
      · exact held.unique held' same
  known := by
    intro a t path member chain
    rcases chain.holds_or_eq clear with rfl | held
    · exact .inl rfl
    · exact .inr held.mem_keys

end Datacube.PathFinder
