import Datacube.Error
import Mathlib.Data.List.Forall2

/-!
# Operations that have a result

A sequence of operations has a result when every one of them has. What every operation keeps, the
whole sequence keeps.
-/

namespace Datacube

/-! ## Related lists -/

section Related
variable {α β : Type} {R : α → β → Prop} {xs : List α} {ys : List β} {x : α} {y : β}

theorem exists_of_mem_left (related : List.Forall₂ R xs ys) (member : x ∈ xs) :
    ∃ y ∈ ys, R x y := by
  induction related with
  | nil => cases member
  | cons here _ ih =>
      rcases List.mem_cons.mp member with rfl | later
      · exact ⟨_, List.mem_cons_self, here⟩
      · obtain ⟨y, listed, both⟩ := ih later
        exact ⟨y, List.mem_cons_of_mem _ listed, both⟩

theorem exists_of_mem_right (related : List.Forall₂ R xs ys) (member : y ∈ ys) :
    ∃ x ∈ xs, R x y :=
  exists_of_mem_left related.flip member

theorem forall₂_of_common {γ : Type} {R' : α → γ → Prop} {S : β → γ → Prop} {zs : List γ}
    (related : List.Forall₂ R xs ys) (related' : List.Forall₂ R' xs zs)
    (joins : ∀ {x y z}, R x y → R' x z → S y z) : List.Forall₂ S ys zs := by
  induction related generalizing zs with
  | nil =>
      cases related'
      exact .nil
  | cons here _ ih =>
      cases related' with
      | cons here' later => exact .cons (joins here here') (ih later)

end Related

namespace Outcome
variable {α β γ : Type}

/-! ## Runs -/

theorem bind_eq_ok {x : Outcome α} {f : α → Outcome β} {b : β} :
    (x >>= f) = .ok b ↔ ∃ a, x = .ok a ∧ f a = .ok b := by
  cases x <;> simp [bind, Except.bind]

theorem bind_eq_error {x : Outcome α} {f : α → Outcome β} {e : Error} :
    (x >>= f) = .error e ↔ x = .error e ∨ ∃ a, x = .ok a ∧ f a = .error e := by
  cases x <;> simp [bind, Except.bind]

theorem pure_eq_ok {a b : α} : (pure a : Outcome α) = .ok b ↔ a = b := by
  simp [pure, Except.pure]

theorem exists_ok {x : Outcome α} (h : x.toBool = true) : ∃ a, x = .ok a := by
  cases x with
  | ok a => exact ⟨a, rfl⟩
  | error e => cases h

theorem any_ok {x : Outcome α} {f : α → Bool} (h : x.toOption.any f = true) :
    ∃ a, x = .ok a ∧ f a = true := by
  cases x with
  | ok a => exact ⟨a, rfl, h⟩
  | error e => cases h

def refuses : Outcome α → Bool
  | .error (.refused _) => true
  | _ => false

theorem exists_refused {x : Outcome α} (h : x.refuses = true) : ∃ cause, x = refuse cause := by
  cases x with
  | ok a => cases h
  | error e =>
      cases e with
      | refused cause => exact ⟨cause, rfl⟩
      | _ => cases h

theorem mapM_ok {f : α → Outcome β} {items : List α} {results : List β}
    (run : items.mapM f = .ok results) : List.Forall₂ (fun x y => f x = .ok y) items results := by
  induction items generalizing results with
  | nil =>
      rw [List.mapM_nil, pure_eq_ok] at run
      exact run ▸ .nil
  | cons x rest ih =>
      simp only [List.mapM_cons, bind_eq_ok, pure_eq_ok] at run
      obtain ⟨y, first, ys, later, rfl⟩ := run
      exact .cons first (ih later)

theorem mapM_values {f : α → Outcome β} {items : List α} {results : List β}
    (run : items.mapM f = .ok results) : results = items.filterMap fun x => (f x).toOption := by
  have made := mapM_ok run
  clear run
  induction made with
  | nil => rfl
  | cons here _ ih =>
      rw [List.filterMap_cons, here]
      exact congrArg _ ih

theorem forM_ok {f : α → Outcome PUnit} {items : List α} (run : items.forM f = .ok ()) :
    ∀ x ∈ items, f x = .ok () := by
  induction items with
  | nil => simp
  | cons x rest ih =>
      simp only [List.forM_eq_forM, List.forM_cons, bind_eq_ok] at run
      obtain ⟨⟨⟩, first, later⟩ := run
      intro y member
      rcases List.mem_cons.mp member with rfl | member
      · exact first
      · exact ih later y member

theorem forM_error {f : α → Outcome Unit} {items : List α} {e : Error}
    (run : items.forM f = .error e) : ∃ x ∈ items, f x = .error e := by
  induction items with
  | nil => cases run
  | cons x rest ih =>
      simp only [List.forM_eq_forM, List.forM_cons] at run
      rcases bind_eq_error.mp run with failed | ⟨_, -, failed⟩
      · exact ⟨x, List.mem_cons_self, failed⟩
      · obtain ⟨y, member, failed⟩ := ih failed
        exact ⟨y, List.mem_cons_of_mem x member, failed⟩

theorem forM_eq_ok {f : α → Outcome PUnit} {items : List α} :
    items.forM f = .ok () ↔ ∀ x ∈ items, f x = .ok () := by
  refine ⟨forM_ok, fun each => ?_⟩
  cases run : items.forM f with
  | ok => rfl
  | error e =>
      obtain ⟨x, member, failed⟩ := forM_error run
      rw [each x member] at failed
      cases failed

theorem foldlM_flatMap {f : β → γ → Outcome β} {g : α → List γ} (items : List α) (first : β) :
    (items.flatMap g).foldlM f first = items.foldlM (fun b x => (g x).foldlM f b) first := by
  induction items generalizing first with
  | nil => rfl
  | cons x rest ih =>
      rw [List.flatMap_cons, List.foldlM_append, List.foldlM_cons]
      congr 1
      funext next
      exact ih next

/-- A run that fails does so at one of its steps. -/
theorem foldlM_stops {f : β → α → Outcome β} {items : List α} {first : β} {e : Error}
    (run : items.foldlM f first = .error e) : ∃ before x after a, items = before ++ x :: after ∧
      before.foldlM f first = .ok a ∧ f a x = .error e := by
  induction items generalizing first with
  | nil => cases run
  | cons x rest ih =>
      rw [List.foldlM_cons] at run
      rcases bind_eq_error.mp run with failed | ⟨next, stepped, failed⟩
      · exact ⟨[], x, rest, first, rfl, rfl, failed⟩
      · obtain ⟨before, y, after, a, rfl, ran, failed⟩ := ih failed
        exact ⟨x :: before, y, after, a, rfl, bind_eq_ok.mpr ⟨next, stepped, ran⟩, failed⟩

theorem foldlM_error {f : β → α → Outcome β} {items : List α} {first : β} {e : Error}
    (run : items.foldlM f first = .error e) : ∃ a, ∃ x ∈ items, f a x = .error e := by
  obtain ⟨before, x, after, a, rfl, -, failed⟩ := foldlM_stops run
  exact ⟨a, x, List.mem_append_right before List.mem_cons_self, failed⟩

theorem allM_error {f : α → Outcome Bool} {items : List α} {e : Error}
    (run : items.allM f = .error e) : ∃ x ∈ items, f x = .error e := by
  induction items with
  | nil => cases run
  | cons x rest ih =>
      rw [List.allM] at run
      rcases bind_eq_error.mp run with failed | ⟨holds, -, failed⟩
      · exact ⟨x, List.mem_cons_self, failed⟩
      · cases holds with
        | false => cases failed
        | true =>
            obtain ⟨y, member, failed⟩ := ih failed
            exact ⟨y, List.mem_cons_of_mem x member, failed⟩

theorem mapM_error {f : α → Outcome β} {items : List α} {e : Error}
    (run : items.mapM f = .error e) : ∃ x ∈ items, f x = .error e := by
  induction items with
  | nil => cases run
  | cons x rest ih =>
      rw [List.mapM_cons] at run
      rcases bind_eq_error.mp run with failed | ⟨y, -, failed⟩
      · exact ⟨x, List.mem_cons_self, failed⟩
      · rcases bind_eq_error.mp failed with failed | ⟨ys, -, ⟨⟩⟩
        obtain ⟨z, member, failed⟩ := ih failed
        exact ⟨z, List.mem_cons_of_mem x member, failed⟩

theorem exists_mapM_ok {f : α → Outcome β} {items : List α} :
    (∃ results, items.mapM f = .ok results) ↔ ∀ x ∈ items, ∃ y, f x = .ok y := by
  constructor
  · rintro ⟨results, run⟩ x member
    obtain ⟨y, -, ran⟩ := exists_of_mem_left (mapM_ok run) member
    exact ⟨y, ran⟩
  · intro each
    cases run : items.mapM f with
    | ok results => exact ⟨results, rfl⟩
    | error e =>
        obtain ⟨x, member, failed⟩ := mapM_error run
        obtain ⟨y, ran⟩ := each x member
        rw [ran] at failed
        cases failed

theorem mapM_eq_ok {f : α → Outcome β} {items : List α} {results : List β} :
    items.mapM f = .ok results ↔ List.Forall₂ (fun x y => f x = .ok y) items results := by
  refine ⟨mapM_ok, fun made => ?_⟩
  induction made with
  | nil => rfl
  | cons here _ ih => simp [List.mapM_cons, bind_eq_ok, here, ih]

/-- Results that lead back to what has the same results. -/
theorem mapM_again {f : α → Outcome β} {g : β → Outcome α} {items : List α} {results : List β}
    {R : α → α → Prop} (run : items.mapM f = .ok results)
    (each : ∀ x ∈ items, ∀ y, f x = .ok y → ∃ x', g y = .ok x' ∧ f x' = .ok y ∧ R x x') :
    ∃ items', results.mapM g = .ok items' ∧ items'.mapM f = .ok results ∧
      List.Forall₂ R items items' := by
  have made := mapM_ok run
  clear run
  induction made with
  | nil => exact ⟨[], rfl, rfl, .nil⟩
  | @cons x y _ _ here _ ih =>
      obtain ⟨x', back, again, related⟩ := each x List.mem_cons_self y here
      obtain ⟨rest', backs, agains, all⟩ := ih fun z later => each z (List.mem_cons_of_mem x later)
      exact ⟨x' :: rest', by simp [List.mapM_cons, bind_eq_ok, back, backs],
        by simp [List.mapM_cons, bind_eq_ok, again, agains], .cons related all⟩

theorem allM_true {f : α → Outcome Bool} {items : List α} (run : items.allM f = .ok true) :
    ∀ x ∈ items, f x = .ok true := by
  induction items with
  | nil => simp
  | cons x rest ih =>
      rw [List.allM] at run
      obtain ⟨holds, here, run⟩ := bind_eq_ok.mp run
      cases holds with
      | false => cases pure_eq_ok.mp run
      | true =>
          intro y member
          rcases List.mem_cons.mp member with rfl | later
          · exact here
          · exact ih run y later

theorem allM_false {f : α → Outcome Bool} {items : List α} (run : items.allM f = .ok false) :
    ∃ x ∈ items, f x = .ok false := by
  induction items with
  | nil => cases run
  | cons x rest ih =>
      rw [List.allM] at run
      obtain ⟨holds, here, run⟩ := bind_eq_ok.mp run
      cases holds with
      | false => exact ⟨x, List.mem_cons_self, here⟩
      | true =>
          obtain ⟨y, later, failed⟩ := ih run
          exact ⟨y, List.mem_cons_of_mem x later, failed⟩

/-- A run that counts: what holds of the items so far holds of all at the end. -/
theorem foldlM_induction {f : β → α → Outcome β} {items : List α} {first last : β}
    (P : List α → β → Prop) (run : items.foldlM f first = .ok last) (start : P [] first)
    (step : ∀ before x, before ++ [x] <+: items → ∀ a b, P before a → f a x = .ok b →
      P (before ++ [x]) b) : P items last := by
  suffices general : ∀ before rest first, before ++ rest = items → P before first →
      rest.foldlM f first = .ok last → P items last from
    general [] items first rfl start run
  intro before rest
  induction rest generalizing before with
  | nil =>
      intro first split now run
      rw [← pure_eq_ok.mp run, ← split, List.append_nil]
      exact now
  | cons x rest ih =>
      intro first split now run
      rw [List.foldlM_cons, bind_eq_ok] at run
      obtain ⟨next, stepped, run⟩ := run
      have split : (before ++ [x]) ++ rest = items := by simpa using split
      exact ih (before ++ [x]) next split (step before x ⟨rest, split⟩ first next now stepped) run

theorem foldlM_follows {f : β → α → Outcome β} {g : β → γ → Outcome β} {items : List α}
    {others : List γ} {first last : β} {R : α → γ → Prop} (related : List.Forall₂ R items others)
    (run : items.foldlM f first = .ok last)
    (step : ∀ x y, R x y → ∀ a b, f a x = .ok b → g a y = .ok b) :
    others.foldlM g first = .ok last := by
  induction related generalizing first with
  | nil => exact run
  | cons here _ ih =>
      rw [List.foldlM_cons] at run ⊢
      obtain ⟨next, stepped, run⟩ := bind_eq_ok.mp run
      exact bind_eq_ok.mpr ⟨next, step _ _ here _ _ stepped, ih run⟩

theorem foldlM_keeps {f : β → α → Outcome β} {items : List α} {first last : β} (P : β → Prop)
    (run : items.foldlM f first = .ok last) (start : P first)
    (step : ∀ a x b, P a → f a x = .ok b → P b) : P last :=
  foldlM_induction (fun _ => P) run start fun _ x _ a b => step a x b

/-- Steps that keep what they start from keep it altogether. -/
theorem foldlM_fixed {f : β → α → Outcome β} {items : List α} {b : β}
    (fixed : ∀ x ∈ items, f b x = .ok b) : items.foldlM f b = .ok b := by
  induction items with
  | nil => rfl
  | cons x rest ih =>
      rw [List.foldlM_cons, fixed x List.mem_cons_self]
      exact ih fun y later => fixed y (List.mem_cons_of_mem x later)

end Outcome
end Datacube
