import Datacube.Metric.Computed
import Datacube.Proofs.Entries
import Datacube.Proofs.Outcome

/-!
# What an evaluation reaches

Evaluating a formula reaches its parts in one order, whatever the row: no value makes it leave one
out, and it ends before the last only where a value cannot be read or a part is no formula. So an
evaluation without metrics reaches all that one on a row does, and where it has a result nothing is
refused on any row. No operation divides by zero.
-/

namespace Datacube

/-- Whether zero as the second operand leaves the operation without a result. -/
def Operation.divides : Operation → Bool
  | divide | modulo => true
  | add | subtract | multiply => false

/-- What an evaluation reaches and calculates until it ends, and how it ends. -/
structure Walk (α : Type) where
  reached : List Formula
  performed : List (Operation × Float × Float)
  result : Except (Error ⊕ String) α

namespace Walk
variable {α β : Type} {w w' : Walk α} {next next' : α → Walk β} {f : Formula}

def ending (result : Except (Error ⊕ String) α) : Walk α := ⟨[], [], result⟩

def reach (f : Formula) (w : Walk α) : Walk α := { w with reached := f :: w.reached }

/-- A walk and the one that follows it, unless it fails. -/
def andThen (w : Walk α) (next : α → Walk β) : Walk β :=
  match w.result with
  | .ok a =>
    ⟨w.reached ++ (next a).reached, w.performed ++ (next a).performed, (next a).result⟩
  | .error e => ⟨w.reached, w.performed, .error e⟩

instance : Monad Walk where
  pure a := ending (.ok a)
  bind := andThen

/-- An operation on two values; with null, and where zero divides, nothing is calculated. -/
def calculate (op : Operation) : Option Float → Option Float → Walk (Option Float)
  | some x, some y => match op.apply x y with
    | some z => ⟨[], [(op, x, y)], .ok (some z)⟩
    | none => pure none
  | _, _ => pure none

theorem bind_ok {a : α} (ended : w.result = .ok a) : w >>= next =
    ⟨w.reached ++ (next a).reached, w.performed ++ (next a).performed, (next a).result⟩ := by
  change andThen w next = _
  rw [andThen, ended]

theorem bind_error {e : Error ⊕ String} (ended : w.result = .error e) :
    w >>= next = ⟨w.reached, w.performed, .error e⟩ := by
  change andThen w next = _
  rw [andThen, ended]

@[simp] theorem result_bind : (w >>= next).result = w.result >>= fun a => (next a).result := by
  cases ended : w.result with
  | ok a => rw [bind_ok ended]; rfl
  | error e => rw [bind_error ended]; rfl

@[simp] theorem result_pure (a : α) : (pure a : Walk α).result = .ok a := rfl

@[simp] theorem result_reach : (w.reach f).result = w.result := rfl

@[simp] theorem result_calculate (op : Operation) (x y : Option Float) :
    (calculate op x y).result = match x, y with
      | some x, some y => .ok (op.apply x y)
      | _, _ => .ok none := by
  rcases x with _ | x <;> rcases y with _ | y
  · rfl
  · rfl
  · rfl
  · change (match op.apply x y with
      | some z => (⟨[], [(op, x, y)], .ok (some z)⟩ : Walk (Option Float))
      | none => pure none).result = .ok (op.apply x y)
    cases op.apply x y <;> rfl

/-! ## What every walk keeps -/

/-- A walk through some parts has a result only once it has reached all of them, it divides by no
zero, and where nothing is refused it fails by a fault. -/
structure Sound (parts : List Formula) (w : Walk α) : Prop where
  covers : ∀ a, w.result = .ok a → w.reached = parts
  divides : ∀ step ∈ w.performed, step.1.divides = true → (step.2.2 == 0.0) = false
  faults : ∀ e, w.result = .error (.inl e) → ∃ fault, e = .fault fault

variable {parts parts' : List Formula}

theorem Sound.andThen (sound : w.Sound parts) (later : ∀ a, (next a).Sound parts') :
    (w >>= next).Sound (parts ++ parts') := by
  cases ended : w.result with
  | ok a =>
      rw [bind_ok ended]
      refine ⟨fun b result => ?_, fun step member => ?_, (later a).faults⟩
      · rw [sound.covers a ended, (later a).covers b result]
      · rcases List.mem_append.mp member with here | there
        · exact sound.divides step here
        · exact (later a).divides step there
  | error e =>
      rw [bind_error ended]
      refine ⟨nofun, sound.divides, fun e' failed => sound.faults e' ?_⟩
      rw [ended, Except.error.inj failed]

theorem Sound.last (sound : w.Sound parts) (later : ∀ a, (next a).Sound []) :
    (w >>= next).Sound parts := by
  have both := sound.andThen later
  rwa [List.append_nil] at both

theorem Sound.reach (sound : w.Sound parts) : (w.reach f).Sound (f :: parts) :=
  ⟨fun a ended => congrArg (f :: ·) (sound.covers a ended), sound.divides, sound.faults⟩

theorem sound_pure (a : α) : (pure a : Walk α).Sound [] :=
  ⟨fun _ _ => rfl, nofun, nofun⟩

theorem sound_ending {result : Except (Error ⊕ String) α}
    (faults : ∀ e, result = .error (.inl e) → ∃ fault, e = .fault fault) :
    (ending result).Sound [] :=
  ⟨fun _ _ => rfl, nofun, faults⟩

theorem sound_calculate (op : Operation) (x y : Option Float) : (calculate op x y).Sound [] := by
  rw [calculate.eq_def]
  split
  · rename_i x y
    split
    · rename_i z found
      refine ⟨fun _ _ => rfl, fun step member divides => ?_, nofun⟩
      obtain rfl := List.mem_singleton.mp member
      rw [← Bool.not_eq_true]
      intro zero
      cases op with
      | divide => simp [Operation.apply, zero] at found
      | modulo => simp [Operation.apply, zero] at found
      | _ => cases divides
    · exact sound_pure none
  · exact sound_pure none

/-- A walk that keeps to another: it reaches the same parts up to where it fails to read a value,
and it is refused where the other one is. -/
structure Follows (w w' : Walk α) : Prop where
  reached : w.reached <+: w'.reached
  ends : ∀ a, w.result = .ok a → w.reached = w'.reached ∧ ∃ b, w'.result = .ok b
  refused : ∀ reason, w.result = .error (.inr reason) → w'.result = .error (.inr reason)

theorem reached_prefix : w.reached <+: (w >>= next).reached := by
  cases ended : w.result with
  | ok a =>
      rw [bind_ok ended]
      exact List.prefix_append _ _
  | error e => exact ⟨[], by rw [bind_error ended, List.append_nil]⟩

theorem Follows.andThen (follows : w.Follows w') (later : ∀ a b, (next a).Follows (next' b)) :
    (w >>= next).Follows (w' >>= next') := by
  cases ended : w.result with
  | ok a =>
      obtain ⟨same, b, ended'⟩ := follows.ends a ended
      rw [bind_ok ended, bind_ok ended', same]
      refine ⟨(List.prefix_append_right_inj _).mpr (later a b).reached, fun c result => ?_,
        (later a b).refused⟩
      obtain ⟨same, d, result'⟩ := (later a b).ends c result
      exact ⟨congrArg (w'.reached ++ ·) same, d, result'⟩
  | error e =>
      rw [bind_error ended]
      refine ⟨follows.reached.trans reached_prefix, nofun, fun reason refused => ?_⟩
      rw [Except.error.inj refused] at ended
      rw [result_bind, follows.refused reason ended]
      rfl

theorem Follows.reach (follows : w.Follows w') : (w.reach f).Follows (w'.reach f) := by
  refine ⟨(List.prefix_cons_inj f).mpr follows.reached, fun a ended => ?_, follows.refused⟩
  obtain ⟨same, ended'⟩ := follows.ends a ended
  exact ⟨congrArg (f :: ·) same, ended'⟩

theorem follows_self : w.Follows w :=
  ⟨List.prefix_refl _, fun a ended => ⟨rfl, a, ended⟩, fun _ refused => refused⟩

theorem follows_pure (a b : α) : (pure a : Walk α).Follows (pure b) :=
  ⟨List.prefix_refl _, fun _ _ => ⟨rfl, b, rfl⟩, nofun⟩

theorem calculate_ends (op : Operation) (x y : Option Float) :
    (calculate op x y).reached = [] ∧ ∃ z, (calculate op x y).result = .ok z := by
  rw [calculate.eq_def]
  split
  · split
    · exact ⟨rfl, _, rfl⟩
    · exact ⟨rfl, _, rfl⟩
  · exact ⟨rfl, _, rfl⟩

theorem follows_calculate (op : Operation) (x y x' y' : Option Float) :
    (calculate op x y).Follows (calculate op x' y') := by
  obtain ⟨quiet, z, ended⟩ := calculate_ends op x y
  obtain ⟨quiet', ended'⟩ := calculate_ends op x' y'
  refine ⟨?_, fun _ _ => ⟨quiet.trans quiet'.symm, ended'⟩, fun reason refused => ?_⟩
  · rw [quiet]
    exact List.nil_prefix
  · rw [ended] at refused
    cases refused

end Walk

namespace Formula
variable {read read' : String → Outcome (Option Float)}

mutual

/-- The walk of an evaluation through a formula. -/
def walk (read : String → Outcome (Option Float)) : Formula → Walk (Option Float)
  | null => .reach null (pure none)
  | number digits => .reach (number digits) <| .ending <| match Number.readFloat? digits with
    | some x => .ok (some x)
    | none => .error (.inl (.fault .badValue))
  | metric name => .reach (metric name) <| .ending <| match read name with
    | .ok x => .ok x
    | .error e => .error (.inl e)
  | group e => .reach (group e) (walk read e)
  | negate e => .reach (negate e) do return (← walk read e).map (- ·)
  | combine op left right => .reach (combine op left right) do
    let x ← walk read left
    let y ← walk read right
    Walk.calculate op x y
  | nullIf e other => .reach (nullIf e other) do
    let x ← walk read e
    let y ← walk read other
    return if equalNumbers x y then none else x
  | coalesce candidates => .reach (coalesce candidates) (walkFirst read candidates)
  | absolute e => .reach (absolute e) do return (← walk read e).map Float.abs
  | refused reason => .reach (refused reason) (.ending (.error (.inr reason)))

def walkFirst (read : String → Outcome (Option Float)) : List Formula → Walk (Option Float)
  | [] => pure none
  | e :: rest => do
    let x ← walk read e
    let y ← walkFirst read rest
    return x.or y

end

mutual

/-- A walk ends with the value of the formula. -/
theorem result_walk : (f : Formula) → (f.walk read).result = f.evaluate read
  | null => by rw [walk, evaluate]; rfl
  | number digits => by
      cases found : Number.readFloat? digits <;> rw [walk, evaluate, found] <;> rfl
  | metric name => by rw [walk, evaluate]; rfl
  | group e => by rw [walk, evaluate, Walk.result_reach, result_walk e]
  | negate e => by rw [walk, evaluate, Walk.result_reach, Walk.result_bind, result_walk e]; rfl
  | combine op left right => by
      rw [walk, evaluate]
      simp only [Walk.result_reach, Walk.result_bind, Walk.result_calculate, result_walk left,
        result_walk right]
      rfl
  | nullIf e other => by
      rw [walk, evaluate]
      simp only [Walk.result_reach, Walk.result_bind, result_walk e, result_walk other]
      rfl
  | coalesce candidates => by
      rw [walk, evaluate, Walk.result_reach, result_walkFirst candidates]
  | absolute e => by rw [walk, evaluate, Walk.result_reach, Walk.result_bind, result_walk e]; rfl
  | refused reason => by rw [walk, evaluate]; rfl

theorem result_walkFirst : (candidates : List Formula) →
    (walkFirst read candidates).result = evaluateFirst read candidates
  | [] => by rw [walkFirst, evaluateFirst]; rfl
  | e :: rest => by
      rw [walkFirst, evaluateFirst]
      simp only [Walk.result_bind, Walk.result_pure, result_walk e, result_walkFirst rest]
      rfl

end

mutual

/-- The parts of a formula, each before those inside it. -/
def parts : Formula → List Formula
  | group e => group e :: parts e
  | negate e => negate e :: parts e
  | combine op left right => combine op left right :: (parts left ++ parts right)
  | nullIf e other => nullIf e other :: (parts e ++ parts other)
  | coalesce candidates => coalesce candidates :: partsOf candidates
  | absolute e => absolute e :: parts e
  | null => [null]
  | number digits => [number digits]
  | metric name => [metric name]
  | refused reason => [refused reason]

def partsOf : List Formula → List Formula
  | [] => []
  | e :: rest => parts e ++ partsOf rest

end

mutual

theorem walk_sound (faults : ∀ name e, read name = .error e → ∃ fault, e = .fault fault) :
    (f : Formula) → (f.walk read).Sound f.parts
  | null => (Walk.sound_pure none).reach
  | number digits => by
      rw [walk, parts]
      refine (Walk.sound_ending fun e failed => ?_).reach
      split at failed
      · cases failed
      · exact ⟨.badValue, (Sum.inl.inj (Except.error.inj failed)).symm⟩
  | metric name => by
      rw [walk, parts]
      refine (Walk.sound_ending fun e failed => ?_).reach
      split at failed
      · cases failed
      · rename_i e' unread
        exact faults name e (Sum.inl.inj (Except.error.inj failed) ▸ unread)
  | group e => by
      rw [walk, parts]
      exact (walk_sound faults e).reach
  | negate e => by
      rw [walk, parts]
      exact ((walk_sound faults e).last fun _ => Walk.sound_pure _).reach
  | combine op left right => by
      rw [walk, parts]
      refine ((walk_sound faults left).andThen fun x => ?_).reach
      exact (walk_sound faults right).last fun y => Walk.sound_calculate op x y
  | nullIf e other => by
      rw [walk, parts]
      refine ((walk_sound faults e).andThen fun x => ?_).reach
      exact (walk_sound faults other).last fun y => Walk.sound_pure _
  | coalesce candidates => by
      rw [walk, parts]
      exact (walkFirst_sound faults candidates).reach
  | absolute e => by
      rw [walk, parts]
      exact ((walk_sound faults e).last fun _ => Walk.sound_pure _).reach
  | refused reason => by
      rw [walk, parts]
      refine (Walk.sound_ending fun e failed => ?_).reach
      cases failed

theorem walkFirst_sound (faults : ∀ name e, read name = .error e → ∃ fault, e = .fault fault) :
    (candidates : List Formula) →
    (walkFirst read candidates).Sound (partsOf candidates)
  | [] => Walk.sound_pure none
  | e :: rest => by
      rw [walkFirst, partsOf]
      refine (walk_sound faults e).andThen fun x => ?_
      exact (walkFirst_sound faults rest).last fun y => Walk.sound_pure _

end

mutual

/-- The evaluation with some values keeps to the one with others, if these can all be read. -/
theorem walk_follows (readable : ∀ name, ∃ x, read' name = .ok x) :
    (f : Formula) → (f.walk read).Follows (f.walk read')
  | null => by
      rw [walk, walk]
      exact Walk.follows_self
  | number digits => by
      rw [walk, walk]
      exact Walk.follows_self
  | metric name => by
      rw [walk, walk]
      obtain ⟨x, known⟩ := readable name
      rw [known]
      refine Walk.Follows.reach ?_
      cases read name with
      | ok y => exact Walk.follows_pure y x
      | error e => exact ⟨List.prefix_refl _, nofun, nofun⟩
  | group e => by
      rw [walk, walk]
      exact (walk_follows readable e).reach
  | negate e => by
      rw [walk, walk]
      exact ((walk_follows readable e).andThen fun _ _ => Walk.follows_pure _ _).reach
  | combine op left right => by
      rw [walk, walk]
      refine ((walk_follows readable left).andThen fun x x' => ?_).reach
      exact (walk_follows readable right).andThen fun y y' => Walk.follows_calculate op x y x' y'
  | nullIf e other => by
      rw [walk, walk]
      refine ((walk_follows readable e).andThen fun x x' => ?_).reach
      exact (walk_follows readable other).andThen fun y y' => Walk.follows_pure _ _
  | coalesce candidates => by
      rw [walk, walk]
      exact (walkFirst_follows readable candidates).reach
  | absolute e => by
      rw [walk, walk]
      exact ((walk_follows readable e).andThen fun _ _ => Walk.follows_pure _ _).reach
  | refused reason => by
      rw [walk, walk]
      exact Walk.follows_self

theorem walkFirst_follows (readable : ∀ name, ∃ x, read' name = .ok x) :
    (candidates : List Formula) →
    (walkFirst read candidates).Follows (walkFirst read' candidates)
  | [] => Walk.follows_self
  | e :: rest => by
      rw [walkFirst, walkFirst]
      refine (walk_follows readable e).andThen fun x x' => ?_
      exact (walkFirst_follows readable rest).andThen fun y y' => Walk.follows_pure _ _

end

end Formula

/-! ## Rows -/

/-- Reading a value as a number fails by a fault only. -/
theorem Value.toNumber_fault {v : Value} {e : Error} (failed : v.toNumber = .error e) :
    ∃ fault, e = .fault fault := by
  cases v with
  | int n =>
      rw [toNumber, floatOfInt] at failed
      split at failed
      · cases failed
      · exact ⟨.overflow, (Except.error.inj failed).symm⟩
  | decimal d =>
      rw [toNumber] at failed
      split at failed
      · cases failed
      · exact ⟨.badValue, (Except.error.inj failed).symm⟩
  | _ => cases failed

namespace Row
variable {row : Row} {name : String}

/-- The numbers that the columns of a row stand for. -/
def reading (row : Row) (name : String) : Outcome (Option Float) := (row.cell name).toNumber

theorem exists_reading (readable : ∀ v ∈ row.values, ∃ x, v.toNumber = .ok x) (name : String) :
    ∃ x, row.reading name = .ok x := by
  rw [reading, cell]
  cases found : row.get? (.text name) with
  | none => exact ⟨none, rfl⟩
  | some v => exact readable v (Entries.mem_values_of_get? found)

end Row

namespace Computed
variable {read : String → Outcome (Option Float)} {expression : String} {formula : Formula}
  {cause : Cause}

theorem run_refuses_iff (faults : ∀ name e, read name = .error e → ∃ fault, e = .fault fault) :
    run expression formula read = refuse cause ↔ ∃ reason,
      (formula.walk read).result = .error (.inr reason) ∧
        cause = .invalidExpression expression reason := by
  have sound := (formula.walk_sound faults).faults
  rw [run, ← Formula.result_walk]
  cases ended : (formula.walk read).result with
  | ok x => simp [refuse]
  | error stop =>
      cases stop with
      | inl e =>
          obtain ⟨fault, rfl⟩ := sound e ended
          simp [refuse]
      | inr reason => simp [refuse, eq_comm]

theorem rounded_fault {x : Float} {decimals : Value} {e : Error}
    (failed : rounded x decimals = .error e) : ∃ fault, e = .fault fault := by
  rw [rounded.eq_def] at failed
  split at failed
  · cases failed
  · split at failed
    · cases failed
    · exact ⟨.overflow, (Except.error.inj failed).symm⟩
  · split at failed
    · cases failed
    · exact ⟨.overflow, (Except.error.inj failed).symm⟩
  · exact ⟨.wrongType, (Except.error.inj failed).symm⟩

theorem evaluate_refuses {c : Computed} (refused : c.evaluate read = refuse cause) :
    run c.expression c.formula read = refuse cause := by
  rw [evaluate] at refused
  rcases Outcome.bind_eq_error.mp refused with failed | ⟨x, -, failed⟩
  · exact failed
  · cases x with
    | none => cases failed
    | some x =>
        rcases Outcome.bind_eq_error.mp failed with failed | ⟨y, -, ⟨⟩⟩
        obtain ⟨fault, ⟨⟩⟩ := rounded_fault failed

theorem run_of_make {v : Value} {c : Computed} (made : make v = .ok c) :
    ∃ x, run c.expression c.formula (Row.reading []) = .ok x := by
  have ofText : ∀ expression, ofText expression = .ok c →
      ∃ x, run c.expression c.formula (Row.reading []) = .ok x := by
    intro expression made
    rw [Computed.ofText] at made
    split at made
    · cases made
    · split at made
      · cases made
      · obtain ⟨x, accepted, made⟩ := Outcome.bind_eq_ok.mp made
        obtain rfl := Outcome.pure_eq_ok.mp made
        exact ⟨x, accepted⟩
  rw [make.eq_def] at made
  split at made
  · exact ofText _ made
  · split at made <;> cases made

/-- A text that can be parsed is refused where its formula is refused without metrics. -/
theorem make_refuses_iff {text : String} {e : Sql.Expr} (filled : (Text.strip text).isEmpty = false)
    (parsed : Sql.Expr.parse .base text = .ok e) : make (.text text) = refuse cause ↔
      run text (Formula.ofExpr e) (Row.reading []) = refuse cause := by
  have step : make (.text text) = run text (Formula.ofExpr e) (Row.reading []) >>= fun _ =>
      .ok ⟨text, Formula.ofExpr e, [], .null, .null, .null, .int 2, false, .null⟩ := by
    change ofText text = _
    rw [ofText, filled, parsed]
    rfl
  rw [step, refuse, Outcome.bind_eq_error]
  simp [refuse]

theorem walk_of_run {x : Option Float} (accepted : run expression formula read = .ok x) :
    (formula.walk read).result = .ok x := by
  rw [Formula.result_walk]
  rw [run] at accepted
  split at accepted
  · rename_i evaluated
    rw [evaluated, Except.ok.inj accepted]
  · cases accepted
  · cases accepted

/-- Reading an expression refuses what any evaluation would refuse: without metrics the evaluation
reaches all parts of the formula that it reaches on a row, and no part of an accepted one is refused
on any row, whatever it is rounded to. No operation that is performed divides by zero. -/
theorem make_decides :
    (∀ v c, make v = .ok c →
      (c.formula.walk (Row.reading [])).reached = c.formula.parts ∧
      ∀ decimals row cause, ({ c with decimals } : Computed).onRow row ≠ refuse cause) ∧
    (∀ text e, (Text.strip text).isEmpty = false → Sql.Expr.parse .base text = .ok e →
      ∀ row : Row, (∀ v ∈ row.values, ∃ x, v.toNumber = .ok x) →
        ∀ cause, make (.text text) = refuse cause ↔
          run text (Formula.ofExpr e) row.reading = refuse cause) ∧
    ∀ (formula : Formula) (row : Row),
      (formula.walk row.reading).result = formula.evaluate row.reading ∧
      (formula.walk row.reading).reached <+: (formula.walk (Row.reading [])).reached ∧
      ∀ step ∈ (formula.walk row.reading).performed,
        step.1.divides = true → (step.2.2 == 0.0) = false := by
  have faults : ∀ (row : Row) name e, row.reading name = .error e → ∃ fault, e = .fault fault :=
    fun _ _ _ => Value.toNumber_fault
  have empty : ∀ name, ∃ x, Row.reading [] name = .ok x := fun _ => ⟨none, rfl⟩
  have refuses : ∀ {expression formula cause} {row row' : Row},
      (∀ name, ∃ x, row'.reading name = .ok x) →
      run expression formula row.reading = refuse cause →
        run expression formula row'.reading = refuse cause := by
    intro expression formula cause row row' readable refused
    rw [run_refuses_iff (faults _)] at refused ⊢
    obtain ⟨reason, refused, said⟩ := refused
    exact ⟨reason, (formula.walk_follows readable).refused reason refused, said⟩
  refine ⟨fun v c made => ?_, fun text e filled parsed row readable cause => ?_,
    fun formula row => ⟨formula.result_walk, (formula.walk_follows empty).reached,
      (formula.walk_sound (faults row)).divides⟩⟩
  · obtain ⟨x, accepted⟩ := run_of_make made
    refine ⟨(c.formula.walk_sound (faults [])).covers x (walk_of_run accepted),
      fun decimals row cause refused => ?_⟩
    have refused := refuses empty (evaluate_refuses refused)
    rw [accepted] at refused
    cases refused
  · rw [make_refuses_iff filled parsed]
    exact ⟨refuses (Row.exists_reading readable), refuses empty⟩

/-- A row with a zero, and with a value that stands for no number. -/
def shop : Row :=
  [("turnover", .int 7), ("orders", .int 2), ("visits", .float 0.0), ("open", .bool true)]

/-- An expression in which zero divides on that row. -/
def ratio : String := "turnover / orders % NULLIF(visits, 0) + turnover / visits"

/-- An expression with a text for a number. -/
def mixed : String := "NULLIF(open, 0) % 'x'"

theorem make_decides_shop :
    (∃ c, make (.text ratio) = .ok c ∧
      (c.formula.walk (Row.reading [])).reached = c.formula.parts ∧
      (∀ cause, ({ c with decimals := .int 3 } : Computed).onRow shop ≠ refuse cause) ∧
      ∃ step ∈ (c.formula.walk shop.reading).performed,
        step.1.divides = true ∧ (step.2.2 == 0.0) = false) ∧
    (∀ v ∈ Entries.values shop, ∃ x, v.toNumber = .ok x) ∧
    ∃ e cause, Sql.Expr.parse .base mixed = .ok e ∧ make (.text mixed) = refuse cause ∧
      run mixed (Formula.ofExpr e) shop.reading = refuse cause := by
  obtain ⟨accepted, parsed, all⟩ := make_decides
  have numbers : (Entries.values shop).all (·.toNumber.toBool) = true := by decide +kernel
  have readable : ∀ v ∈ Entries.values shop, ∃ x, v.toNumber = .ok x := fun v member =>
    Outcome.exists_ok (List.all_eq_true.mp numbers v member)
  refine ⟨?_, readable, ?_⟩
  · have divided : (make (.text ratio)).toOption.any (fun c =>
        (c.formula.walk shop.reading).performed.any fun step => step.1.divides) = true := by
      decide +kernel
    obtain ⟨c, made, divided⟩ := Outcome.any_ok divided
    obtain ⟨step, performed, divides⟩ := List.any_eq_true.mp divided
    obtain ⟨covered, never⟩ := accepted _ c made
    obtain ⟨-, -, nonzero⟩ := all c.formula shop
    exact ⟨c, made, covered, never _ _, step, performed, divides, nonzero step performed divides⟩
  · obtain ⟨e, read⟩ : ∃ e, Sql.Expr.parse .base mixed = .ok e := by
      have told : (Sql.Expr.parse .base mixed).toBool = true := by decide +kernel
      cases read : Sql.Expr.parse .base mixed with
      | ok e => exact ⟨e, rfl⟩
      | error reason =>
          rw [read] at told
          cases told
    obtain ⟨cause, refused⟩ := Outcome.exists_refused
      (show (make (.text mixed)).refuses = true by decide +kernel)
    have same := parsed mixed e (by decide +kernel) read shop readable cause
    exact ⟨e, cause, read, refused, same.mp refused⟩

end Computed
end Datacube
