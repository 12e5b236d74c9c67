import Datacube.Proofs.Metric.Walk

/-!
# Null in computed metrics

Null makes every part of a formula null that it stands in, up to a `COALESCE` or the second operand
of a `NULLIF`. A metric that stands for no number is null, and so is what zero divides. Without
`NULL`, `NULLIF` and `COALESCE` nothing else makes a formula null.
-/

namespace Datacube

/-! ## What stands for no number -/

/-- Whether a value stands for a number: numbers of every kind do, and texts in number notation. -/
def Value.isNumeric : Value → Bool
  | .int _ | .float _ | .nan _ | .decimal _ => true
  | .text s => (Number.readFloat? s).isSome
  | .null | .bool _ | .list _ | .object _ => false

theorem Value.toNumber_eq_none {v : Value} : v.toNumber = .ok none ↔ v.isNumeric = false := by
  cases v with
  | int n =>
      rw [toNumber]
      cases floatOfInt n <;> simp [isNumeric, bind, Except.bind, pure, Except.pure]
  | decimal d =>
      rw [toNumber]
      cases d.toFloat? <;> simp [isNumeric, fail]
  | text s => simp [toNumber, isNumeric]
  | _ => simp [toNumber, isNumeric]

def Row.hasNumber (row : Row) (name : String) : Bool :=
  (row.get? (.text name)).any Value.isNumeric

theorem Row.reading_eq_none {row : Row} {name : String} :
    row.reading name = .ok none ↔ row.hasNumber name = false := by
  rw [reading, cell, hasNumber]
  cases row.get? (.text name) with
  | none => simp [Value.toNumber]
  | some v => simp [Value.toNumber_eq_none]

theorem Operation.apply_eq_none {op : Operation} {a b : Float} :
    op.apply a b = none ↔ op.divides = true ∧ (b == 0.0) = true := by
  cases op <;> simp [apply, divides]

namespace Formula
variable {read : String → Outcome (Option Float)} {row : Row} {f part : Formula}
  {x : Option Float}

/-- The parts of a formula around which only groups, signs, operands of arithmetic, absolute values
and first operands of `NULLIF` lie. -/
def strictParts : Formula → List Formula
  | group e => group e :: strictParts e
  | negate e => negate e :: strictParts e
  | combine op left right => combine op left right :: (strictParts left ++ strictParts right)
  | nullIf e other => nullIf e other :: strictParts e
  | absolute e => absolute e :: strictParts e
  | f => [f]

/-- Whether the formula is null by itself on a row: `NULL`, a metric that the row has no number for,
or a division by what comes to zero. -/
def isBlank (row : Row) : Formula → Bool
  | null => true
  | metric name => !row.hasNumber name
  | combine op _ right =>
    op.divides && match right.evaluate row.reading with
      | .ok (some y) => y == 0.0
      | _ => false
  | _ => false

/-- Whether the formula is neither `NULL` nor a function that tells null from numbers. -/
def isPlain : Formula → Bool
  | null | nullIf _ _ | coalesce _ => false
  | _ => true

/-! ## Values of parts -/

section Values
variable {e other left right : Formula} {op : Operation}

theorem bind_eq_ok {α β : Type} {result : Except (Error ⊕ String) α}
    {next : α → Except (Error ⊕ String) β} {b : β} :
    (result >>= next) = .ok b ↔ ∃ a, result = .ok a ∧ next a = .ok b := by
  cases result <;> simp [bind, Except.bind]

theorem evaluate_metric {name : String} :
    (metric name).evaluate read = .ok x ↔ read name = .ok x := by
  rw [evaluate]
  cases read name <;> simp

theorem evaluate_negate : (negate e).evaluate read = .ok x ↔
    ∃ y, e.evaluate read = .ok y ∧ y.map (- ·) = x := by
  simp only [evaluate, bind_eq_ok, pure, Except.pure, Except.ok.injEq]

theorem evaluate_absolute : (absolute e).evaluate read = .ok x ↔
    ∃ y, e.evaluate read = .ok y ∧ y.map Float.abs = x := by
  simp only [evaluate, bind_eq_ok, pure, Except.pure, Except.ok.injEq]

theorem evaluate_combine : (combine op left right).evaluate read = .ok x ↔
    ∃ a, left.evaluate read = .ok a ∧ ∃ b, right.evaluate read = .ok b ∧
      (a.bind fun a => b.bind (op.apply a)) = x := by
  simp only [evaluate, bind_eq_ok]
  refine exists_congr fun a => and_congr_right fun _ => exists_congr fun b =>
    and_congr_right fun _ => ?_
  cases a <;> cases b <;> simp [pure, Except.pure]

theorem evaluate_nullIf : (nullIf e other).evaluate read = .ok x ↔
    ∃ a, e.evaluate read = .ok a ∧ ∃ b, other.evaluate read = .ok b ∧
      (if equalNumbers a b then none else a) = x := by
  simp only [evaluate, bind_eq_ok, pure, Except.pure, Except.ok.injEq]

end Values

theorem isBlank_combine {op : Operation} {left right : Formula} :
    (combine op left right).isBlank row = true ↔
      op.divides = true ∧ ∃ y, right.evaluate row.reading = .ok (some y) ∧ (y == 0.0) = true := by
  rw [isBlank, Bool.and_eq_true]
  refine and_congr_right fun _ => ?_
  split
  · rename_i y value
    simp [value]
  · rename_i other
    simpa using fun y value => absurd value (other y)

theorem evaluate_blank (blank : part.isBlank row = true)
    (run : part.evaluate row.reading = .ok x) : x = none := by
  cases part with
  | null =>
      rw [evaluate] at run
      exact (Except.ok.inj run).symm
  | metric name =>
      rw [isBlank, Bool.not_eq_true'] at blank
      rw [evaluate_metric, Row.reading_eq_none.mpr blank] at run
      exact (Except.ok.inj run).symm
  | combine op left right =>
      obtain ⟨divides, y, value, zero⟩ := isBlank_combine.mp blank
      obtain ⟨a, -, b, inner, rfl⟩ := evaluate_combine.mp run
      obtain rfl := Except.ok.inj (value.symm.trans inner)
      simp [Operation.apply_eq_none.mpr ⟨divides, zero⟩]
  | _ => cases blank

/-! ## From the parts to the whole -/

theorem evaluate_none (strict : part ∈ f.strictParts)
    (blank : ∀ x, part.evaluate read = .ok x → x = none) (run : f.evaluate read = .ok x) :
    x = none := by
  induction f using strictParts.induct generalizing x with
  | case1 e ih =>
      rcases List.mem_cons.mp strict with rfl | inner
      · exact blank x run
      · rw [evaluate] at run
        exact ih inner run
  | case2 e ih =>
      rcases List.mem_cons.mp strict with rfl | inner
      · exact blank x run
      · obtain ⟨y, value, rfl⟩ := evaluate_negate.mp run
        rw [ih inner value, Option.map_none]
  | case3 op left right ih ih' =>
      rcases List.mem_cons.mp strict with rfl | inner
      · exact blank x run
      · obtain ⟨a, first, b, second, rfl⟩ := evaluate_combine.mp run
        rcases List.mem_append.mp inner with inner | inner
        · rw [ih inner first, Option.bind_none]
        · rw [ih' inner second]
          exact Option.bind_fun_none a
  | case4 e other ih =>
      rcases List.mem_cons.mp strict with rfl | inner
      · exact blank x run
      · -- Whatever the other operand is, null is taken for itself or as equal to it.
        obtain ⟨a, value, b, -, rfl⟩ := evaluate_nullIf.mp run
        rw [ih inner value, ite_self]
  | case5 e ih =>
      rcases List.mem_cons.mp strict with rfl | inner
      · exact blank x run
      · obtain ⟨y, value, rfl⟩ := evaluate_absolute.mp run
        rw [ih inner value, Option.map_none]
  | case6 f =>
      rw [strictParts] at strict
      · obtain rfl := List.mem_singleton.mp strict
        exact blank x run
      all_goals assumption

/-! ## From the whole to the parts -/

/-- A formula of plain parts is null on account of a part at a strict position. -/
theorem exists_blank (plain : ∀ part ∈ f.parts, part.isPlain = true)
    (run : f.evaluate row.reading = .ok none) :
    ∃ part ∈ f.strictParts, part.isBlank row = true := by
  induction f using strictParts.induct with
  | case1 e ih =>
      rw [parts, List.forall_mem_cons] at plain
      rw [evaluate] at run
      obtain ⟨part, strict, blank⟩ := ih plain.2 run
      exact ⟨part, List.mem_cons_of_mem _ strict, blank⟩
  | case2 e ih =>
      rw [parts, List.forall_mem_cons] at plain
      obtain ⟨y, value, null⟩ := evaluate_negate.mp run
      rw [Option.map_eq_none_iff.mp null] at value
      obtain ⟨part, strict, blank⟩ := ih plain.2 value
      exact ⟨part, List.mem_cons_of_mem _ strict, blank⟩
  | case3 op left right ih ih' =>
      rw [parts, List.forall_mem_cons, List.forall_mem_append] at plain
      obtain ⟨a, first, b, second, null⟩ := evaluate_combine.mp run
      rcases a with _ | a
      · obtain ⟨part, strict, blank⟩ := ih plain.2.1 first
        exact ⟨part, List.mem_cons_of_mem _ (List.mem_append_left _ strict), blank⟩
      · rcases b with _ | b
        · obtain ⟨part, strict, blank⟩ := ih' plain.2.2 second
          exact ⟨part, List.mem_cons_of_mem _ (List.mem_append_right _ strict), blank⟩
        · obtain ⟨divides, zero⟩ := Operation.apply_eq_none.mp null
          exact ⟨_, List.mem_cons_self, isBlank_combine.mpr ⟨divides, b, second, zero⟩⟩
  | case4 e other =>
      rw [parts, List.forall_mem_cons] at plain
      cases plain.1
  | case5 e ih =>
      rw [parts, List.forall_mem_cons] at plain
      obtain ⟨y, value, null⟩ := evaluate_absolute.mp run
      rw [Option.map_eq_none_iff.mp null] at value
      obtain ⟨part, strict, blank⟩ := ih plain.2 value
      exact ⟨part, List.mem_cons_of_mem _ strict, blank⟩
  | case6 f =>
      cases f with
      | metric name =>
          refine ⟨metric name, List.mem_cons_self, ?_⟩
          rw [isBlank, Row.reading_eq_none.mp (evaluate_metric.mp run)]
          rfl
      | number digits =>
          rw [evaluate] at run
          split at run <;> cases run
      | null => exact ⟨null, List.mem_cons_self, rfl⟩
      | coalesce candidates =>
          rw [parts, List.forall_mem_cons] at plain
          cases plain.1
      | refused reason =>
          rw [evaluate] at run
          cases run
      | _ => simp_all

end Formula

/-! ## Metrics on rows -/

/-- A value that is no whole number beyond the floats and no signaling decimal can be read. -/
theorem Value.exists_toNumber {v : Value}
    (bounded : ∀ n, v = .int n → (Number.floatOfInt? n).isSome = true)
    (quiet : v.isSignaling = false) : ∃ x, v.toNumber = .ok x := by
  cases v with
  | int n =>
      obtain ⟨x, found⟩ := Option.isSome_iff_exists.mp (bounded n rfl)
      exact ⟨some x, by rw [toNumber, floatOfInt, found]; rfl⟩
  | decimal d =>
      cases d with
      | nan negative signaling code mark =>
          rw [isSignaling] at quiet
          exact ⟨some (0.0 / 0.0), by rw [toNumber, Decimal.toFloat?, quiet]; rfl⟩
      | _ => exact ⟨_, rfl⟩
  | _ => exact ⟨_, rfl⟩

namespace Computed

theorem onRow_eq_null {c : Computed} {row : Row} :
    c.onRow row = .ok .null ↔ c.formula.evaluate row.reading = .ok none := by
  change c.evaluate row.reading = .ok .null ↔ _
  rw [evaluate, Outcome.bind_eq_ok, run]
  cases c.formula.evaluate row.reading with
  | error stop => cases stop <;> simp [refuse]
  | ok x =>
      cases x with
      | none => simp [Outcome.pure_eq_ok]
      | some x =>
          suffices rounds : Value.float <$> rounded x c.decimals ≠ .ok .null by simpa using rounds
          cases rounded x c.decimals <;> simp

/-- An accepted formula has a value or is null on every row that can be read. -/
theorem exists_evaluate {v : Value} {c : Computed} (made : make v = .ok c) {row : Row}
    (readable : ∀ v ∈ row.values, ∃ x, v.toNumber = .ok x) :
    ∃ x, c.formula.evaluate row.reading = .ok x := by
  obtain ⟨x, accepted⟩ := run_of_make made
  have follows : (c.formula.walk (Row.reading [])).Follows (c.formula.walk row.reading) :=
    c.formula.walk_follows (Row.exists_reading readable)
  obtain ⟨-, y, ended⟩ := follows.ends x (walk_of_run accepted)
  exact ⟨y, Formula.result_walk c.formula ▸ ended⟩

/-- A computed metric is null on a row, whatever it is rounded to, where a part at a strict position
is, and a metric without `NULL`, `NULLIF` and `COALESCE` is null only there. Whole numbers beyond
the floats and signaling decimals cannot be read as numbers, so no row holds them. -/
theorem onRow_null {v : Value} {c : Computed} (made : make v = .ok c) {row : Row}
    (bounded : ∀ n, .int n ∈ row.values → (Number.floatOfInt? n).isSome = true)
    (quiet : ∀ v ∈ row.values, v.isSignaling = false) (decimals : Value) :
    ((∃ part ∈ c.formula.strictParts, part.isBlank row = true) →
      ({ c with decimals } : Computed).onRow row = .ok .null) ∧
    ((∀ part ∈ c.formula.parts, part.isPlain = true) →
      ({ c with decimals } : Computed).onRow row = .ok .null →
        ∃ part ∈ c.formula.strictParts, part.isBlank row = true) := by
  rw [onRow_eq_null]
  constructor
  · rintro ⟨part, strict, blank⟩
    have readable : ∀ v ∈ row.values, ∃ x, v.toNumber = .ok x := fun v member =>
      Value.exists_toNumber (fun n whole => bounded n (whole ▸ member)) (quiet v member)
    obtain ⟨x, run⟩ := exists_evaluate made readable
    rw [Formula.evaluate_none strict (fun x => Formula.evaluate_blank blank) run] at run
    exact run
  · exact Formula.exists_blank

/-- An expression in which zero divides inside a first operand of `NULLIF`. -/
def share : String := "ABS(NULLIF(-(turnover / visits), COALESCE(open, 1))) % orders"

/-- A plain expression that reads a truth value. -/
def opened : String := "turnover * (open - orders)"

theorem onRow_null_shop :
    (∃ c, make (.text share) = .ok c ∧
      (∃ part ∈ c.formula.strictParts, part.isBlank shop = true) ∧
      ({ c with decimals := .int 1 } : Computed).onRow shop = .ok .null) ∧
    ∃ c, make (.text opened) = .ok c ∧ (∀ part ∈ c.formula.parts, part.isPlain = true) ∧
      ({ c with decimals := .null } : Computed).onRow shop = .ok .null ∧
      ∃ part ∈ c.formula.strictParts, part.isBlank shop = true := by
  have bounded : ∀ n, .int n ∈ Entries.values shop → (Number.floatOfInt? n).isSome = true := by
    intro n member
    obtain rfl | rfl : n = 7 ∨ n = 2 := by simpa [shop, Entries.values] using member
    · decide +kernel
    · decide +kernel
  have quiet : ∀ v ∈ Entries.values shop, v.isSignaling = false := by
    simp [shop, Entries.values, Value.isSignaling]
  constructor
  · have divided : (make (.text share)).toOption.any (fun c =>
        c.formula.strictParts.any (·.isBlank shop)) = true := by decide +kernel
    obtain ⟨c, made, divided⟩ := Outcome.any_ok divided
    have blank := List.any_eq_true.mp divided
    exact ⟨c, made, blank, (onRow_null made bounded quiet (.int 1)).1 blank⟩
  · have null : (make (.text opened)).toOption.any (fun c => c.formula.parts.all (·.isPlain) &&
        (({ c with decimals := .null } : Computed).onRow shop).toOption.any (·.isNull)) = true := by
      decide +kernel
    obtain ⟨c, made, null⟩ := Outcome.any_ok null
    rw [Bool.and_eq_true, List.all_eq_true] at null
    obtain ⟨v, run, none⟩ := Outcome.any_ok null.2
    obtain rfl := Value.eq_null_of_isNull none
    exact ⟨c, made, null.1, run, (onRow_null made bounded quiet .null).2 null.1 run⟩

/-- A row without turnover, whose refunds are a signaling decimal. -/
def ledger : Row := [("turnover", .null), ("refunds", .decimal (.nan false true 0 0))]

/-- A signaling decimal leaves the sum without any result although one operand is null. -/
theorem sum_signaling : (∀ n, .int n ∉ Entries.values ledger) ∧
    ∃ c, make (.text "turnover + refunds") = .ok c ∧
      (∃ part ∈ c.formula.strictParts, part.isBlank ledger = true) ∧
      c.onRow ledger ≠ .ok .null := by
  refine ⟨by simp [ledger, Entries.values], ?_⟩
  have failed : (make (.text "turnover + refunds")).toOption.any (fun c =>
      c.formula.strictParts.any (·.isBlank ledger) && !(c.onRow ledger).toBool) = true := by
    decide +kernel
  obtain ⟨c, made, failed⟩ := Outcome.any_ok failed
  rw [Bool.and_eq_true, List.any_eq_true] at failed
  refine ⟨c, made, failed.1, fun run => ?_⟩
  rw [run] at failed
  cases failed.2

end Computed
end Datacube
