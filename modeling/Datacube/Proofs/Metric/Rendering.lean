import Datacube.Plan.Software
import Datacube.Proofs.Entries
import Datacube.Proofs.Outcome

/-!
# Renderings that bear an alias

What is rendered by a built-in rendering is an expression under the quoted alias of the aggregation.
The partial results of an aggregation come under the aliases that its rollup reads.
-/

namespace Datacube

/-- The text is an expression under an alias that is quoted for the dialect. -/
def Dialect.Names (d : Dialect) (aliasName : Value) (text : String) : Prop :=
  ∃ expression quoted, d.wrapValue aliasName = .ok quoted ∧ text = expression ++ " AS " ++ quoted

variable {a : Aggregation} {d : Dialect} {text : String}

namespace Rendering

/-- The rendering writes the alias last. A template writes it where it has a place for it. -/
def writesAlias : Rendering → Bool
  | template _ => false
  | _ => true

theorem render_names {r : Rendering} (writes : r.writesAlias = true)
    (rendered : r.render a d = .ok text) : d.Names a.aliasName text := by
  cases r with
  | function name =>
      simp only [render, Outcome.bind_eq_ok, Outcome.pure_eq_ok] at rendered
      obtain ⟨column, -, quoted, wrapped, rfl⟩ := rendered
      exact ⟨name ++ "(" ++ column ++ ")", quoted, wrapped, by simp [String.append_assoc]⟩
  | countRows =>
      simp only [render, Outcome.bind_eq_ok] at rendered
      obtain ⟨quoted, wrapped, rendered⟩ := rendered
      split at rendered
      · cases rendered
      · rw [← Outcome.pure_eq_ok.mp rendered]
        exact ⟨"count()", quoted, wrapped, rfl⟩
      · simp only [Outcome.bind_eq_ok, Outcome.pure_eq_ok] at rendered
        obtain ⟨column, -, rfl⟩ := rendered
        exact ⟨"count(" ++ column ++ ")", quoted, wrapped, by simp [String.append_assoc]⟩
  | percentileWithin =>
      simp only [render, Outcome.bind_eq_ok, Outcome.pure_eq_ok] at rendered
      obtain ⟨column, -, quoted, wrapped, rfl⟩ := rendered
      exact ⟨"PERCENTILE_CONT(" ++ Number.floatText a.percentile ++ ") WITHIN GROUP (ORDER BY " ++
        column ++ ")", quoted, wrapped, by simp [String.append_assoc]⟩
  | percentileFunction =>
      simp only [render, Outcome.bind_eq_ok, Outcome.pure_eq_ok] at rendered
      obtain ⟨column, -, quoted, wrapped, rfl⟩ := rendered
      exact ⟨"quantile_cont(" ++ column ++ ", " ++ Number.floatText a.percentile ++ ")", quoted,
        wrapped, by simp [String.append_assoc]⟩
  | percentileParameter =>
      simp only [render, Outcome.bind_eq_ok, Outcome.pure_eq_ok] at rendered
      obtain ⟨column, -, quoted, wrapped, rfl⟩ := rendered
      exact ⟨"quantile(" ++ Number.floatText a.percentile ++ ")(" ++ column ++ ")", quoted, wrapped,
        by simp [String.append_assoc]⟩
  | template => cases writes

end Rendering

namespace Renderings

def writeAliases (table : Renderings) : Bool :=
  table.values.all fun entries => entries.values.all (·.all Rendering.writesAlias)

theorem writesAlias_of_find? {table : Renderings} {kind backend : String} {r : Rendering}
    (writes : table.writeAliases = true) (found : table.find? kind backend = some r) :
    r.writesAlias = true := by
  have every : ∀ entries ∈ table.values, ∀ backend,
      (entries.get? backend).join = some r → r.writesAlias = true := by
    intro entries member backend present
    have listed := Entries.mem_values_of_get? (Option.join_eq_some_iff.mp present)
    have checked := List.all_eq_true.mp writes entries member
    exact List.all_eq_true.mp checked (some r) listed
  rw [find?] at found
  cases known : table.get? kind with
  | none =>
      rw [known] at found
      cases found
  | some entries =>
      have member := Entries.mem_values_of_get? known
      rw [known] at found
      rcases Option.or_eq_some_iff.mp found with own | ⟨-, any⟩
      · exact every entries member backend own
      · exact every entries member anyBackend any

theorem render_names {table : Renderings} (writes : table.writeAliases = true)
    (rendered : table.render a d = .ok text) : d.Names a.aliasName text := by
  rw [render] at rendered
  split at rendered
  · rename_i r found
    exact Rendering.render_names (writesAlias_of_find? writes found) rendered
  · cases rendered

theorem writeAliases_builtin : builtin.writeAliases = true := by decide +kernel

end Renderings

/-! ## Partial results -/

namespace Rollup
variable {rollup : Rollup} {rows rows' : List Row} {column aliasName : Value}

theorem numbers_congr (same : rows.map (·.cell column) = rows'.map (·.cell column)) :
    numbers rows column = numbers rows' column := by
  have read : ∀ rows : List Row, numbers rows column =
      (rows.map (·.cell column)).filterMap fun v => (v.toNumber).toOption.join := by
    intro rows
    rw [numbers, List.filterMap_map]
    refine List.filterMap_congr fun row _ => ?_
    rw [number?, Function.comp_apply]
    cases (row.cell column).toNumber <;> rfl
  rw [read, read, same]

/-- A rollup reads nothing but the partial results of its metric. -/
theorem combine_congr (same : ∀ column ∈ rollup.partials aliasName,
    rows.map (·.cell column) = rows'.map (·.cell column)) :
    rollup.combine aliasName rows = rollup.combine aliasName rows' := by
  cases rollup with
  | avg =>
      have sums := numbers_congr (same _ (.head _))
      have counts := numbers_congr (same _ (.tail _ (.head _)))
      rw [combine, combine, sums, counts]
  | _ =>
      have cells := numbers_congr (same _ (.head _))
      rw [combine, combine, cells]

end Rollup

namespace Planner
variable {rollup : Rollup}

theorem aliasName_partial (kind : AggregationKind) (reference stem : String) {phrase : String}
    (some : phrase ≠ "") :
    Aggregation.aliasName ⟨kind, reference, .text (stem ++ phrase), 0.5⟩ =
      .text (stem ++ phrase) := by
  have holds : (Value.text (stem ++ phrase)).isTrue = true := by
    simp [Value.isTrue, some]
  rw [Aggregation.aliasName, Value.orElse, if_pos holds]

theorem partials_aliases (rolls : a.rollup? = some rollup) :
    (partials a).map (·.aliasName) = rollup.partials a.aliasName := by
  rw [Aggregation.rollup?] at rolls
  cases kind : a.kind with
  | avg =>
      rw [kind] at rolls
      obtain rfl := Option.some.inj rolls
      rw [partials, if_pos kind]
      simp only [List.map_cons, List.map_nil, Aggregation.partialAliases]
      rw [aliasName_partial .sum _ _ (by decide), aliasName_partial .count _ _ (by decide)]
      rfl
  | percentile =>
      rw [kind] at rolls
      cases rolls
  | _ =>
      rw [kind] at rolls
      obtain rfl := Option.some.inj rolls
      rw [partials, if_neg (by rw [kind]; decide)]
      rfl

end Planner
end Datacube
