import Datacube.Proofs.Dialect.Quoting
import Mathlib.Logic.Relation

/-!
# References with an alias

A reference with an alias is quoted side by side. Both sides are shorter than the text unless its
letters grow in lower case so far that the phrase stands there behind the end of the text, which is
its own left side then and has no quoted form.
-/

namespace Datacube.Dialect
open Text

variable {d : Dialect} {s t reference aliased quoted : String} {fuel i : Nat}

/-! ## Both sides -/

/-- One of the two texts around the first alias phrase. -/
def Side (s t : String) : Prop :=
  ∃ reference aliased, cutAlias? s = some (reference, aliased) ∧ (t = reference ∨ t = aliased)

/-- A text, or a side of one that it is cut into. -/
abbrev Within (s t : String) : Prop := Relation.ReflTransGen Side s t

/-- Cutting a text, and both sides again, comes to an end. -/
def Ends (s : String) : Prop := Acc (fun t s => Side s t) s

/-- A text without blanks around it in whose lower-case form the alias phrase stands behind the
length of the text. -/
def Outgrown (s : String) : Prop :=
  strip s = s ∧ ∃ i, indexOf? aliasPhrase (lower s).toList = some i ∧ s.length ≤ i

theorem cutAlias?_ok (cut : cutAlias? s = some (reference, aliased)) :
    ∃ i, indexOf? aliasPhrase (lower s).toList = some i ∧
      reference.toList = stripChars (s.toList.take i) ∧
      aliased.toList = stripChars (s.toList.drop (i + 4)) := by
  obtain ⟨i, found, same⟩ := Option.map_eq_some_iff.mp cut
  obtain ⟨rfl, rfl⟩ := Prod.mk.inj same
  exact ⟨i, found, String.toList_ofList, String.toList_ofList⟩

theorem Side.sublist (side : Side s t) : t.toList.Sublist s.toList := by
  obtain ⟨reference, aliased, cut, rfl | rfl⟩ := side
  · obtain ⟨i, -, left, -⟩ := cutAlias?_ok cut
    rw [left]
    exact (stripChars_sublist _).trans (List.take_sublist i _)
  · obtain ⟨i, -, -, right⟩ := cutAlias?_ok cut
    rw [right]
    exact (stripChars_sublist _).trans (List.drop_sublist (i + 4) _)

theorem aliased_shorter (cut : cutAlias? s = some (reference, aliased)) :
    aliased.length < s.length := by
  obtain ⟨i, found, -, right⟩ := cutAlias?_ok cut
  have filled : 0 < s.length := by
    by_contra empty
    have none : s = "" := String.length_eq_zero_iff.mp (by omega)
    rw [none] at found
    cases found
  have le := (stripChars_sublist (s.toList.drop (i + 4))).length_le
  rw [← right, List.length_drop, String.length_toList, String.length_toList] at le
  omega

theorem side_self_iff : Side s s ↔ Outgrown s := by
  constructor
  · rintro ⟨reference, aliased, cut, rfl | rfl⟩
    · obtain ⟨i, found, left, -⟩ := cutAlias?_ok cut
      have long : s.toList.length ≤ i := by
        have le := (stripChars_sublist (s.toList.take i)).length_le
        rw [← left, List.length_take] at le
        omega
      rw [List.take_of_length_le long] at left
      exact ⟨String.toList_injective (String.toList_ofList.trans left.symm), i, found,
        by rwa [String.length_toList] at long⟩
    · exact absurd (aliased_shorter cut) (lt_irrefl _)
  · rintro ⟨stripped, i, found, long⟩
    have cut : cutAlias? s =
        some (s, String.ofList (stripChars (s.toList.drop (i + 4)))) := by
      rw [cutAlias?, found, Option.map_some,
        List.take_of_length_le (by rwa [String.length_toList])]
      rw [strip] at stripped
      rw [stripped]
    exact ⟨_, _, cut, .inl rfl⟩

/-- A side is shorter than the text, or the text again. -/
theorem Side.shorter (side : Side s t) (apart : ¬ Outgrown s) : t.length < s.length := by
  have le := side.sublist.length_le
  rw [String.length_toList, String.length_toList] at le
  refine lt_of_le_of_ne le fun same => apart ?_
  have equal := side.sublist.eq_of_length (by rwa [String.length_toList, String.length_toList])
  rw [String.toList_injective equal] at side
  exact side_self_iff.mp side

theorem Ends.within (ends : Ends s) (within : Within s t) : Ends t := by
  induction within with
  | refl => exact ends
  | tail _ side ih => exact Acc.inv ih side

theorem Ends.not_outgrown (ends : Ends s) : ¬ Outgrown s := by
  intro outgrown
  have self := side_self_iff.mpr outgrown
  clear outgrown
  induction ends with
  | intro s _ ih => exact ih s self self

/-- Only a text that is its own side is cut without an end. -/
theorem ends_iff : Ends s ↔ ∀ t, Within s t → ¬ Outgrown t := by
  constructor
  · exact fun ends t within => (ends.within within).not_outgrown
  · intro apart
    induction size : s.length using Nat.strong_induction_on generalizing s with
    | _ n ih =>
        refine .intro s fun t side => ?_
        exact ih t.length (size ▸ side.shorter (apart s .refl))
          (fun u within => apart u (within.head side)) rfl

/-- Only the dotted capital I grows in lower case, and cutting adds no letters. -/
theorem not_outgrown_of_undotted (undotted : 'İ' ∉ s.toList) (within : Within s t) :
    ¬ Outgrown t := by
  have undotted : 'İ' ∉ t.toList := by
    induction within with
    | refl => exact undotted
    | tail _ side absent => exact fun member => absent (side.sublist.subset member)
  rintro ⟨-, i, found, long⟩
  have bound := indexOf?_bound found
  rw [length_lower, List.count_eq_zero.mpr undotted] at bound
  have phrase : aliasPhrase.length = 4 := rfl
  omega

/-! ## Depth -/

theorem wrapWithin_cut (cut : cutAlias? s = some (reference, aliased)) :
    d.wrapWithin (fuel + 1) s = some quoted ↔
      ∃ left right, d.wrapWithin fuel reference = some left ∧
        d.wrapWithin fuel aliased = some right ∧ quoted = left ++ " AS " ++ right := by
  have named : (s == "*") = false := by
    rw [beq_eq_false_iff_ne]
    rintro rfl
    cases cut
  rw [wrapWithin, named, cut]
  simp only [Bool.false_eq_true, if_false, Option.bind_eq_bind, Option.bind_eq_some_iff,
    Option.some.injEq]
  constructor
  · rintro ⟨left, found, right, found', rfl⟩
    exact ⟨left, right, found, found', rfl⟩
  · rintro ⟨left, right, found, found', rfl⟩
    exact ⟨left, found, right, found', rfl⟩

theorem wrapWithin_mono (ends : d.wrapWithin fuel s = some quoted) {more : Nat}
    (le : fuel ≤ more) : d.wrapWithin more s = some quoted := by
  induction fuel generalizing s quoted more with
  | zero => cases ends
  | succ fuel ih =>
      obtain ⟨more, rfl⟩ := Nat.exists_eq_add_of_le' (Nat.one_le_of_lt le)
      cases cut : cutAlias? s with
      | none =>
          have plain := cutAlias?_eq_none.mp cut
          rwa [wrapWithin_unaliased plain] at ends ⊢
      | some sides =>
          rw [wrapWithin_cut cut] at ends ⊢
          obtain ⟨left, right, found, found', rfl⟩ := ends
          exact ⟨left, right, ih found (by omega), ih found' (by omega), rfl⟩

theorem ends_of_wrapWithin (ends : d.wrapWithin fuel s = some quoted) : Ends s := by
  induction fuel generalizing s quoted with
  | zero => cases ends
  | succ fuel ih =>
      refine .intro s fun t side => ?_
      obtain ⟨reference, aliased, cut, rfl | rfl⟩ := side
      · obtain ⟨left, -, found, -⟩ := (wrapWithin_cut cut).mp ends
        exact ih found
      · obtain ⟨-, right, -, found, -⟩ := (wrapWithin_cut cut).mp ends
        exact ih found

/-- The length of a text is depth enough for it. -/
theorem wrap_eq_ok : d.wrap s = .ok quoted ↔ ∃ fuel, d.wrapWithin fuel s = some quoted := by
  constructor
  · intro ends
    rw [wrap] at ends
    split at ends
    · rename_i found
      exact ⟨s.length + 1, Except.ok.inj ends ▸ found⟩
    · cases ends
  · rintro ⟨fuel, ends⟩
    suffices enough : d.wrapWithin (s.length + 1) s = some quoted by rw [wrap, enough]
    -- What has a quoted form at any depth is no side of its own, so its sides are shorter.
    induction fuel generalizing s quoted with
    | zero => cases ends
    | succ fuel ih =>
        cases cut : cutAlias? s with
        | none =>
            have plain := cutAlias?_eq_none.mp cut
            rwa [wrapWithin_unaliased plain] at ends ⊢
        | some sides =>
            obtain ⟨left, right, found, found', rfl⟩ := (wrapWithin_cut cut).mp ends
            have apart := (ends_of_wrapWithin ends).not_outgrown
            have shorter : sides.1.length < s.length :=
              Side.shorter ⟨_, _, cut, .inl rfl⟩ apart
            have shorter' : sides.2.length < s.length :=
              Side.shorter ⟨_, _, cut, .inr rfl⟩ apart
            exact (wrapWithin_cut cut).mpr ⟨left, right, wrapWithin_mono (ih found) (by omega),
              wrapWithin_mono (ih found') (by omega), rfl⟩

theorem wrap_cut (cut : cutAlias? s = some (reference, aliased)) :
    d.wrap s = .ok quoted ↔
      ∃ left right, d.wrap reference = .ok left ∧ d.wrap aliased = .ok right ∧
        quoted = left ++ " AS " ++ right := by
  simp only [wrap_eq_ok]
  constructor
  · rintro ⟨fuel, ends⟩
    cases fuel with
    | zero => cases ends
    | succ fuel =>
        obtain ⟨left, right, found, found', rfl⟩ := (wrapWithin_cut cut).mp ends
        exact ⟨left, right, ⟨fuel, found⟩, ⟨fuel, found'⟩, rfl⟩
  · rintro ⟨left, right, ⟨fuel, found⟩, ⟨fuel', found'⟩, rfl⟩
    exact ⟨max fuel fuel' + 1, (wrapWithin_cut cut).mpr ⟨left, right,
      wrapWithin_mono found (le_max_left fuel fuel'),
      wrapWithin_mono found' (le_max_right fuel fuel'), rfl⟩⟩

/-- A text is quoted where cutting it, and both sides again, comes to an end. -/
theorem wrap_ends_iff : (∃ quoted, d.wrap s = .ok quoted) ↔ Ends s := by
  constructor
  · rintro ⟨quoted, whole⟩
    obtain ⟨fuel, ends⟩ := wrap_eq_ok.mp whole
    exact ends_of_wrapWithin ends
  · intro ends
    induction ends with
    | intro s _ ih =>
        cases cut : cutAlias? s with
        | none => exact ⟨_, wrap_unaliased (cutAlias?_eq_none.mp cut)⟩
        | some sides =>
            obtain ⟨left, found⟩ := ih sides.1 ⟨_, _, cut, .inl rfl⟩
            obtain ⟨right, found'⟩ := ih sides.2 ⟨_, _, cut, .inr rfl⟩
            exact ⟨_, (wrap_cut cut).mpr ⟨left, right, found, found', rfl⟩⟩

/-! ## Where the text is cut -/

theorem indexOf?_aliasPhrase {front rest : List Char} (absent : ¬ aliasPhrase <:+: front ++ [' ']) :
    indexOf? aliasPhrase (front ++ aliasPhrase ++ rest) = some front.length := by
  induction front with
  | nil => exact indexOf?_begins ⟨rest, rfl⟩
  | cons x front ih =>
      rw [List.cons_append, List.infix_cons_iff, not_or] at absent
      have apart : ¬ aliasPhrase <+: x :: (front ++ aliasPhrase ++ rest) := by
        -- A phrase that begins before another one has to end before the first letter of that.
        rcases front with _ | ⟨y, _ | ⟨z, _ | ⟨w, front⟩⟩⟩
        · simp [aliasPhrase]
        · simp [aliasPhrase]
        · simpa [aliasPhrase] using absent.1
        · simpa [aliasPhrase] using absent.1
      rw [List.cons_append, List.cons_append, indexOf?_cons apart, ih absent.2]
      rfl

/-- In lower case the phrase stands further back by the letters that have grown before it. -/
theorem indexOf?_aliased (absent : Unaliased (reference ++ " ")) (aliased : String) :
    indexOf? aliasPhrase (lower (reference ++ " as " ++ aliased)).toList =
      some (reference.length + reference.toList.count 'İ') := by
  have words : reference ++ " as " ++ aliased = reference ++ " " ++ ("as" ++ " " ++ aliased) := by
    simp only [String.append_assoc]
    rfl
  have phrase : (lower (reference ++ " as " ++ aliased)).toList =
      (lower reference).toList ++ aliasPhrase ++ (lower aliased).toList := by
    have spelled : " ".toList ++ ((lower "as").toList ++ " ".toList) = aliasPhrase := rfl
    rw [words, lower_divided, lower_divided, ← spelled]
    simp only [String.toList_append, List.append_assoc]
  have alone : (lower (reference ++ " ")).toList = (lower reference).toList ++ [' '] := by
    have blank : reference ++ " " = reference ++ " " ++ "" := String.append_empty.symm
    rw [blank, lower_divided, String.toList_append, String.toList_append]
    exact List.append_nil _
  rw [phrase, indexOf?_aliasPhrase (alone ▸ absent), length_lower]

theorem Unaliased.of_blank (absent : Unaliased (reference ++ " ")) : Unaliased reference := by
  have blank : reference ++ " " = reference ++ " " ++ "" := String.append_empty.symm
  intro found
  refine absent (found.trans ?_)
  rw [blank, lower_divided, String.append_assoc, String.toList_append]
  exact List.infix_append' [] _ _

/-- Behind a reference whose letters grow in lower case the text is cut as much further back. -/
theorem cutAlias?_grown (absent : Unaliased (reference ++ " ")) (aliased : String) :
    cutAlias? (reference ++ " as " ++ aliased) = some
      (strip (String.ofList ((reference ++ " as " ++ aliased).toList.take
        (reference.length + reference.toList.count 'İ'))),
      strip (String.ofList (aliased.toList.drop (reference.toList.count 'İ')))) := by
  have whole : (reference ++ " as " ++ aliased).toList =
      (reference.toList ++ aliasPhrase) ++ aliased.toList := by
    rw [String.toList_append, String.toList_append]
    rfl
  have length : (reference.toList ++ aliasPhrase).length = reference.length + 4 := by
    rw [List.length_append, String.length_toList]
    rfl
  have right : (reference ++ " as " ++ aliased).toList.drop
      (reference.length + reference.toList.count 'İ' + 4) =
        aliased.toList.drop (reference.toList.count 'İ') := by
    rw [whole, Nat.add_right_comm, ← length, List.drop_append, List.drop_of_length_le (by omega),
      Nat.add_sub_cancel_left, List.nil_append]
  rw [cutAlias?, indexOf?_aliased absent, Option.map_some, right]
  simp only [strip, String.toList_ofList]

/-- A text is cut between a reference and its alias if no letter of the reference grows in lower
case, and only then unless the alias is empty. -/
theorem cutAlias?_aliased (stripped : strip reference = reference)
    (stripped' : strip aliased = aliased) (absent : Unaliased (reference ++ " ")) :
    ('İ' ∉ reference.toList →
      cutAlias? (reference ++ " as " ++ aliased) = some (reference, aliased)) ∧
    (aliased ≠ "" → ∀ {left}, cutAlias? (reference ++ " as " ++ aliased) = some (left, aliased) →
      'İ' ∉ reference.toList) := by
  rw [cutAlias?_grown absent]
  constructor
  · intro undotted
    have front : (reference ++ " as " ++ aliased).toList.take reference.length =
        reference.toList := by
      rw [String.toList_append, String.toList_append, List.append_assoc, ← String.length_toList,
        List.take_left]
    rw [List.count_eq_zero.mpr undotted, Nat.add_zero, front, List.drop_zero, String.ofList_toList,
      String.ofList_toList, stripped, stripped']
  · intro filled left cut dotted
    have right := congrArg (·.toList.length) (Prod.mk.inj (Option.some.inj cut)).2
    have le := (stripChars_sublist (aliased.toList.drop (reference.toList.count 'İ'))).length_le
    have grown := List.count_pos_iff.mpr dotted
    have some : aliased.toList.length ≠ 0 := by
      rw [String.length_toList]
      exact mt String.length_eq_zero_iff.mp filled
    simp only [strip, String.toList_ofList] at right
    rw [List.length_drop] at le
    omega

/-- Every text is quoted unless it is cut into one that is its own side, which takes a dotted
capital I; and where none stands in a reference, its quoted form and that of its alias are joined.
Behind a reference with one the text is cut elsewhere. -/
theorem wrap_side_by_side (d : Dialect) :
    (∀ s, ((∃ quoted, d.wrap s = .ok quoted) ↔ Ends s) ∧
      (Ends s ↔ ∀ t, Within s t → ¬ Outgrown t)) ∧
    (∀ s, 'İ' ∉ s.toList → ∃ quoted, d.wrap s = .ok quoted) ∧
    ∀ reference aliased, strip reference = reference → strip aliased = aliased →
      Unaliased (reference ++ " ") → Unaliased aliased →
      ∃ left right, d.wrap reference = .ok left ∧ d.wrap aliased = .ok right ∧
        ('İ' ∉ reference.toList →
          d.wrap (reference ++ " as " ++ aliased) = .ok (left ++ " AS " ++ right)) ∧
        (aliased ≠ "" → 'İ' ∈ reference.toList →
          cutAlias? (reference ++ " as " ++ aliased) ≠ some (reference, aliased)) := by
  refine ⟨fun s => ⟨wrap_ends_iff, ends_iff⟩, fun s undotted => wrap_ends_iff.mpr
    (ends_iff.mpr fun t => not_outgrown_of_undotted undotted), ?_⟩
  intro reference aliased stripped stripped' absent plain
  obtain ⟨cut, undotted⟩ := cutAlias?_aliased stripped stripped' absent
  have left := wrap_unaliased (d := d) absent.of_blank
  have right := wrap_unaliased (d := d) plain
  exact ⟨_, _, left, right,
    fun free => (wrap_cut (cut free)).mpr ⟨_, _, left, right, rfl⟩,
    fun filled dotted cut => undotted filled cut dotted⟩

theorem wrap_side_by_side_lines :
    strip "order.lines.as" = "order.lines.as" ∧ strip "as \"sold\"" = "as \"sold\"" ∧
    Unaliased ("order.lines.as" ++ " ") ∧ Unaliased "as \"sold\"" ∧
    'İ' ∉ "order.lines.as".toList ∧
    postgres.wrap "order.lines.as as as \"sold\"" =
      .ok "\"order\".\"lines\".\"as\" AS \"as \"\"sold\"\"\"" ∧
    ∃ quoted, postgres.wrap "a aS b As c" = .ok quoted := by
  have stripped : strip "order.lines.as" = "order.lines.as" := by decide +kernel
  have stripped' : strip "as \"sold\"" = "as \"sold\"" := by decide +kernel
  have absent : Unaliased ("order.lines.as" ++ " ") := by decide +kernel
  have plain : Unaliased "as \"sold\"" := by decide +kernel
  have undotted : 'İ' ∉ "order.lines.as".toList := by decide
  obtain ⟨-, ends, joined⟩ := wrap_side_by_side postgres
  obtain ⟨left, right, found, found', whole, -⟩ := joined _ _ stripped stripped' absent plain
  have read : postgres.wrap "order.lines.as" = .ok "\"order\".\"lines\".\"as\"" := by rfl
  have read' : postgres.wrap "as \"sold\"" = .ok "\"as \"\"sold\"\"\"" := by rfl
  rw [read] at found
  rw [read'] at found'
  obtain rfl := Except.ok.inj found
  obtain rfl := Except.ok.inj found'
  exact ⟨stripped, stripped', absent, plain, undotted, whole undotted, ends _ (by decide)⟩

/-- In lower case the dotted capital I takes the place of two letters: the alias loses its first
letter behind one, and behind five of them the text is its own left side. -/
theorem wrap_loses_letter :
    postgres.wrap "İ as xy" = .ok "\"İ\" AS \"y\"" ∧
      postgres.wrap "İİİİİ as x" = fail .endless := by
  constructor <;> rfl

end Datacube.Dialect
