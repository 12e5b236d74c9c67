import Datacube.Text.Cut
import Mathlib.Data.List.Basic
import Mathlib.Data.List.Infix

/-!
# Texts of several parts

A text is its parts with the mark between them, and parts without the mark are told from the text
that they make.

Names that are made up are a stem and a part with two underscores between them. Where stems hold no
two underscores in a row and end in none, such a name is read in one way only, and is no stem.
-/

namespace Datacube.Text
variable {c : Char} {s t : String} {parts : List String}

theorem toList_join (separator : String) (parts : List String) :
    (join separator parts).toList = separator.toList.intercalate (parts.map String.toList) :=
  String.toList_intercalate

theorem cutAll_eq_splitOn (chars : List Char) : cutAll c chars = chars.splitOn c := by
  induction chars with
  | nil => rfl
  | cons x rest ih =>
      rw [cutAll, List.splitOn, List.splitOnP_cons_eq_if_modifyHead]
      split
      · rename_i here
        rw [if_pos (by simp [here]), ih, List.splitOn]
      · rename_i apart
        rw [if_neg (by simp [apart]), ih, List.splitOn]
        split
        · rename_i empty
          exact absurd (ih.trans empty) (cutAll_ne_nil c rest)
        · rename_i part parts cut
          rw [cut, List.modifyHead_cons]

theorem not_mem_cutAll (chars : List Char) : ∀ part ∈ cutAll c chars, c ∉ part := by
  induction chars with
  | nil => simp [cutAll]
  | cons x rest ih =>
      rw [cutAll]
      split
      · simpa using ih
      · rename_i apart
        split
        · rename_i empty
          exact absurd empty (cutAll_ne_nil c rest)
        · rename_i part parts cut
          rw [cut] at ih
          intro other member
          rcases List.mem_cons.mp member with rfl | later
          · rw [List.mem_cons, not_or]
            exact ⟨Ne.symm apart, ih part List.mem_cons_self⟩
          · exact ih other (List.mem_cons_of_mem part later)

theorem intercalate_cutAll (chars : List Char) : [c].intercalate (cutAll c chars) = chars := by
  rw [cutAll_eq_splitOn, List.intercalate_splitOn]

theorem splitAll_ne_nil (c : Char) (s : String) : splitAll c s ≠ [] := by
  rw [splitAll, ne_eq, List.map_eq_nil_iff]
  exact cutAll_ne_nil c s.toList

theorem not_mem_splitAll (s : String) : ∀ part ∈ splitAll c s, c ∉ part.toList := by
  intro part member
  obtain ⟨chars, cut, rfl⟩ := List.mem_map.mp member
  rw [String.toList_ofList]
  exact not_mem_cutAll s.toList chars cut

/-- Parts without the mark are read back from the text that they make. -/
theorem splitAll_join {separator : String} (mark : separator.toList = [c]) (some : parts ≠ [])
    (absent : ∀ part ∈ parts, c ∉ part.toList) : splitAll c (join separator parts) = parts := by
  have apart : ∀ chars ∈ parts.map String.toList, c ∉ chars := by
    simpa only [List.forall_mem_map] using absent
  rw [splitAll, toList_join, mark, cutAll_eq_splitOn,
    List.splitOn_intercalate c apart (by simpa using some), List.map_map]
  simp [Function.comp_def]

theorem join_splitAll {separator : String} (mark : separator.toList = [c]) (s : String) :
    join separator (splitAll c s) = s := by
  refine String.toList_injective ?_
  rw [toList_join, mark, splitAll, List.map_map]
  simp [Function.comp_def, intercalate_cutAll]

theorem splitAll_of_absent (absent : c ∉ s.toList) : splitAll c s = [s] := by
  have whole : [c].intercalate [s.toList] = s.toList := List.intercalate_singleton
  rw [splitAll, ← whole, cutAll_eq_splitOn, List.splitOn_intercalate c (by simpa using absent)
    (by simp), List.map_singleton, String.ofList_toList]

/-- A mark divides a text into two, of which each has parts of its own. -/
theorem splitAll_append {separator : String} (mark : separator.toList = [c]) (s t : String) :
    splitAll c (s ++ separator ++ t) = splitAll c s ++ splitAll c t := by
  simp only [splitAll, String.toList_append, mark, cutAll_eq_splitOn, List.splitOn,
    List.append_assoc, List.singleton_append]
  rw [List.splitOnP_append_cons _ _ (by simp), List.map_append]

/-! ## Stems -/

/-- The text is not empty, and the first two underscores after it are those that follow it. -/
def Stem (s : String) : Prop := s ≠ "" ∧ ¬ ['_', '_'] <:+: s.toList ++ ['_']

instance (s : String) : Decidable (Stem s) :=
  inferInstanceAs (Decidable (s ≠ "" ∧ ¬ ['_', '_'] <:+: s.toList ++ ['_']))

theorem prefix_marks {more c d : List Char} (longer : more ≠ [])
    (same : '_' :: '_' :: c = more ++ '_' :: '_' :: d) : ['_', '_'] <+: more ++ ['_'] := by
  match more with
  | [x] =>
      simp only [List.cons_append, List.nil_append, List.cons.injEq] at same
      exact ⟨[], by simp [← same.1]⟩
  | x :: y :: rest =>
      simp only [List.cons_append, List.cons.injEq] at same
      exact ⟨rest ++ ['_'], by simp [← same.1, ← same.2.1]⟩

theorem nil_of_stem {a more c d : List Char} (stem : ¬ ['_', '_'] <:+: a ++ more ++ ['_'])
    (same : '_' :: '_' :: c = more ++ '_' :: '_' :: d) : more = [] := by
  by_contra longer
  apply stem
  rw [List.append_assoc]
  exact (prefix_marks longer same).isInfix.trans (List.suffix_append _ _).isInfix

/-- Two underscores after a stem end it. -/
theorem cut_stem {a b c d : List Char} (stem : ¬ ['_', '_'] <:+: a ++ ['_'])
    (stem' : ¬ ['_', '_'] <:+: b ++ ['_'])
    (same : a ++ '_' :: '_' :: c = b ++ '_' :: '_' :: d) : a = b ∧ c = d := by
  rcases List.append_eq_append_iff.mp same with ⟨more, rfl, rest⟩ | ⟨more, rfl, rest⟩
  · obtain rfl := nil_of_stem stem' rest
    simpa using rest
  · obtain rfl := nil_of_stem stem rest
    simpa [eq_comm] using rest

/-- A stem alone, or with a part. -/
structure PartedName where
  stem : String
  part? : Option String

namespace PartedName
variable {a b : PartedName}

def text (name : PartedName) : String :=
  match name.part? with
  | none => name.stem
  | some part => name.stem ++ "__" ++ part

theorem stem_ne_parted {s : String} (stem : Stem s) (t part : String) : s ≠ t ++ "__" ++ part := by
  rintro rfl
  refine stem.2 ⟨t.toList, part.toList ++ ['_'], ?_⟩
  simp

theorem text_injective (stem : Stem a.stem) (stem' : Stem b.stem) (same : a.text = b.text) :
    a = b := by
  obtain ⟨s, part?⟩ := a
  obtain ⟨t, other?⟩ := b
  cases part? with
  | none =>
      cases other? with
      | none => rw [show s = t from same]
      | some other => exact absurd same (stem_ne_parted stem t other)
  | some part =>
      cases other? with
      | none => exact absurd same.symm (stem_ne_parted stem' s part)
      | some other =>
          have letters := congrArg String.toList same
          simp only [text, String.toList_append, List.append_assoc] at letters
          obtain ⟨stems, parts⟩ := cut_stem stem.2 stem'.2 letters
          obtain rfl : s = t := String.toList_injective stems
          obtain rfl : part = other := String.toList_injective parts
          rfl

end PartedName
end Datacube.Text
