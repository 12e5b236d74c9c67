import Datacube.Proofs.Entries
import Datacube.Proofs.Json.Number
import Datacube.Proofs.Json.Text

/-!
# Documents written and read back

A value that JSON can carry is read back from its text as it was: every kind of value is known by
its first character, and its text ends where a list or an object goes on.
-/

namespace Datacube

namespace Value

mutual

/-- Whether JSON can carry the value: it holds neither decimals nor floats that are no finite
numbers, and the fields of its objects have texts as keys, of which no two are the same. -/
def isJson : Value → Bool
  | .null | .bool _ | .int _ | .text _ => true
  | .float x => Number.isFiniteFloat x
  | .nan _ | .decimal _ => false
  | .list items => areJson items
  | .object fields => haveJson fields

def areJson : List Value → Bool
  | [] => true
  | v :: rest => isJson v && areJson rest

def haveJson : List (Value × Value) → Bool
  | [] => true
  | (.text s, v) :: rest => isJson v && rest.all (fun f => !f.1.isText s) && haveJson rest
  | _ :: _ => false

end

end Value

namespace Json
open Number

variable {rest chars : List Char} {fuel : Nat} {c : Char}

/-! ## First characters -/

theorem skip_eq (plain : isSpace c = false) : skip (c :: chars) = c :: chars := by
  simp [skip, plain]

theorem skip_blank : skip (' ' :: chars) = skip chars := rfl

theorem value?_blank : value? fuel (' ' :: chars) = value? fuel chars := by
  cases fuel with
  | zero => rfl
  | succ fuel => rw [value?, value?, skip_blank]

theorem items?_blank {acc : List Value} :
    items? fuel acc (' ' :: chars) = items? fuel acc chars := by
  cases fuel with
  | zero => rfl
  | succ fuel => rw [items?, items?, value?_blank]

theorem fields?_blank {acc : Entries Value Value} :
    fields? fuel acc (' ' :: chars) = fields? fuel acc chars := by
  cases fuel with
  | zero => rfl
  | succ fuel => rw [fields?, fields?, skip_blank]

/-- The text of a scalar begins with none of the characters that begin other values. -/
theorem value?_scalar (plain : isSpace c = false) (quote : c ≠ '"') (bracket : c ≠ '[')
    (brace : c ≠ '\x7b') : value? (fuel + 1) (c :: chars) = scalar? (c :: chars) := by
  rw [value?, skip_eq plain]
  split <;> rename_i same
  · exact absurd (List.cons.inj same).1 quote
  · exact absurd (List.cons.inj same).1 bracket
  · exact absurd (List.cons.inj same).1 brace
  · rfl

theorem value?_text (s : String) :
    value? (fuel + 1) ((string s).toList ++ rest) = some (.text s, rest) := by
  have text : (string s).toList ++ rest =
      '"' :: (s.toList.flatMap stringChar ++ '"' :: rest) := by
    simp [string]
  rw [text, value?, skip_eq rfl]
  simp only [stringBody?_text, Option.map_some]

theorem value?_list (plain : isSpace c = false) (apart : c ≠ ']') :
    value? (fuel + 1) ('[' :: c :: chars) =
      (items? fuel [] (c :: chars)).map fun found => (.list found.1, found.2) := by
  rw [value?, skip_eq rfl]
  simp only [skip_eq plain]
  split
  · rename_i same
    exact absurd (List.cons.inj same).1 apart
  · rfl

theorem value?_object (plain : isSpace c = false) (apart : c ≠ '\x7d') :
    value? (fuel + 1) ('\x7b' :: c :: chars) =
      (fields? fuel [] (c :: chars)).map fun found => (.object found.1, found.2) := by
  rw [value?, skip_eq rfl]
  simp only [skip_eq plain]
  split
  · rename_i same
    exact absurd (List.cons.inj same).1 apart
  · rfl

/-! ## Texts -/

def itemsText (items : List Value) : List Char := (Text.join ", " (Value.jsonItems items)).toList

def fieldText (s : String) (v : Value) : List Char :=
  '"' :: (s.toList.flatMap stringChar ++ '"' :: ':' :: ' ' :: v.json.toList)

def fieldsText (fields : List (Value × Value)) : List Char :=
  (Text.join ", " (Value.jsonFields fields)).toList

theorem toList_join_one (s : String) : (Text.join ", " [s]).toList = s.toList :=
  congrArg _ String.intercalate_singleton

theorem toList_join_cons (s t : String) (others : List String) :
    (Text.join ", " (s :: t :: others)).toList =
      s.toList ++ ',' :: ' ' :: (Text.join ", " (t :: others)).toList := by
  rw [Text.join, String.intercalate_cons_cons, String.toList_append, String.toList_append,
    List.append_assoc]
  rfl

theorem itemsText_one (v : Value) : itemsText [v] = v.json.toList := toList_join_one v.json

theorem itemsText_cons (v w : Value) (items : List Value) :
    itemsText (v :: w :: items) = v.json.toList ++ ',' :: ' ' :: itemsText (w :: items) :=
  toList_join_cons _ _ _

theorem toList_field (s : String) (v : Value) :
    (string s ++ ": " ++ v.json).toList = fieldText s v := by
  simp [fieldText, string]

theorem fieldsText_one (s : String) (v : Value) : fieldsText [(.text s, v)] = fieldText s v :=
  (toList_join_one _).trans (toList_field s v)

theorem fieldsText_cons (s : String) (v : Value) (f : Value × Value)
    (fields : List (Value × Value)) : fieldsText ((.text s, v) :: f :: fields) =
      fieldText s v ++ ',' :: ' ' :: fieldsText (f :: fields) := by
  rw [← toList_field]
  exact toList_join_cons _ _ _

theorem string_toList (s : String) :
    (string s).toList = '"' :: (s.toList.flatMap stringChar ++ ['"']) := by
  simp [string]

theorem list_toList (items : List Value) :
    (Value.list items).json.toList = '[' :: (itemsText items ++ [']']) := by
  simp [Value.json, itemsText]

theorem object_toList (fields : List (Value × Value)) :
    (Value.object fields).json.toList = '\x7b' :: (fieldsText fields ++ ['\x7d']) := by
  simp [Value.json, fieldsText]

/-! ## Scalars -/

theorem Numeric.plain (numeric : Numeric c) : isSpace c = false := by
  have blank := numeric.apart (d := ' ') (by decide) rfl
  have tab := numeric.apart (d := '\t') (by decide) rfl
  have line := numeric.apart (d := '\n') (by decide) rfl
  have back := numeric.apart (d := '\r') (by decide) rfl
  simp [isSpace, blank, tab, line, back]

/-- The first character of the text of a value is no space and closes no list. -/
theorem exists_first {v : Value} (carried : v.isJson = true) :
    ∃ c chars, v.json.toList = c :: chars ∧ isSpace c = false ∧ c ≠ ']' := by
  cases v with
  | null => exact ⟨'n', _, rfl, rfl, by decide⟩
  | bool b => cases b with
    | true => exact ⟨'t', _, rfl, rfl, by decide⟩
    | false => exact ⟨'f', _, rfl, rfl, by decide⟩
  | int n =>
      obtain ⟨c, chars, text, numeric⟩ := numeric_int n
      exact ⟨c, chars, text, numeric.plain, numeric.apart (by decide) rfl⟩
  | float x =>
      obtain ⟨c, chars, text, numeric⟩ := numeric_float carried
      exact ⟨c, chars, text, numeric.plain, numeric.apart (by decide) rfl⟩
  | nan mark => cases carried
  | decimal d => cases carried
  | text s => exact ⟨'"', _, string_toList s, rfl, by decide⟩
  | list items => exact ⟨'[', _, list_toList items, rfl, by decide⟩
  | object fields => exact ⟨'\x7b', _, object_toList fields, rfl, by decide⟩

theorem value?_numeric {text : List Char} {v : Value}
    (first : ∃ c chars, text = c :: chars ∧ Numeric c)
    (read : scalar? (text ++ rest) = some (v, rest)) :
    value? (fuel + 1) (text ++ rest) = some (v, rest) := by
  obtain ⟨c, chars, rfl, numeric⟩ := first
  rw [List.cons_append] at read ⊢
  rw [value?_scalar numeric.plain (numeric.apart (by decide) rfl) (numeric.apart (by decide) rfl)
    (numeric.apart (by decide) rfl), read]

/-! ## Reading back -/

/-- With so much fuel values are read back. -/
def ReadsValues (fuel : Nat) : Prop :=
  ∀ v : Value, v.isJson = true → ∀ rest, Ends rest → v.json.toList.length < fuel →
    value? fuel (v.json.toList ++ rest) = some (v, rest)

def ReadsItems (fuel : Nat) : Prop :=
  ∀ v items, Value.areJson (v :: items) = true → ∀ acc rest,
    (itemsText (v :: items)).length + 1 < fuel →
    items? fuel acc (itemsText (v :: items) ++ ']' :: rest) = some (acc.reverse ++ v :: items, rest)

def ReadsFields (fuel : Nat) : Prop :=
  ∀ f fields, Value.haveJson (f :: fields) = true → ∀ acc rest,
    (∀ g ∈ f :: fields, g.1 ∉ Entries.keys acc) → (fieldsText (f :: fields)).length + 1 < fuel →
    fields? fuel acc (fieldsText (f :: fields) ++ '\x7d' :: rest) = some (acc ++ f :: fields, rest)

/-- The first character of the texts of items is that of the first one. -/
theorem exists_first_items {v : Value} (carried : v.isJson = true) (items : List Value) :
    ∃ c chars, itemsText (v :: items) = c :: chars ∧ isSpace c = false ∧ c ≠ ']' := by
  obtain ⟨c, chars, text, plain, apart⟩ := exists_first carried
  cases items with
  | nil => exact ⟨c, chars, (itemsText_one v).trans text, plain, apart⟩
  | cons w others =>
      rw [itemsText_cons, text]
      exact ⟨c, _, rfl, plain, apart⟩

theorem exists_first_fields (s : String) (v : Value) (fields : List (Value × Value)) :
    ∃ chars, fieldsText ((.text s, v) :: fields) = '"' :: chars := by
  cases fields with
  | nil => exact ⟨_, fieldsText_one s v⟩
  | cons f others => exact ⟨_, fieldsText_cons s v f others⟩

theorem exists_text {f : Value × Value} {fields : List (Value × Value)}
    (carried : Value.haveJson (f :: fields) = true) : ∃ s v, f = (.text s, v) := by
  obtain ⟨key, v⟩ := f
  cases key with
  | text s => exact ⟨s, v, rfl⟩
  | _ => cases carried

theorem readsValues_succ (items : ReadsItems fuel) (fields : ReadsFields fuel) :
    ReadsValues (fuel + 1) := by
  intro v carried rest ends enough
  cases v with
  | null => exact value?_scalar rfl (by decide) (by decide) (by decide)
  | bool b => cases b with
    | true => exact value?_scalar rfl (by decide) (by decide) (by decide)
    | false => exact value?_scalar rfl (by decide) (by decide) (by decide)
  | int n => exact value?_numeric (numeric_int n) (scalar?_int n ends)
  | float x => exact value?_numeric (numeric_float carried) (scalar?_float carried ends)
  | nan mark => cases carried
  | decimal d => cases carried
  | text s => exact value?_text s
  | list values =>
      rw [list_toList] at enough ⊢
      cases values with
      | nil => rfl
      | cons w others =>
          have both : w.isJson = true ∧ Value.areJson others = true := by
            simpa [Value.isJson, Value.areJson] using carried
          have read := items w others carried [] rest (by simp at enough; omega)
          obtain ⟨c, chars, text, plain, apart⟩ := exists_first_items both.1 others
          rw [List.cons_append, List.append_assoc]
          rw [text] at read ⊢
          exact (value?_list plain apart).trans (congrArg _ read)
  | object entries =>
      rw [object_toList] at enough ⊢
      cases entries with
      | nil => rfl
      | cons f others =>
          obtain ⟨s, v, rfl⟩ := exists_text carried
          have read := fields (.text s, v) others carried [] rest (by simp)
            (by simp at enough; omega)
          obtain ⟨chars, text⟩ := exists_first_fields s v others
          rw [List.cons_append, List.append_assoc]
          rw [text] at read ⊢
          exact (value?_object rfl (by decide)).trans (congrArg _ read)

theorem readsItems_succ (values : ReadsValues fuel) (items : ReadsItems fuel) :
    ReadsItems (fuel + 1) := by
  intro v others carried acc rest enough
  have both : v.isJson = true ∧ Value.areJson others = true := by
    simpa [Value.areJson] using carried
  cases others with
  | nil =>
      rw [itemsText_one] at enough ⊢
      have read := values v both.1 (']' :: rest) (by simp [Ends]) (by omega)
      rw [items?, read, ← List.reverse_cons]
      rfl
  | cons w others =>
      rw [itemsText_cons] at enough ⊢
      simp only [List.length_append, List.length_cons] at enough
      have read := values v both.1 (',' :: ' ' :: (itemsText (w :: others) ++ ']' :: rest))
        (by simp [Ends]) (by omega)
      have later := items w others both.2 (v :: acc) rest (by omega)
      rw [List.append_assoc, List.cons_append, List.cons_append, items?, read]
      simp only [skip_eq (show isSpace ',' = false from rfl)]
      rw [items?_blank, later, List.reverse_cons, List.append_assoc]
      rfl

/-- A field up to what follows its value. -/
theorem fields?_field {s : String} {v : Value} {acc : Entries Value Value} {next : Char}
    (plain : isSpace next = false)
    (read : value? fuel (v.json.toList ++ next :: rest) = some (v, next :: rest)) :
    fields? (fuel + 1) acc (fieldText s v ++ next :: rest) =
      if next = ',' then fields? fuel (acc.put (.text s) v) rest
      else if next = '\x7d' then some (acc.put (.text s) v, rest) else none := by
  have text : fieldText s v ++ next :: rest = '"' :: (s.toList.flatMap stringChar ++
      '"' :: ':' :: ' ' :: (v.json.toList ++ next :: rest)) := by
    simp [fieldText]
  rw [text, fields?, skip_eq rfl]
  simp only [stringBody?_text, skip_eq (show isSpace ':' = false from rfl), value?_blank, read,
    skip_eq plain]
  split
  · rename_i same
    obtain ⟨rfl, rfl⟩ := List.cons.inj same
    rfl
  · rename_i same
    obtain ⟨rfl, rfl⟩ := List.cons.inj same
    rfl
  · rename_i comma brace
    have notComma : next ≠ ',' := fun same => comma rest (by rw [same])
    have notBrace : next ≠ '\x7d' := fun same => brace rest (by rw [same])
    rw [if_neg notComma, if_neg notBrace]

theorem readsFields_succ (values : ReadsValues fuel) (fields : ReadsFields fuel) :
    ReadsFields (fuel + 1) := by
  intro f others carried acc rest new enough
  obtain ⟨s, v, rfl⟩ := exists_text carried
  have parts : v.isJson = true ∧ (∀ g ∈ others, g.1.isText s = false) ∧
      Value.haveJson others = true := by
    simpa [Value.haveJson, and_assoc] using carried
  obtain ⟨own, apart, later⟩ := parts
  have added : Entries.put acc (.text s) v = acc ++ [(.text s, v)] :=
    Entries.put_new (Entries.exact_text s) (new _ List.mem_cons_self)
  cases others with
  | nil =>
      rw [fieldsText_one] at enough ⊢
      simp only [fieldText, List.length_append, List.length_cons] at enough
      have read := values v own ('\x7d' :: rest) (by simp [Ends]) (by omega)
      rw [fields?_field rfl read, ← added]
      rfl
  | cons g others =>
      rw [fieldsText_cons] at enough ⊢
      simp only [fieldText, List.length_append, List.length_cons] at enough
      have read := values v own (',' :: ' ' :: (fieldsText (g :: others) ++ '\x7d' :: rest))
        (by simp [Ends]) (by omega)
      have new' : ∀ h ∈ g :: others, h.1 ∉ Entries.keys (acc ++ [(.text s, v)]) := by
        intro h member
        rw [Entries.keys_append_one, List.mem_append, List.mem_singleton, not_or]
        refine ⟨new h (List.mem_cons_of_mem _ member), fun same => ?_⟩
        have known := apart h member
        rw [(Value.isText_iff h.1 s).mpr same] at known
        cases known
      have read' := fields g others later (acc ++ [(.text s, v)]) rest new' (by omega)
      rw [List.append_assoc, List.cons_append, List.cons_append, fields?_field rfl read,
        if_pos rfl, added, fields?_blank, read', List.append_assoc]
      rfl

theorem reads_all (fuel : Nat) : ReadsValues fuel ∧ ReadsItems fuel ∧ ReadsFields fuel := by
  induction fuel with
  | zero =>
      refine ⟨?_, ?_, ?_⟩
      · intro v carried rest ends enough
        exact absurd enough (Nat.not_lt_zero _)
      · intro v others carried acc rest enough
        exact absurd enough (Nat.not_lt_zero _)
      · intro f others carried acc rest new enough
        exact absurd enough (Nat.not_lt_zero _)
  | succ fuel ih =>
      obtain ⟨values, items, fields⟩ := ih
      exact ⟨readsValues_succ items fields, readsItems_succ values items,
        readsFields_succ values fields⟩

/-- A value that JSON can carry is read back from its text. -/
theorem ofJson?_json {v : Value} (carried : v.isJson = true) : Value.ofJson? v.json = some v := by
  have read := (reads_all (v.json.toList.length + 1)).1 v carried [] (by simp [Ends])
    (Nat.lt_succ_self _)
  rw [List.append_nil] at read
  simp [Value.ofJson?, read, skip]

end Json
end Datacube
