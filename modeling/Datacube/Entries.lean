/-!
# Ordered entries

Keyed data in the order in which the keys first came: a later value for a known key replaces the
earlier one and keeps its place.
-/

namespace Datacube

/-- Keyed values in insertion order. -/
abbrev Entries (α β : Type) := List (α × β)

namespace Entries
variable {α β γ : Type} [BEq α]

def get? (entries : Entries α β) (key : α) : Option β := List.lookup key entries

def has (entries : Entries α β) (key : α) : Bool := (entries.get? key).isSome

/-- Sets the value of a key: in place when the key is known, at the end when it is new. -/
def put (entries : Entries α β) (key : α) (value : β) : Entries α β :=
  match entries with
  | [] => [(key, value)]
  | (k, v) :: rest => if key == k then (k, value) :: rest else (k, v) :: put rest key value

def erase (entries : Entries α β) (key : α) : Entries α β := entries.filter fun e => !(key == e.1)

def putAll (entries : Entries α β) (pairs : List (α × β)) : Entries α β :=
  pairs.foldl (fun acc pair => acc.put pair.1 pair.2) entries

/-- The entries of a list of pairs, of which the last pair of a key wins. -/
def ofPairs (pairs : List (α × β)) : Entries α β := putAll [] pairs

/-- Sets the value of a key unless the key is known. -/
def putNew (entries : Entries α β) (key : α) (value : β) : Entries α β :=
  if entries.has key then entries else entries ++ [(key, value)]

def push (entries : Entries α (List γ)) (key : α) (value : γ) : Entries α (List γ) :=
  entries.put key ((entries.get? key).getD [] ++ [value])

def keys (entries : Entries α β) : List α := entries.map (·.1)

def values (entries : Entries α β) : List β := entries.map (·.2)

def mapValues (f : β → γ) (entries : Entries α β) : Entries α γ :=
  entries.map fun e => (e.1, f e.2)

omit [BEq α] in
@[simp] theorem keys_nil : keys ([] : Entries α β) = [] := rfl

omit [BEq α] in
@[simp] theorem keys_cons (e : α × β) (rest : Entries α β) :
    keys (e :: rest) = e.1 :: keys rest := rfl

@[simp] theorem get?_nil (key : α) : get? ([] : Entries α β) key = none := rfl

theorem get?_cons (e : α × β) (rest : Entries α β) (key : α) :
    get? (e :: rest) key = if key == e.1 then some e.2 else get? rest key := by
  rw [get?, List.lookup_cons]
  cases key == e.1 <;> rfl

variable [LawfulBEq α]

theorem get?_put_self (entries : Entries α β) (key : α) (value : β) :
    (entries.put key value).get? key = some value := by
  induction entries with
  | nil => simp [put, get?_cons]
  | cons e rest ih =>
    rw [put]
    split
    · rename_i h
      rw [get?_cons, if_pos h]
    · rename_i h
      rw [get?_cons, if_neg h]
      exact ih

theorem get?_put_of_ne (entries : Entries α β) {key other : α} (value : β) (h : other ≠ key) :
    (entries.put key value).get? other = entries.get? other := by
  induction entries with
  | nil => simp [put, get?_cons, h]
  | cons e rest ih =>
    rw [put]
    split
    · rename_i hk
      have hk : key = e.1 := by simpa using hk
      simp [get?_cons, ← hk, h]
    · rw [get?_cons, get?_cons, ih]

/-- The keys after a put: unchanged when the key is known, one more otherwise. -/
theorem keys_put (entries : Entries α β) (key : α) (value : β) :
    (entries.put key value).keys = if key ∈ entries.keys then entries.keys
      else entries.keys ++ [key] := by
  induction entries with
  | nil => simp [put, keys]
  | cons e rest ih =>
    simp only [put]
    split
    · rename_i h
      have h : key = e.1 := by simpa using h
      simp [h]
    · rename_i h
      have h : key ≠ e.1 := by simpa using h
      simp only [keys_cons, ih, List.mem_cons, h, false_or]
      split <;> simp

end Entries
end Datacube
