/-!
# Records

A record binds keys to values and remembers the order in which its keys were first bound. Binding a
key again changes its value and keeps its place.
-/

namespace SeedScript

/-- Binds `key` in a list of pairs: in its place when it is there, else at the end. -/
def bindKey (key : String) (value : α) : List (String × α) → List (String × α)
  | [] => [(key, value)]
  | (k, v) :: entries =>
    if k = key then (key, value) :: entries else (k, v) :: bindKey key value entries

theorem map_fst_bindKey (key : String) (value : α) (entries : List (String × α)) :
    (bindKey key value entries).map Prod.fst =
      if key ∈ entries.map Prod.fst then entries.map Prod.fst
      else entries.map Prod.fst ++ [key] := by
  induction entries with
  | nil => simp [bindKey]
  | cons e entries ih =>
    obtain ⟨k, v⟩ := e
    by_cases h : k = key
    · simp [bindKey, h]
    · simp only [bindKey, h, if_false, List.map_cons, ih, List.mem_cons, Ne.symm h, false_or]
      split <;> simp

theorem nodup_bindKey {key : String} {value : α} {entries : List (String × α)}
    (h : (entries.map Prod.fst).Nodup) : ((bindKey key value entries).map Prod.fst).Nodup := by
  rw [map_fst_bindKey]
  split
  · exact h
  · rename_i hk
    rw [List.nodup_append]
    refine ⟨h, by simp, ?_⟩
    intro a ha b hb hab
    rw [List.mem_singleton] at hb
    exact hk (hb ▸ hab ▸ ha)

theorem lookup_pair (k' : String) (v : α) (entries : List (String × α)) (k : String) :
    ((k', v) :: entries).lookup k = if k = k' then some v else entries.lookup k := by
  rw [List.lookup_cons]
  by_cases h : k = k'
  · rw [if_pos h, beq_iff_eq.2 h]
  · rw [if_neg h, beq_eq_false_iff_ne.2 h]

theorem lookup_bindKey (key : String) (value : α) (entries : List (String × α)) (k : String) :
    (bindKey key value entries).lookup k = if k = key then some value else entries.lookup k := by
  induction entries with
  | nil => rw [bindKey, lookup_pair]
  | cons e entries ih =>
    obtain ⟨k', v'⟩ := e
    by_cases h : k' = key
    · subst h
      simp only [bindKey, if_true, lookup_pair]
      split <;> rfl
    · simp only [bindKey, h, if_false, lookup_pair, ih]
      split
      · simp_all
      · rfl

/-- Keys with their values, in the order in which the keys were first bound. -/
structure Record (α : Type) where
  entries : List (String × α)
  nodup : (entries.map Prod.fst).Nodup := by simp
  deriving DecidableEq

namespace Record

variable {α : Type}

theorem ext {r s : Record α} (h : r.entries = s.entries) : r = s := by
  cases r
  cases s
  simp_all

def keys (r : Record α) : List String := r.entries.map Prod.fst

def get? (r : Record α) (key : String) : Option α := r.entries.lookup key

def empty : Record α := { entries := [] }

def insert (r : Record α) (key : String) (value : α) : Record α :=
  ⟨bindKey key value r.entries, nodup_bindKey r.nodup⟩

/-- Binds the keys of a list of pairs one after the other. -/
def ofList (entries : List (String × α)) : Record α :=
  entries.foldl (fun r e => r.insert e.1 e.2) empty

instance [Repr α] : Repr (Record α) := ⟨fun r n => reprPrec r.entries n⟩

theorem nodup_keys (r : Record α) : r.keys.Nodup := r.nodup

@[simp] theorem get?_empty (key : String) : (empty : Record α).get? key = none := rfl

theorem keys_insert (r : Record α) (key : String) (value : α) :
    (r.insert key value).keys = if key ∈ r.keys then r.keys else r.keys ++ [key] :=
  map_fst_bindKey key value r.entries

theorem get?_insert (r : Record α) (key : String) (value : α) (k : String) :
    (r.insert key value).get? k = if k = key then some value else r.get? k :=
  lookup_bindKey key value r.entries k

end Record

/-- A row of input: column keys with the texts of their cells. -/
abbrev Row := Record String

end SeedScript
