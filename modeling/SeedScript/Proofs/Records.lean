import Mathlib.Data.List.Induction
import Mathlib.Data.List.Nodup
import SeedScript.Record

/-!
# Records built from pairs

Pairs with distinct keys are kept as they are (`Record.entries_ofList`). Of pairs with one key the
place of the first and the value of the last stay (`Record.keys_ofList_eq_eraseDups`,
`Record.get?_ofList_of_last`).
-/

namespace SeedScript

variable {α : Type}

theorem bindKey_of_not_mem {key : String} {value : α} {entries : List (String × α)}
    (h : key ∉ entries.map Prod.fst) : bindKey key value entries = entries ++ [(key, value)] := by
  induction entries with
  | nil => rfl
  | cons e entries ih =>
    rw [List.map_cons, List.mem_cons, not_or] at h
    rw [bindKey, if_neg (Ne.symm h.1), ih h.2]
    rfl

theorem lookup_isSome_iff {entries : List (String × α)} {key : String} :
    (entries.lookup key).isSome ↔ key ∈ entries.map Prod.fst := by
  induction entries with
  | nil => simp
  | cons e entries ih =>
    rw [lookup_pair, List.map_cons, List.mem_cons]
    by_cases h : key = e.1
    · rw [if_pos h]
      simp [h]
    · rw [if_neg h, ih]
      simp [h]

theorem lookup_map_of_mem {β : Type} {xs : List β} {key : β → String} {value : β → α}
    (h : (xs.map key).Nodup) {x : β} (hx : x ∈ xs) :
    (xs.map fun x => (key x, value x)).lookup (key x) = some (value x) := by
  induction xs with
  | nil => simp at hx
  | cons y ys ih =>
    rw [List.map_cons, List.nodup_cons] at h
    rw [List.map_cons, lookup_pair]
    rcases List.mem_cons.1 hx with rfl | hx
    · exact if_pos rfl
    · have hne : key x ≠ key y := fun he => h.1 (he ▸ List.mem_map_of_mem hx)
      rw [if_neg hne, ih h.2 hx]

namespace Record

/-! ## Keys -/

theorem isSome_get?_iff {r : Record α} {key : String} : (r.get? key).isSome ↔ key ∈ r.keys :=
  lookup_isSome_iff

/-! ## Pairs with distinct keys -/

theorem entries_foldl_insert {entries : List (String × α)} {r : Record α}
    (h : (r.keys ++ entries.map Prod.fst).Nodup) :
    (entries.foldl (fun r e => r.insert e.1 e.2) r).entries = r.entries ++ entries := by
  induction entries generalizing r with
  | nil => simp
  | cons e entries ih =>
    rw [List.map_cons, List.append_cons] at h
    have hnew : e.1 ∉ r.keys := fun he =>
      (List.nodup_append.1 (List.nodup_append.1 h).1).2.2 e.1 he e.1 List.mem_cons_self rfl
    have hentries : (r.insert e.1 e.2).entries = r.entries ++ [e] := bindKey_of_not_mem hnew
    have hkeys : (r.insert e.1 e.2).keys = r.keys ++ [e.1] := by
      rw [keys, hentries, List.map_append]
      rfl
    rw [List.foldl_cons, ih (by rwa [hkeys]), hentries, List.append_cons r.entries e entries]

theorem entries_ofList {entries : List (String × α)} (h : (entries.map Prod.fst).Nodup) :
    (ofList entries).entries = entries :=
  entries_foldl_insert (r := empty) h

theorem keys_ofList {entries : List (String × α)} (h : (entries.map Prod.fst).Nodup) :
    (ofList entries).keys = entries.map Prod.fst := by
  rw [keys, entries_ofList h]

theorem get?_ofList_map {β : Type} {xs : List β} {key : β → String} {value : β → α}
    (h : (xs.map key).Nodup) {x : β} (hx : x ∈ xs) :
    (ofList (xs.map fun x => (key x, value x))).get? (key x) = some (value x) := by
  have hfst : ((xs.map fun x => (key x, value x)).map Prod.fst) = xs.map key := by
    rw [List.map_map]
    rfl
  rw [get?, entries_ofList (hfst ▸ h), lookup_map_of_mem h hx]

/-! ## Pairs in any order -/

theorem ofList_concat (entries : List (String × α)) (key : String) (value : α) :
    ofList (entries ++ [(key, value)]) = (ofList entries).insert key value := by
  rw [ofList, List.foldl_append]
  rfl

/-- Of the keys of a list of pairs each is kept where it comes first. -/
theorem keys_ofList_eq_eraseDups (entries : List (String × α)) :
    (ofList entries).keys = (entries.map Prod.fst).eraseDups := by
  induction entries using List.reverseRecOn with
  | nil => rfl
  | append_singleton entries e ih =>
    obtain ⟨key, value⟩ := e
    rw [ofList_concat, keys_insert, ih, List.map_append, List.eraseDups_append]
    by_cases hkey : key ∈ entries.map Prod.fst
    · rw [if_pos (List.mem_eraseDups.2 hkey)]
      simp [List.removeAll, hkey]
    · rw [if_neg fun h => hkey (List.mem_eraseDups.1 h)]
      simp [List.removeAll, hkey, List.eraseDups_cons]

/-- The value of a key is that of its last pair. -/
theorem get?_ofList_of_last (before : List (String × α)) {key : String} (value : α)
    {after : List (String × α)} (h : ∀ e ∈ after, e.1 ≠ key) :
    (ofList (before ++ (key, value) :: after)).get? key = some value := by
  induction after using List.reverseRecOn with
  | nil => rw [ofList_concat, get?_insert, if_pos rfl]
  | append_singleton after e ih =>
    have hne : key ≠ e.1 := (h e (List.mem_append_right _ List.mem_cons_self)).symm
    rw [← List.cons_append, ← List.append_assoc, ofList_concat, get?_insert, if_neg hne]
    exact ih fun e he => h e (List.mem_append_left _ he)

/-! ## Two pairs -/

/-- Two pairs are kept, unless they have one key: then only the second is. -/
theorem entries_ofList_pair (k l : String) (v w : α) :
    (ofList [(k, v), (l, w)]).entries = if k = l then [(l, w)] else [(k, v), (l, w)] := by
  simp only [ofList, List.foldl_cons, List.foldl_nil, insert, empty, bindKey]

theorem get?_ofList_pair (k l key : String) (v w : α) :
    (ofList [(k, v), (l, w)]).get? key =
      if key = l then some w else if key = k then some v else none := by
  simp only [ofList, List.foldl_cons, List.foldl_nil, get?_insert, get?_empty]

end Record

end SeedScript
