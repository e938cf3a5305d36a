import SeedScript.Proofs.Batch.Errors

/-!
# The fault that is reported

What can be wrong with rows is listed here in the order in which a build meets it: there are no
rows, a key of the seeded table is no lookup, a many-to-many key has the wrong segments or gives
lookups that do, and then, row by row, a row lacks a key. `Batch.fault?` is the first fault of this
list; it is read off the rows and builds nothing. A build fails with this fault and with no other,
and succeeds when there is none (`Batch.ofRows_eq_error_iff`).
-/

namespace SeedScript

/-! ## Faults of keys -/

namespace Delimiters

/-- The fault of a key that has not as many segments as a relation asks for. -/
def formatFault? (d : Delimiters) (kind : RelationKind) (key : String) : Option SeedError :=
  if (d.segments kind key).length = kind.segmentCount then none
  else some (.relationFormat kind key (d.of kind) (d.segments kind key).length)

/-- The fault of a key of the seeded table. -/
def rootFault? (d : Delimiters) (key : String) : Option SeedError :=
  if d.kind key = .oneToMany then d.formatFault? .oneToMany key else none

/-- The fault of a many-to-many key: its own, or else that of the key for the owner or of the key
for the item, which are written from its segments. -/
def junctionFault? (d : Delimiters) (schema table key : String) : Option SeedError :=
  match d.segments .manyToMany key with
  | [joinKey, _, secondTable, secondSearch, firstSearch] =>
    (d.formatFault? .oneToMany (Naming.primaryKey table ++ d.oneToMany ++
        Naming.qualified schema table ++ d.oneToMany ++ firstSearch)).or
      (d.formatFault? .oneToMany
        (joinKey ++ d.oneToMany ++ secondTable ++ d.oneToMany ++ secondSearch))
  | _ => d.formatFault? .manyToMany key

/-- The keys that every row must have, in the order in which they are looked for. -/
def requiredKeys (d : Delimiters) (keys : List String) : List String :=
  d.rootKeys keys ++ (d.junctionKeys keys).flatMap fun key => [key, d.ownerColumn key]

end Delimiters

/-! ## Faults of rows -/

/-- The fault of a row that lacks one of some keys: the first that it lacks. -/
def Row.missing? (row : Row) (index : Nat) (keys : List String) : Option SeedError :=
  (keys.find? fun key => key ∉ row.keys).map (.missingCell index)

/-- The first fault of rows that are to be seeded into `schema.table`. -/
def Batch.fault? (d : Delimiters) (schema table : String) : List Row → Option SeedError
  | [] => some .emptyInput
  | first :: rest =>
    (((d.rootKeys first.keys).findSome? d.rootFault?).or
      ((d.junctionKeys first.keys).findSome? (d.junctionFault? schema table))).or
      ((first :: rest).zipIdx.findSome? fun (row, index) =>
        row.missing? index (d.requiredKeys first.keys))

section Keys

variable {d : Delimiters} {schema table key : String} {keys : List String}

theorem Lookup.failsWith_ofKey : FailsWith (ofKey d key) (d.formatFault? .oneToMany key) := by
  intro e
  rw [ofKey_eq_error_iff, Delimiters.formatFault?, RelationKind.segmentCount, Delimiters.of]
  split <;> simp_all [eq_comm]

theorem Junction.failsWith_ofKey :
    FailsWith (ofKey d schema table key) (d.formatFault? .manyToMany key) := by
  intro e
  rw [ofKey_eq_error_iff, Delimiters.formatFault?, RelationKind.segmentCount, Delimiters.of]
  split <;> simp_all [eq_comm]

theorem RootColumn.failsWith_ofKey : FailsWith (ofKey d key) (d.rootFault? key) := by
  intro e
  rw [ofKey_eq_error_iff, Delimiters.rootFault?, Lookup.failsWith_ofKey e]
  by_cases hkind : d.kind key = .oneToMany
  · rw [if_pos hkind, and_iff_right hkind]
  · rw [if_neg hkind]
    exact iff_of_false (fun h => hkind h.1) nofun

theorem JunctionColumn.failsWith_ofKey :
    FailsWith (ofKey d schema table key) (d.junctionFault? schema table key) := by
  unfold ofKey Delimiters.junctionFault?
  split
  · rename_i hsegments
    rw [Junction.ofKey_of_segments hsegments]
    exact Lookup.failsWith_ofKey.bind fun owner _ => (Lookup.failsWith_ofKey).map _
  · rename_i hne
    rw [← Option.or_none (o := d.formatFault? .manyToMany key)]
    refine Junction.failsWith_ofKey.bind fun j hj => ?_
    obtain ⟨joinKey, hsegments, -⟩ := Junction.ofKey_eq_ok_iff.1 hj
    exact absurd hsegments (hne _ _ _ _ _)

theorem Layout.failsWith_ofKeys :
    FailsWith (ofKeys d schema table keys)
      (((d.rootKeys keys).findSome? d.rootFault?).or
        ((d.junctionKeys keys).findSome? (d.junctionFault? schema table))) :=
  (FailsWith.mapM fun _ _ => RootColumn.failsWith_ofKey).bind fun _ _ =>
    (FailsWith.mapM fun _ _ => JunctionColumn.failsWith_ofKey).map _

end Keys

namespace Row

variable {row : Row} {index : Nat} {key : String}

theorem missing?_append (xs ys : List String) :
    row.missing? index (xs ++ ys) = (row.missing? index xs).or (row.missing? index ys) := by
  unfold missing?
  rw [List.find?_append, Option.map_or]

theorem missing?_flatMap {α : Type} (xs : List α) (f : α → List String) :
    row.missing? index (xs.flatMap f) = xs.findSome? fun x => row.missing? index (f x) := by
  induction xs with
  | nil => rfl
  | cons x xs ih =>
    rw [List.flatMap_cons, missing?_append, ih, findSome?_cons_eq_or]

theorem failsWith_cell : FailsWith (row.cell index key) (row.missing? index [key]) := by
  intro e
  rw [cell_eq_error_iff, missing?, List.find?_singleton]
  by_cases hkey : key ∈ row.keys
  · simp [hkey]
  · simp only [hkey, not_false_eq_true, true_and, decide_true, if_true, Option.map_some,
      Option.some.injEq]
    exact eq_comm

end Row

section Cells

variable {c : Config} {d : Delimiters} {schema table : String} {keys : List String} {row : Row}
  {index : Nat}

theorem JunctionColumn.failsWith_rows {column : JunctionColumn} :
    FailsWith (column.rows c row index)
      (row.missing? index [column.key, column.junction.firstSearchKey]) := by
  rw [show [column.key, column.junction.firstSearchKey] =
    [column.key] ++ [column.junction.firstSearchKey] from rfl, Row.missing?_append]
  exact Row.failsWith_cell.bind fun _ _ => Row.failsWith_cell.map _

theorem Layout.failsWith_expand {layout : Layout}
    (h : ofKeys d schema table keys = .ok layout) :
    FailsWith (layout.expand c row index) (row.missing? index (d.requiredKeys keys)) := by
  have hroot : d.rootKeys keys = layout.root.flatMap fun column => [column.key] := by
    rw [← map_key_root h, List.map_eq_flatMap]
  have hjunctions : ((d.junctionKeys keys).flatMap fun key => [key, d.ownerColumn key]) =
      layout.junctions.flatMap fun column => [column.key, column.junction.firstSearchKey] := by
    rw [← map_key_junctions h, List.flatMap_map]
    refine List.flatMap_congr fun column hcolumn => ?_
    rw [JunctionColumn.ownerColumn_eq (ofKey_of_mem_junctions h hcolumn).2]
  rw [Delimiters.requiredKeys, hroot, hjunctions, Row.missing?_append, Row.missing?_flatMap,
    Row.missing?_flatMap]
  exact (FailsWith.mapM fun _ _ => Row.failsWith_cell.map _).bind fun _ _ =>
    (FailsWith.mapM fun _ _ => JunctionColumn.failsWith_rows).map _

end Cells

/-! ## Faults of rows after faults of keys -/

/-- The fault of the keys of the first row. -/
def Batch.keyFault? (d : Delimiters) (schema table : String) (keys : List String) :
    Option SeedError :=
  ((d.rootKeys keys).findSome? d.rootFault?).or
    ((d.junctionKeys keys).findSome? (d.junctionFault? schema table))

/-- The fault of the first row that lacks one of some keys. Rows are counted from `start`. -/
def Batch.rowFault? (keys : List String) (start : Nat) (rows : List Row) : Option SeedError :=
  (rows.zipIdx start).findSome? fun (row, index) => row.missing? index keys

section Order

variable {d : Delimiters} {schema table : String} {keys : List String} {start : Nat} {e : SeedError}

theorem Row.missing?_eq_none_iff {row : Row} {index : Nat} :
    row.missing? index keys = none ↔ ∀ key ∈ keys, key ∈ row.keys := by
  simp only [missing?, Option.map_eq_none_iff, List.find?_eq_none, decide_eq_true_eq, not_not]

theorem Row.missing?_eq_some {row : Row} {index : Nat} (h : row.missing? index keys = some e) :
    ∃ key, e = .missingCell index key := by
  obtain ⟨key, -, rfl⟩ := Option.map_eq_some_iff.1 h
  exact ⟨key, rfl⟩

theorem Delimiters.formatFault?_eq_some {kind : RelationKind} {key : String}
    (h : d.formatFault? kind key = some e) :
    ∃ found, e = .relationFormat kind key (d.of kind) found := by
  unfold formatFault? at h
  split at h
  · cases h
  · cases h
    exact ⟨_, rfl⟩

namespace Batch

/-- Keys are refused for their format. -/
theorem keyFault?_eq_some (h : keyFault? d schema table keys = some e) :
    ∃ kind key found, e = .relationFormat kind key (d.of kind) found := by
  rcases Option.or_eq_some_iff.1 h with h | ⟨-, h⟩
  · obtain ⟨key, -, h⟩ := List.exists_of_findSome?_eq_some h
    unfold Delimiters.rootFault? at h
    split at h
    · exact ⟨_, _, Delimiters.formatFault?_eq_some h⟩
    · cases h
  · obtain ⟨key, -, h⟩ := List.exists_of_findSome?_eq_some h
    unfold Delimiters.junctionFault? at h
    split at h
    · rcases Option.or_eq_some_iff.1 h with h | ⟨-, h⟩
      · exact ⟨_, _, Delimiters.formatFault?_eq_some h⟩
      · exact ⟨_, _, Delimiters.formatFault?_eq_some h⟩
    · exact ⟨_, _, Delimiters.formatFault?_eq_some h⟩

theorem rowFault?_cons (row : Row) (rows : List Row) :
    rowFault? keys start (row :: rows) =
      (row.missing? start keys).or (rowFault? keys (start + 1) rows) := by
  unfold rowFault?
  rw [List.zipIdx_cons, findSome?_cons_eq_or]

/-- Rows are refused for a cell that they lack. -/
theorem rowFault?_eq_some {rows : List Row} (h : rowFault? keys start rows = some e) :
    ∃ index key, e = .missingCell index key := by
  obtain ⟨⟨row, index⟩, -, h⟩ := List.exists_of_findSome?_eq_some h
  exact ⟨index, Row.missing?_eq_some h⟩

theorem fault?_cons (d : Delimiters) (schema table : String) (first : Row) (rest : List Row) :
    fault? d schema table (first :: rest) =
      (keyFault? d schema table first.keys).or
        (rowFault? (d.requiredKeys first.keys) 0 (first :: rest)) :=
  rfl

end Batch

end Order

theorem Batch.failsWith_ofRows (c : Config) (schema table : String) (rows : List Row) :
    FailsWith (ofRows c schema table rows) (fault? c.delimiters schema table rows) := by
  cases rows with
  | nil =>
    intro e
    simp [ofRows, fault?]
  | cons first rest =>
    exact Layout.failsWith_ofKeys.bind fun layout hlayout =>
      (FailsWith.mapM fun _ _ => Layout.failsWith_expand hlayout).map _

/-- A build fails with an error exactly when this is the first fault of its rows, and succeeds
exactly when they have no fault. -/
theorem Batch.ofRows_eq_error_iff (c : Config) (schema table : String) (rows : List Row) :
    (∀ e, Batch.ofRows c schema table rows = .error e ↔
        Batch.fault? c.delimiters schema table rows = some e) ∧
      ((∃ b, Batch.ofRows c schema table rows = .ok b) ↔
        Batch.fault? c.delimiters schema table rows = none) :=
  ⟨Batch.failsWith_ofRows c schema table rows,
    (Batch.failsWith_ofRows c schema table rows).exists_ok_iff⟩

/-- Columns come before rows, and those of the seeded table before those of junction tables. -/
example : Batch.fault? .standard "" "users"
    [.ofList [("tag_id***user_tags", "a"), ("role_id**roles", "admin")], .ofList []] =
      some (.relationFormat .oneToMany "role_id**roles" "**" 2) := by decide +kernel

end SeedScript
