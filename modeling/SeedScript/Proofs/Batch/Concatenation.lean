import SeedScript.Proofs.Batch.FirstFault

/-!
# Rows seeded in two parts

Rows may be seeded at once or in two parts whose first rows have the same keys. The statements of
the whole are those of the parts, put together one by one. Faults come in order as well: the first
part is refused for the same reason alone and in the whole, and the second for the same cell, whose
row is counted from the start of the whole (`Batch.ofRows_append`).
-/

namespace SeedScript

/-- The error of a row that stands after `n` others. -/
def SeedError.shift (n : Nat) : SeedError → SeedError
  | .missingCell row column => .missingCell (n + row) column
  | e => e

/-- Both insert into the same table, under the same columns. -/
def Statement.SameHead (s t : Statement) : Prop :=
  s.schema = t.schema ∧ s.table = t.table ∧ s.columns = t.columns

/-- A statement with the rows of another after its own. -/
def Statement.append (s t : Statement) : Statement := { s with rows := s.rows ++ t.rows }

/-- The statements of two batches put together one by one. -/
def Batch.append (x y : Batch) : Batch := ⟨List.zipWith Statement.append x.statements y.statements⟩

/-! ## Faults -/

theorem Row.missing?_shift (n index : Nat) (row : Row) (keys : List String) :
    row.missing? (n + index) keys = (row.missing? index keys).map (SeedError.shift n) := by
  unfold missing?
  rw [Option.map_map]
  rfl

namespace Batch

variable {d : Delimiters} {schema table : String} {keys : List String} {e : SeedError}

theorem rowFault?_append (start : Nat) (xs ys : List Row) :
    rowFault? keys start (xs ++ ys) =
      (rowFault? keys start xs).or (rowFault? keys (start + xs.length) ys) := by
  unfold rowFault?
  rw [List.zipIdx_append, List.findSome?_append]

theorem rowFault?_shift (keys : List String) (n start : Nat) (rows : List Row) :
    rowFault? keys (n + start) rows = (rowFault? keys start rows).map (SeedError.shift n) := by
  induction rows generalizing start with
  | nil => rfl
  | cons row rows ih =>
    rw [rowFault?_cons, rowFault?_cons, Nat.add_assoc, ih, Row.missing?_shift, Option.map_or]

variable {a b : Row} {as bs : List Row}

/-- The first part has its fault before the second can have one. -/
theorem fault?_append_of_left (h : fault? d schema table (a :: as) = some e) :
    fault? d schema table (a :: as ++ b :: bs) = some e := by
  rw [fault?_cons] at h
  rw [List.cons_append, fault?_cons, ← List.cons_append, rowFault?_append, ← Option.or_assoc, h]
  rfl

/-- After a first part without faults, the second is refused for a row that lacks a cell. -/
theorem fault?_append_of_right (hkeys : b.keys = a.keys)
    (ha : fault? d schema table (a :: as) = none) (hb : fault? d schema table (b :: bs) = some e) :
    ∃ row column, e = .missingCell row column ∧
      fault? d schema table (a :: as ++ b :: bs) =
        some (.missingCell ((a :: as).length + row) column) := by
  rw [fault?_cons, Option.or_eq_none_iff] at ha
  rw [fault?_cons, hkeys, ha.1, Option.none_or] at hb
  obtain ⟨row, column, rfl⟩ := rowFault?_eq_some hb
  have hshift := rowFault?_shift (d.requiredKeys a.keys) (a :: as).length 0 (b :: bs)
  rw [Nat.add_zero, hb] at hshift
  refine ⟨row, column, rfl, ?_⟩
  rw [List.cons_append, fault?_cons, ← List.cons_append, rowFault?_append, ha.1, ha.2, Nat.zero_add,
    Option.none_or, Option.none_or, hshift]
  rfl

end Batch

/-! ## Statements -/

variable {c : Config} {schema table : String}

theorem Layout.rootStatement_append (layout : Layout) (xs ys : List Row) :
    layout.rootStatement c schema table (xs ++ ys) =
      (layout.rootStatement c schema table xs).append (layout.rootStatement c schema table ys) := by
  unfold rootStatement Statement.append
  rw [List.map_append]

theorem JunctionColumn.statementOf_append (column : JunctionColumn) (xs ys : List Row) :
    column.statementOf c (xs ++ ys) =
      (column.statementOf c xs).append (column.statementOf c ys) := by
  unfold statementOf Statement.append
  rw [List.flatMap_append]

/-- Rows whose first row has the same keys are laid out alike, so their statements correspond. -/
theorem Batch.ofRows_append_of_ok {a b : Row} {as bs : List Row} (hkeys : b.keys = a.keys)
    {x y : Batch} (hx : ofRows c schema table (a :: as) = .ok x)
    (hy : ofRows c schema table (b :: bs) = .ok y) :
    List.Forall₂ Statement.SameHead x.statements y.statements ∧
      ofRows c schema table (a :: as ++ b :: bs) = .ok (x.append y) := by
  obtain ⟨_, _, layout, ha, hlayout, hcovers, hstatements⟩ := Batch.ofRows_eq_ok_iff.1 hx
  obtain ⟨_, _, layout', hb, hlayout', hcovers', hstatements'⟩ := Batch.ofRows_eq_ok_iff.1 hy
  obtain ⟨rfl, rfl⟩ := List.cons_eq_cons.1 ha
  obtain ⟨rfl, rfl⟩ := List.cons_eq_cons.1 hb
  rw [hkeys, hlayout, Except.ok.injEq] at hlayout'
  subst hlayout'
  rw [hstatements, hstatements']
  constructor
  · refine .cons ⟨rfl, rfl, rfl⟩ ?_
    rw [List.forall₂_map_left_iff, List.forall₂_map_right_iff]
    exact List.forall₂_same.2 fun column _ => ⟨rfl, rfl, rfl⟩
  · refine Batch.ofRows_eq_ok_iff.2 ⟨a, as ++ b :: bs, layout, rfl, hlayout, fun row hrow => ?_, ?_⟩
    · rcases List.mem_append.1 hrow with hrow | hrow
      · exact hcovers row hrow
      · exact hcovers' row hrow
    · have hjunctions : layout.junctions.map (JunctionColumn.statementOf c (a :: as ++ b :: bs)) =
          List.zipWith Statement.append
            (layout.junctions.map (JunctionColumn.statementOf c (a :: as)))
            (layout.junctions.map (JunctionColumn.statementOf c (b :: bs))) := by
        rw [List.zipWith_map, List.zipWith_self]
        exact List.map_congr_left fun column _ => column.statementOf_append _ _
      rw [append, hstatements, hstatements', List.zipWith_cons_cons, Layout.rootStatement_append,
        hjunctions]

/-! ## Parts and the whole -/

/-- Rows in two parts: the whole fails with the error of the first part; or else with that of the
second, which is about a missing cell of a row, with the rows of the first part counted in; or else
its statements are those of the parts, put together. -/
theorem Batch.ofRows_append (c : Config) (schema table : String) {a b : Row} (as bs : List Row)
    (hkeys : b.keys = a.keys) :
    (∀ e, ofRows c schema table (a :: as) = .error e →
      ofRows c schema table (a :: as ++ b :: bs) = .error e) ∧
    (∀ x e, ofRows c schema table (a :: as) = .ok x → ofRows c schema table (b :: bs) = .error e →
      ∃ row column, e = .missingCell row column ∧
        ofRows c schema table (a :: as ++ b :: bs) =
          .error (.missingCell ((a :: as).length + row) column)) ∧
    ∀ x y, ofRows c schema table (a :: as) = .ok x → ofRows c schema table (b :: bs) = .ok y →
      List.Forall₂ Statement.SameHead x.statements y.statements ∧
        ofRows c schema table (a :: as ++ b :: bs) = .ok (x.append y) := by
  have hfails := failsWith_ofRows c schema table
  refine ⟨fun e ha => ?_, fun x e ha hb => ?_, fun x y => ofRows_append_of_ok hkeys⟩
  · exact (hfails _ e).2 (fault?_append_of_left ((hfails _ e).1 ha))
  · have hnone := (hfails _).exists_ok_iff.1 ⟨x, ha⟩
    obtain ⟨row, column, he, hwhole⟩ := fault?_append_of_right hkeys hnone ((hfails _ e).1 hb)
    exact ⟨row, column, he, (hfails _ _).2 hwhole⟩

/-- A product with two tags. -/
def laptopRow : Row :=
  .ofList [("name", "Laptop"), ("tag_id***product_tags***tags***tag_name***name", "a|b")]

/-- A product with one tag. -/
def phoneRow : Row :=
  .ofList [("name", "Phone"), ("tag_id***product_tags***tags***tag_name***name", "a")]

/-- A product without the name that it is looked up by. -/
def namelessRow : Row := .ofList [("tag_id***product_tags***tags***tag_name***name", "c")]

/-- A laptop before two other products. The nameless one is refused as the second row of its part
and the third of the whole, and at once when it stands in the first part. -/
theorem Batch.ofRows_append_laptop :
    phoneRow.keys = laptopRow.keys ∧
      (∃ x y, ofRows .standard "" "products" [laptopRow] = .ok x ∧
        ofRows .standard "" "products" [phoneRow, laptopRow] = .ok y ∧
        List.Forall₂ Statement.SameHead x.statements y.statements ∧
        ofRows .standard "" "products" [laptopRow, phoneRow, laptopRow] = .ok (x.append y)) ∧
      ofRows .standard "" "products" [laptopRow, phoneRow, namelessRow] =
        .error (.missingCell 2 "name") ∧
      ofRows .standard "" "products" [laptopRow, namelessRow, phoneRow] =
        .error (.missingCell 1 "name") := by
  have hkeys : phoneRow.keys = laptopRow.keys := by decide +kernel
  obtain ⟨x, hx⟩ := exists_eq_ok_of_isOk (x := ofRows .standard "" "products" [laptopRow])
    (by decide +kernel)
  obtain ⟨y, hy⟩ := exists_eq_ok_of_isOk (x := ofRows .standard "" "products" [phoneRow, laptopRow])
    (by decide +kernel)
  have hphone : ofRows .standard "" "products" [phoneRow, namelessRow] =
      .error (.missingCell 1 "name") := by decide +kernel
  have hlaptop : ofRows .standard "" "products" [laptopRow, namelessRow] =
      .error (.missingCell 1 "name") := by decide +kernel
  refine ⟨hkeys, ⟨x, y, hx, hy, ?_⟩, ?_, ?_⟩
  · exact (Batch.ofRows_append .standard "" "products" [] [laptopRow] hkeys).2.2 x y hx hy
  · obtain ⟨row, column, he, hwhole⟩ := (Batch.ofRows_append .standard "" "products" []
      [namelessRow] hkeys).2.1 x _ hx hphone
    cases he
    exact hwhole
  · exact (Batch.ofRows_append .standard "" "products" [namelessRow] [] hkeys).1 _ hlaptop

end SeedScript
