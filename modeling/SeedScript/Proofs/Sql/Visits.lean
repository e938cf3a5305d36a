import Mathlib.Data.List.TakeWhile
import SeedScript.Proofs.Literals
import SeedScript.Proofs.Sql.Inserts

/-!
# The cells that are visited

Writing a batch visits cells statement by statement, row by row and in the order of the columns; a
key that is listed twice is visited twice, and one that is not listed is not visited. `Logged.Walks`
says what a computation owes to such visits: it fails with the fault of the first visit that has
one, and it has given the warnings of the visits before. Steps put together walk along their visits
put together, so what is known of one cell holds of every batch, built from rows or not
(`SqlStyle.batch_visits`).
-/

namespace SeedScript

variable {α β ν : Type}

/-! ## Walking along visits -/

/-- A computation goes along visits up to the first that has a fault. It fails with this fault, and
its warnings are those of the visits before. -/
structure Logged.Walks (fault? : ν → Option SeedError) (warning? : ν → Option Warning)
    (x : Logged α) (visits : List ν) : Prop where
  fails : FailsWith x.result (visits.findSome? fault?)
  warnings_eq : x.warnings =
    (visits.takeWhile fun v => (fault? v).isNone).filterMap warning?

theorem takeWhile_of_fault {fault? : ν → Option SeedError} {before after : List ν} {v : ν}
    {e : SeedError} (hbefore : ∀ u ∈ before, fault? u = none) (hv : fault? v = some e) :
    ((before ++ v :: after).takeWhile fun v => (fault? v).isNone) = before := by
  have hstop : ¬ (fault? v).isNone = true := by
    rw [hv]
    exact Bool.false_ne_true
  rw [List.takeWhile_append_of_pos fun u hu => Option.isNone_iff_eq_none.2 (hbefore u hu),
    List.takeWhile_cons, if_neg hstop, List.append_nil]

namespace Logged

theorem warnings_bind_of_error {x : Logged α} {e : SeedError} (h : x.result = .error e)
    (f : α → Logged β) : (x >>= f).warnings = x.warnings := by
  rw [bind_eq, andThen, h]

theorem warnings_bind_of_ok {x : Logged α} {a : α} (h : x.result = .ok a) (f : α → Logged β) :
    (x >>= f).warnings = x.warnings ++ (f a).warnings := by
  rw [bind_eq, andThen, h]

namespace Walks

variable {fault? : ν → Option SeedError} {warning? : ν → Option Warning} {x : Logged α}
  {visits : List ν}

theorem pure (a : α) : Walks fault? warning? (Pure.pure a : Logged α) [] := ⟨.ok a, rfl⟩

/-- One visit has its own fault or its own warning. -/
theorem single {v : ν} (hfails : FailsWith x.result (fault? v))
    (hwarnings : x.warnings = (warning? v).toList)
    (hnone : ∀ e, fault? v = some e → warning? v = none) : Walks fault? warning? x [v] where
  fails := by
    rw [List.findSome?_singleton]
    exact hfails
  warnings_eq := by
    rw [hwarnings, List.takeWhile_cons]
    cases hv : fault? v with
    | none =>
      show _ = List.filterMap warning? [v]
      rw [List.filterMap_cons, List.filterMap_nil]
      cases warning? v <;> rfl
    | some e =>
      rw [hnone e hv]
      rfl

/-- A second computation is only begun after all visits of the first. -/
theorem bind {f : α → Logged β} {next : List ν} (h : Walks fault? warning? x visits)
    (hf : ∀ a, Walks fault? warning? (f a) next) :
    Walks fault? warning? (x >>= f) (visits ++ next) where
  fails := by
    rw [result_bind, List.findSome?_append]
    exact h.fails.bind fun a _ => (hf a).fails
  warnings_eq := by
    cases hx : x.result with
    | error e =>
      -- the faulty visit stands in the first part, so nothing of the second is taken
      obtain ⟨before, v, after, rfl, hv, hbefore⟩ :=
        List.findSome?_eq_some_iff.1 ((h.fails e).1 hx)
      rw [warnings_bind_of_error hx, h.warnings_eq, List.append_assoc, List.cons_append,
        takeWhile_of_fault hbefore hv, takeWhile_of_fault hbefore hv]
    | ok a =>
      have hnone := List.findSome?_eq_none_iff.1 (h.fails.exists_ok_iff.1 ⟨a, hx⟩)
      have hpass : ∀ v ∈ visits, (fault? v).isNone = true := fun v hv =>
        Option.isNone_iff_eq_none.2 (hnone v hv)
      rw [warnings_bind_of_ok hx, h.warnings_eq, (hf a).warnings_eq,
        List.takeWhile_append_of_pos hpass, List.filterMap_append,
        List.takeWhile_eq_self_iff.2 hpass]

theorem map (h : Walks fault? warning? x visits) (f : α → β) :
    Walks fault? warning? (x >>= fun a => Pure.pure (f a)) visits := by
  rw [← List.append_nil visits]
  exact h.bind fun a => pure (f a)

/-- A traversal walks along the visits of its elements, one after the other. -/
theorem mapM {f : β → Logged α} {visitsOf : β → List ν} {xs : List β}
    (h : ∀ x ∈ xs, Walks fault? warning? (f x) (visitsOf x)) :
    Walks fault? warning? (xs.mapM f) (xs.flatMap visitsOf) := by
  induction xs with
  | nil => exact pure []
  | cons x xs ih =>
    have htail := ih fun y hy => h y (List.mem_cons_of_mem x hy)
    rw [List.mapM_cons, List.flatMap_cons]
    exact (h x List.mem_cons_self).bind fun a => htail.map _

end Walks

end Logged

/-! ## Visits of a batch -/

/-- The visit of a cell: where it is looked for, and the cell if it is there. -/
structure Visit where
  /-- The table as it stands in SQL. -/
  table : String
  /-- The number of the row in its statement. -/
  index : Nat
  column : String
  cell? : Option Cell
  deriving DecidableEq, Repr

/-- The visits of a statement, row by row and in the order of its columns. -/
def Statement.visits (s : Statement) : List Visit :=
  s.rows.zipIdx.flatMap fun (record, index) =>
    s.columns.map fun key =>
      ⟨Naming.qualified s.schema s.table, index, key, record.get? key⟩

/-- The visits of a batch, statement by statement. -/
def Batch.visits (b : Batch) : List Visit := b.statements.flatMap Statement.visits

namespace SqlStyle

variable {style : SqlStyle}

/-- The fault of a visit: the row has no such cell, or the cell is to be hashed and there is no hash
function. -/
def visitFault? (style : SqlStyle) (v : Visit) : Option SeedError :=
  match v.cell? with
  | some cell => style.cellFault? v.column cell
  | none => some (.missingCell v.index v.column)

/-- The warning of a visit: a literal that is no null token is written as it is, unquoted. -/
def warning? (style : SqlStyle) (v : Visit) : Option Warning :=
  match v.cell? with
  | some (.literal text) =>
    if ¬ Literal.isNullToken text ∧ style.cellText (.literal text) = text then
      some ⟨v.table, v.column, text⟩
    else none
  | _ => none

/-- A cell is written with the warning of its visit, if it has one. -/
theorem warnings_column (table key : String) (record : Record Cell) (index : Nat) :
    (style.column table record index key).warnings =
      (style.warning? ⟨table, index, key, record.get? key⟩).toList := by
  unfold column warning?
  dsimp only
  cases record.get? key with
  | none => rfl
  | some cell =>
    unfold SqlStyle.cell
    cases cell with
    | null => rfl
    | subquery sql => rfl
    | hashed text => cases style.hash? <;> rfl
    | literal text =>
      dsimp only [cellText]
      simp only [LiteralMode.literal_eq_self_iff]
      split <;> rfl

theorem warning?_of_visitFault? {v : Visit} {e : SeedError} (h : style.visitFault? v = some e) :
    style.warning? v = none := by
  unfold visitFault? at h
  unfold warning?
  cases hcell : v.cell? with
  | none => rfl
  | some cell =>
    rw [hcell] at h
    cases cell with
    | literal text => cases h
    | null => rfl
    | subquery sql => rfl
    | hashed text => rfl

theorem warning?_of_strict (hmode : style.mode = .strict) (v : Visit) :
    style.warning? v = none := by
  unfold warning?
  split
  · rw [if_neg]
    intro h
    have hcompat := (LiteralMode.literal_eq_self_iff.1 h).1
    rw [hmode] at hcompat
    cases hcompat
  · rfl

theorem walks_column (table key : String) (record : Record Cell) (index : Nat) :
    (style.column table record index key).Walks style.visitFault? style.warning?
      [⟨table, index, key, record.get? key⟩] :=
  .single (failsWith_column table key record index) (warnings_column table key record index)
    fun _ => warning?_of_visitFault?

theorem walks_statement (style : SqlStyle) (s : Statement) :
    (style.statement s).Walks style.visitFault? style.warning? s.visits := by
  unfold statement Statement.visits
  refine (Logged.Walks.mapM fun p _ => ?_).map _
  obtain ⟨record, index⟩ := p
  dsimp only
  rw [List.map_eq_flatMap]
  exact (Logged.Walks.mapM fun key _ => walks_column _ key record index).map tuple

theorem walks_batch (style : SqlStyle) (b : Batch) :
    (style.batch b).Walks style.visitFault? style.warning? b.visits :=
  (Logged.Walks.mapM fun s _ => walks_statement style s).map _

/-! ## The fault of a batch -/

theorem findSome?_visits (style : SqlStyle) (s : Statement) :
    s.visits.findSome? style.visitFault? = style.statementFault? s := by
  unfold Statement.visits statementFault?
  rw [findSome?_flatMap]
  refine findSome?_congr fun p _ => ?_
  rw [List.findSome?_map]
  rfl

theorem failsWith_batch (b : Batch) :
    FailsWith (style.batch b).result (b.statements.findSome? style.statementFault?) := by
  have hfails := (walks_batch style b).fails
  rw [Batch.visits, findSome?_flatMap] at hfails
  rwa [findSome?_congr fun s _ => findSome?_visits style s] at hfails

/-- Writing a batch fails exactly when a cell that is visited is absent or to be hashed without a
hash function, with the fault of the first such cell. Up to this cell each literal that is written
as it is and is no null token is warned of, in the order of the visits, and nothing else is. In
strict mode there are no warnings. -/
theorem batch_visits (style : SqlStyle) (b : Batch) :
    (∀ e, (style.batch b).result = .error e ↔
      ∃ before v after, b.visits = before ++ v :: after ∧
        (∀ u ∈ before, style.visitFault? u = none) ∧ style.visitFault? v = some e) ∧
    (style.batch b).warnings =
      (b.visits.takeWhile fun v => (style.visitFault? v).isNone).filterMap style.warning? ∧
    (style.mode = .strict → (style.batch b).warnings = []) := by
  have hwalks := walks_batch style b
  refine ⟨fun e => ?_, hwalks.warnings_eq, fun hmode => ?_⟩
  · rw [hwalks.fails e, List.findSome?_eq_some_iff]
    constructor
    · rintro ⟨before, v, after, hvisits, hv, hbefore⟩
      exact ⟨before, v, after, hvisits, hbefore, hv⟩
    · rintro ⟨before, v, after, hvisits, hbefore, hv⟩
      exact ⟨before, v, after, hvisits, hv, hbefore⟩
  · rw [hwalks.warnings_eq, List.filterMap_eq_nil_iff]
    exact fun v _ => warning?_of_strict hmode v

end SqlStyle

/-- Statements that no rows are built into: a column is listed twice, a key is not listed, and the
last row lacks a column. -/
def strayBatch : Batch where
  statements :=
    [{ schema := "auth", table := "users", columns := ["at", "name", "at"],
       rows := [.ofList [("note", .literal "f()"), ("at", .literal "NOW()"),
         ("name", .literal "ann")]] },
     { schema := "", table := "logs", columns := ["by", "at#"],
       rows := [.ofList [("by", .literal "NULL"), ("at#", .null)],
         .ofList [("by", .literal "me()"), ("at", .literal "x()")],
         .ofList [("by", .literal "you()"), ("at#", .hashed "x")]] }]

theorem SqlStyle.batch_visits_strayBatch :
    (SqlStyle.batch ⟨.standard, .compat, none⟩ strayBatch).result =
        .error (.missingCell 1 "at#") ∧
      (SqlStyle.batch ⟨.standard, .compat, none⟩ strayBatch).warnings =
        [⟨"auth.users", "at", "NOW()"⟩, ⟨"auth.users", "at", "NOW()"⟩, ⟨"logs", "by", "me()"⟩] ∧
      (SqlStyle.batch ⟨.standard, .strict, none⟩ strayBatch).warnings = [] := by
  obtain ⟨hfails, hwarnings, -⟩ := SqlStyle.batch_visits ⟨.standard, .compat, none⟩ strayBatch
  refine ⟨(hfails _).2 ⟨strayBatch.visits.take 6, ⟨"logs", 1, "at#", none⟩,
    strayBatch.visits.drop 7, by decide +kernel, by decide +kernel, by decide +kernel⟩, ?_, ?_⟩
  · rw [hwarnings]
    decide +kernel
  · exact (SqlStyle.batch_visits ⟨.standard, .strict, none⟩ strayBatch).2.2 rfl

end SeedScript
