import Mathlib.Data.List.Forall2
import SeedScript.Logged

/-!
# Traversals that may fail

A list mapped through a function that may fail is a list of results exactly when every element has
one (`mapM_eq_ok_iff`). `FailsWith` describes a computation by its fault, if it has one; steps that
are put together have the fault that comes first (`FailsWith.bind`, `FailsWith.mapM`). Warnings play
no part in this: the result of a logged traversal is the traversal of the results
(`Logged.result_mapM`).
-/

namespace SeedScript

variable {ε α β : Type}

/-! ## Results and errors -/

theorem bind_eq_ok_iff {x : Except ε α} {f : α → Except ε β} {b : β} :
    x >>= f = .ok b ↔ ∃ a, x = .ok a ∧ f a = .ok b := by
  cases x with
  | error e => simp [bind, Except.bind]
  | ok a => simp [bind, Except.bind]

theorem bind_eq_error_iff {x : Except ε α} {f : α → Except ε β} {e : ε} :
    x >>= f = .error e ↔ x = .error e ∨ ∃ a, x = .ok a ∧ f a = .error e := by
  cases x with
  | error e => simp [bind, Except.bind]
  | ok a => simp [bind, Except.bind]

theorem exists_eq_ok_of_isOk {x : Except ε α} (h : x.isOk = true) : ∃ a, x = .ok a := by
  cases x with
  | error e => cases h
  | ok a => exact ⟨a, rfl⟩

theorem exists_eq_ok_of_map {x : Except ε α} {p : α → Prop} [DecidablePred p]
    (h : x.map (fun a => decide (p a)) = .ok true) : ∃ a, x = .ok a ∧ p a := by
  cases x with
  | error e => cases h
  | ok a => exact ⟨a, rfl, of_decide_eq_true (Except.ok.inj h)⟩

theorem toOption_eq_some_iff {x : Except ε α} {a : α} : x.toOption = some a ↔ x = .ok a := by
  cases x <;> simp [Except.toOption]

theorem toOption_map (x : Except ε α) (f : α → β) : (x.map f).toOption = x.toOption.map f := by
  cases x <;> rfl

theorem map_eq_ok_iff {x : Except ε α} {f : α → β} {b : β} :
    x.map f = .ok b ↔ ∃ a, x = .ok a ∧ f a = b := by
  cases x with
  | error e => simp [Except.map]
  | ok a => simp [Except.map]

theorem map_eq_error_iff {x : Except ε α} {f : α → β} {e : ε} :
    x.map f = .error e ↔ x = .error e := by
  cases x with
  | error e => simp [Except.map]
  | ok a => simp [Except.map]

/-- A traversal succeeds when each of its steps does, with the results in the same order. -/
theorem mapM_eq_ok_iff {f : α → Except ε β} {xs : List α} {ys : List β} :
    xs.mapM f = .ok ys ↔ List.Forall₂ (fun x y => f x = .ok y) xs ys := by
  induction xs generalizing ys with
  | nil => simp [pure, Except.pure, eq_comm]
  | cons x xs ih =>
    rw [List.mapM_cons, bind_eq_ok_iff, List.forall₂_cons_left_iff]
    constructor
    · rintro ⟨y, hy, h⟩
      obtain ⟨zs, hzs, h⟩ := bind_eq_ok_iff.1 h
      cases h
      exact ⟨y, zs, hy, ih.1 hzs, rfl⟩
    · rintro ⟨y, zs, hy, hzs, rfl⟩
      exact ⟨y, hy, bind_eq_ok_iff.2 ⟨zs, ih.2 hzs, rfl⟩⟩

/-- A traversal fails with the error of its first step that fails. -/
theorem mapM_eq_error_iff {f : α → Except ε β} {xs : List α} {e : ε} :
    xs.mapM f = .error e ↔
      ∃ before x after, xs = before ++ x :: after ∧ (∀ y ∈ before, ∃ b, f y = .ok b) ∧
        f x = .error e := by
  induction xs with
  | nil => simp [pure, Except.pure]
  | cons x xs ih =>
    rw [List.mapM_cons, bind_eq_error_iff]
    constructor
    · rintro (h | ⟨b, hb, h⟩)
      · exact ⟨[], x, xs, rfl, by simp, h⟩
      · rcases bind_eq_error_iff.1 h with h | ⟨bs, _, h⟩
        · obtain ⟨before, y, after, rfl, hbefore, hy⟩ := ih.1 h
          refine ⟨x :: before, y, after, rfl, fun z hz => ?_, hy⟩
          rcases List.mem_cons.1 hz with rfl | hz
          · exact ⟨b, hb⟩
          · exact hbefore z hz
        · cases h
    · rintro ⟨before, y, after, heq, hbefore, hy⟩
      cases before with
      | nil =>
        obtain ⟨rfl, rfl⟩ := List.cons_eq_cons.1 heq
        exact .inl hy
      | cons z before =>
        obtain ⟨rfl, rfl⟩ := List.cons_eq_cons.1 heq
        obtain ⟨b, hb⟩ := hbefore x List.mem_cons_self
        have htail := ih.2 ⟨before, y, after, rfl, fun w hw =>
          hbefore w (List.mem_cons_of_mem x hw), hy⟩
        exact .inr ⟨b, hb, bind_eq_error_iff.2 (.inl htail)⟩

/-- A traversal whose steps succeed under `p` with the values of `g` is a check followed by a
map. -/
theorem mapM_eq_ok_iff_map {f : α → Except ε β} {p : α → Prop} {g : α → β}
    (h : ∀ x y, f x = .ok y ↔ p x ∧ y = g x) {xs : List α} {ys : List β} :
    xs.mapM f = .ok ys ↔ (∀ x ∈ xs, p x) ∧ ys = xs.map g := by
  rw [mapM_eq_ok_iff]
  simp only [h, List.forall₂_and_left]
  refine and_congr_right fun _ => ?_
  rw [eq_comm, ← List.forall₂_eq_eq_eq, List.forall₂_map_left_iff]
  simp only [eq_comm]

/-- The same for a traversal that is told the place of each element and does not look at it. -/
theorem mapM_zipIdx_eq_ok_iff_map {f : α → Nat → Except ε β} {p : α → Prop} {g : α → β}
    (h : ∀ x k y, f x k = .ok y ↔ p x ∧ y = g x) {xs : List α} {ys : List β} :
    (xs.zipIdx.mapM fun x => f x.1 x.2) = .ok ys ↔ (∀ x ∈ xs, p x) ∧ ys = xs.map g := by
  rw [mapM_eq_ok_iff_map (p := fun x => p x.1) (g := fun x => g x.1) fun x y => h x.1 x.2 y]
  have hmap : xs.zipIdx.map (fun x => g x.1) = xs.map g := by
    calc xs.zipIdx.map (fun x => g x.1) = (xs.zipIdx.map Prod.fst).map g := by
          rw [List.map_map]; rfl
      _ = xs.map g := by rw [List.zipIdx_map_fst]
  have hall : (∀ x ∈ xs.zipIdx, p x.1) ↔ ∀ x ∈ xs, p x := by
    conv_rhs => rw [← List.zipIdx_map_fst 0 xs]
    simp only [List.mem_map, forall_exists_index, and_imp, forall_apply_eq_imp_iff₂]
  rw [hmap, hall]

/-- A traversal that is told the place of each element fails with the first error too. -/
theorem mapM_zipIdx_eq_error_iff {f : α → Nat → Except ε β} {xs : List α} {e : ε} :
    (xs.zipIdx.mapM fun x => f x.1 x.2) = .error e ↔
      ∃ before x after, xs = before ++ x :: after ∧
        (∀ y ∈ before.zipIdx, ∃ b, f y.1 y.2 = .ok b) ∧ f x before.length = .error e := by
  rw [mapM_eq_error_iff]
  constructor
  · rintro ⟨before, x, after, hsplit, hbefore, hx⟩
    obtain ⟨front, back, rfl, rfl, hback⟩ := List.zipIdx_eq_append_iff.1 hsplit
    obtain ⟨a, as, rfl, rfl, -⟩ := List.zipIdx_eq_cons_iff.1 hback.symm
    rw [Nat.zero_add] at hx
    exact ⟨front, a, as, rfl, hbefore, hx⟩
  · rintro ⟨before, x, after, rfl, hbefore, hx⟩
    refine ⟨before.zipIdx, (x, before.length), after.zipIdx (before.length + 1), ?_, hbefore, hx⟩
    rw [List.zipIdx_append, List.zipIdx_cons, Nat.zero_add]

/-! ## Traversals that agree -/

section Agree

variable {m : Type → Type} [Monad m] [LawfulMonad m]

theorem mapM_congr {f g : α → m β} {xs : List α} (h : ∀ x ∈ xs, f x = g x) :
    xs.mapM f = xs.mapM g := by
  induction xs with
  | nil => rfl
  | cons x xs ih =>
    rw [List.mapM_cons, List.mapM_cons, h x List.mem_cons_self,
      ih fun y hy => h y (List.mem_cons_of_mem x hy)]

/-- Lists whose elements are treated alike, each in its place, are traversed alike. -/
theorem mapM_zipIdx_congr {f : α → Nat → m β} {xs ys : List α}
    (h : List.Forall₂ (fun x y => ∀ k, f x k = f y k) xs ys) (start : Nat) :
    ((xs.zipIdx start).mapM fun x => f x.1 x.2) = (ys.zipIdx start).mapM fun y => f y.1 y.2 := by
  induction h generalizing start with
  | nil => rfl
  | cons hxy _ ih =>
    rw [List.zipIdx_cons, List.zipIdx_cons, List.mapM_cons, List.mapM_cons, hxy, ih]

end Agree

/-! ## The first value of a list -/

theorem findSome?_congr {f g : α → Option β} {xs : List α} (h : ∀ x ∈ xs, f x = g x) :
    xs.findSome? f = xs.findSome? g := by
  induction xs with
  | nil => rfl
  | cons x xs ih =>
    rw [List.findSome?_cons, List.findSome?_cons, h x List.mem_cons_self,
      ih fun y hy => h y (List.mem_cons_of_mem x hy)]

theorem findSome?_cons_eq_or (f : α → Option β) (x : α) (xs : List α) :
    (x :: xs).findSome? f = (f x).or (xs.findSome? f) := by
  rw [List.findSome?_cons]
  cases f x <;> rfl

theorem findSome?_filter_of_none {p : α → Bool} {f : α → Option β} {xs : List α}
    (h : ∀ x ∈ xs, p x = false → f x = none) : (xs.filter p).findSome? f = xs.findSome? f := by
  induction xs with
  | nil => rfl
  | cons x xs ih =>
    have htail := ih fun y hy => h y (List.mem_cons_of_mem x hy)
    rw [List.filter_cons, List.findSome?_cons]
    split
    · rw [List.findSome?_cons, htail]
    · rename_i hp
      rw [h x List.mem_cons_self (Bool.not_eq_true _ ▸ hp), htail]

theorem findSome?_flatMap {γ : Type} (f : β → Option γ) (g : α → List β) (xs : List α) :
    (xs.flatMap g).findSome? f = xs.findSome? fun x => (g x).findSome? f := by
  induction xs with
  | nil => rfl
  | cons x xs ih =>
    rw [List.flatMap_cons, List.findSome?_append, findSome?_cons_eq_or, ih]

/-- Where all elements have one value, it is that of the list. -/
theorem findSome?_eq_of_forall {f : α → Option β} {xs : List α} {o : Option β} (hne : xs ≠ [])
    (h : ∀ x ∈ xs, f x = o) : xs.findSome? f = o := by
  cases o with
  | none => exact List.findSome?_eq_none_iff.2 h
  | some b =>
    obtain ⟨x, xs, rfl⟩ := List.exists_cons_of_ne_nil hne
    rw [List.findSome?_cons, h x List.mem_cons_self]

/-! ## The first fault -/

/-- A computation fails with this fault, and succeeds if there is none. -/
def FailsWith (x : Except ε α) (fault? : Option ε) : Prop := ∀ e, x = .error e ↔ fault? = some e

/-- The fault of a computation that has been run. -/
def faultOf? : Except ε α → Option ε
  | .error e => some e
  | .ok _ => none

namespace FailsWith

variable {x : Except ε α} {fault? : Option ε}

theorem ok (a : α) : FailsWith (.ok a : Except ε α) none := by
  intro e
  simp

theorem error (e : ε) : FailsWith (.error e : Except ε α) (some e) := by
  intro e'
  simp

theorem exists_ok_iff (h : FailsWith x fault?) : (∃ a, x = .ok a) ↔ fault? = none := by
  cases x with
  | error e =>
    rw [(h e).1 rfl]
    simp
  | ok a =>
    refine iff_of_true ⟨a, rfl⟩ (Option.eq_none_iff_forall_ne_some.2 fun e he => ?_)
    cases (h e).2 he

theorem map (h : FailsWith x fault?) (f : α → β) : FailsWith (x.map f) fault? := by
  intro e
  rw [← h e]
  cases x <;> simp [Except.map]

theorem faultOf? (x : Except ε α) : FailsWith x (faultOf? x) := by
  intro e
  cases x <;> simp [SeedScript.faultOf?]

theorem mapError {ε' : Type} (h : FailsWith x fault?) (f : ε → ε') :
    FailsWith (x.mapError f) (fault?.map f) := by
  intro e'
  cases x with
  | error e =>
    rw [(h e).1 rfl]
    simp [Except.mapError]
  | ok a =>
    rw [h.exists_ok_iff.1 ⟨a, rfl⟩]
    simp [Except.mapError]

/-- A sequence has the fault of its first step, or else that of the second. -/
theorem bind {f : α → Except ε β} {next? : Option ε} (h : FailsWith x fault?)
    (hf : ∀ a, x = .ok a → FailsWith (f a) next?) : FailsWith (x >>= f) (fault?.or next?) := by
  intro e
  rw [bind_eq_error_iff, Option.or_eq_some_iff, h e, ← h.exists_ok_iff]
  refine or_congr_right ⟨?_, ?_⟩
  · rintro ⟨a, ha, hfa⟩
    exact ⟨⟨a, ha⟩, (hf a ha e).1 hfa⟩
  · rintro ⟨⟨a, ha⟩, hnext⟩
    exact ⟨a, ha, (hf a ha e).2 hnext⟩

/-- A traversal has the fault of the first element that has one. -/
theorem mapM {f : α → Except ε β} {fault? : α → Option ε} {xs : List α}
    (h : ∀ x ∈ xs, FailsWith (f x) (fault? x)) :
    FailsWith (xs.mapM f) (xs.findSome? fault?) := by
  induction xs with
  | nil => exact .ok []
  | cons x xs ih =>
    have htail := ih fun y hy => h y (List.mem_cons_of_mem x hy)
    rw [List.mapM_cons, findSome?_cons_eq_or, ← Option.or_none (o := xs.findSome? fault?)]
    exact (h x List.mem_cons_self).bind fun b _ => htail.bind fun bs _ => .ok (b :: bs)

end FailsWith

/-! ## Errors of one kind -/

/-- Every error of the computation has a property. -/
def FailsOnly (p : ε → Prop) (x : Except ε α) : Prop := ∀ e, x = .error e → p e

namespace FailsOnly

variable {p : ε → Prop} {x : Except ε α}

theorem ok (a : α) : FailsOnly p (.ok a : Except ε α) := by
  intro e h
  cases h

theorem error {e : ε} (h : p e) : FailsOnly p (.error e : Except ε α) := by
  rintro e' ⟨⟩
  exact h

theorem of_faultOf? {e : ε} (h : FailsOnly p x) (he : faultOf? x = some e) : p e :=
  h e ((FailsWith.faultOf? x e).2 he)

theorem map (h : FailsOnly p x) (f : α → β) : FailsOnly p (x.map f) := by
  cases x with
  | error e => exact error (h e rfl)
  | ok a => exact ok (f a)

theorem bind {f : α → Except ε β} (h : FailsOnly p x) (hf : ∀ a, FailsOnly p (f a)) :
    FailsOnly p (x >>= f) := by
  intro e he
  rcases bind_eq_error_iff.1 he with hx | ⟨a, -, ha⟩
  · exact h e hx
  · exact hf a e ha

theorem mapM {f : α → Except ε β} (h : ∀ a, FailsOnly p (f a)) (xs : List α) :
    FailsOnly p (xs.mapM f) := by
  intro e he
  obtain ⟨before, x, after, -, -, hx⟩ := mapM_eq_error_iff.1 he
  exact h x e hx

end FailsOnly

/-! ## Lists that correspond -/

theorem exists_of_forall₂_of_mem {R : α → β → Prop} {xs : List α} {ys : List β}
    (h : List.Forall₂ R xs ys) {y : β} (hy : y ∈ ys) : ∃ x ∈ xs, R x y := by
  induction h with
  | nil => simp at hy
  | @cons x z xs ys hxz _ ih =>
    rcases List.mem_cons.1 hy with rfl | hy
    · exact ⟨x, List.mem_cons_self, hxz⟩
    · obtain ⟨x', hx', hR⟩ := ih hy
      exact ⟨x', List.mem_cons_of_mem x hx', hR⟩

theorem forall₂_map_self {R : α → β → Prop} {f : α → β} {xs : List α}
    (h : ∀ x ∈ xs, R x (f x)) : List.Forall₂ R xs (xs.map f) :=
  List.forall₂_map_right_iff.2 (List.forall₂_same.2 h)

theorem forall₂_eq_iff_map_eq {γ : Type} {f : α → γ} {g : β → γ} {xs : List α} {ys : List β} :
    List.Forall₂ (fun x y => f x = g y) xs ys ↔ xs.map f = ys.map g := by
  rw [← List.forall₂_eq_eq_eq, List.forall₂_map_left_iff, List.forall₂_map_right_iff]

/-- Where the related element can be read off, the second list tells the first. -/
theorem map_eq_of_forall₂ {R : α → β → Prop} {g : β → α} {xs : List α} {ys : List β}
    (h : List.Forall₂ R xs ys) (hg : ∀ x y, R x y → g y = x) : ys.map g = xs := by
  rw [eq_comm, ← List.forall₂_eq_eq_eq, List.forall₂_map_right_iff]
  exact h.imp fun x y hxy => (hg x y hxy).symm

/-! ## Results with warnings -/

namespace Logged

@[simp] theorem result_fail (e : SeedError) : (fail e : Logged α).result = .error e := rfl

@[simp] theorem result_warn (w : Warning) (a : α) : (warn w a).result = .ok a := rfl

@[simp] theorem result_ofExcept (r : Except SeedError α) : (ofExcept r).result = r := rfl

@[simp] theorem result_bind (x : Logged α) (f : α → Logged β) :
    (x >>= f).result = x.result >>= fun a => (f a).result := by
  obtain ⟨ws, r⟩ := x
  cases r <;> rfl

theorem result_mapM (f : α → Logged β) (xs : List α) :
    (xs.mapM f).result = xs.mapM fun x => (f x).result := by
  induction xs with
  | nil => rfl
  | cons x xs ih => simp only [List.mapM_cons, result_bind, ih, result_pure]; rfl

end Logged

end SeedScript
