import SeedScript.Error

/-!
# Results with warnings

A result comes with the warnings that were given on the way to it, and an error keeps the warnings
given before it.
-/

namespace SeedScript

/-- A cell text that is written as an SQL expression. -/
structure Warning where
  table : String
  column : String
  text : String
  deriving DecidableEq, Repr

/-- A result, or an error, with the warnings given before it. -/
structure Logged (α : Type) where
  warnings : List Warning
  result : Except SeedError α

namespace Logged

variable {α β : Type}

/-- Goes on with a result; an error stops what follows. -/
def andThen (x : Logged α) (f : α → Logged β) : Logged β :=
  match x.result with
  | .error e => ⟨x.warnings, .error e⟩
  | .ok a => ⟨x.warnings ++ (f a).warnings, (f a).result⟩

instance : Monad Logged where
  pure a := ⟨[], .ok a⟩
  bind := andThen

/-- An error without warnings. -/
def fail (e : SeedError) : Logged α := ⟨[], .error e⟩

/-- A result with one warning. -/
def warn (w : Warning) (a : α) : Logged α := ⟨[w], .ok a⟩

/-- A result without warnings. -/
def ofExcept (r : Except SeedError α) : Logged α := ⟨[], r⟩

theorem ext {x y : Logged α} (hw : x.warnings = y.warnings) (hr : x.result = y.result) :
    x = y := by
  cases x
  cases y
  simp_all

@[simp] theorem result_pure (a : α) : (pure a : Logged α).result = .ok a := rfl

theorem bind_eq (x : Logged α) (f : α → Logged β) : x >>= f = x.andThen f := rfl

instance : LawfulMonad Logged := LawfulMonad.mk' Logged
  (fun x => by
    obtain ⟨ws, r⟩ := x
    cases r <;> simp [Functor.map, andThen])
  (fun _ _ => by apply ext <;> simp [bind, pure, andThen])
  (fun x f g => by
    obtain ⟨ws, r⟩ := x
    cases r with
    | error e => rfl
    | ok a => cases h : (f a).result <;> simp [bind, andThen, h])

end Logged

end SeedScript
