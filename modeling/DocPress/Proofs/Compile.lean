import DocPress.Proofs.Anchors
import DocPress.Section.Parts
import Mathlib.Data.List.Forall2

/-! # Runs of what builds sections

How a computation that succeeds is taken apart: one that may fail (`exists_of_bind_eq_ok`), and one
that also gives out anchors (`Compile.exists_of_run_bind`). -/

set_option autoImplicit false

namespace DocPress

theorem exists_of_bind_eq_ok {ε α β : Type} {x : Except ε α} {f : α → Except ε β} {b : β}
    (succeeds : (x >>= f) = .ok b) : ∃ a, x = .ok a ∧ f a = .ok b := by
  cases x with
  | error fault => contradiction
  | ok a => exact ⟨a, rfl, succeeds⟩

theorem exists_of_map_eq_ok {ε α β : Type} {x : Except ε α} {f : α → β} {b : β}
    (succeeds : x.map f = .ok b) : ∃ a, x = .ok a ∧ f a = b := by
  cases x with
  | error fault => contradiction
  | ok a => exact ⟨a, rfl, Except.ok.inj succeeds⟩

theorem eq_ok_of_toOption_eq_some {ε α : Type} {x : Except ε α} {a : α}
    (succeeds : x.toOption = some a) : x = .ok a := by
  cases x with
  | error fault => contradiction
  | ok b => rw [Option.some.inj succeeds]

theorem forall₂_of_mapM_eq_ok {ε α β : Type} {f : α → Except ε β} {xs : List α} {ys : List β}
    (succeeds : xs.mapM f = .ok ys) : List.Forall₂ (fun x y => f x = .ok y) xs ys := by
  induction xs generalizing ys with
  | nil =>
    cases succeeds
    exact .nil
  | cons x xs inductionHypothesis =>
    rw [List.mapM_cons] at succeeds
    obtain ⟨y, first, succeeds⟩ := exists_of_bind_eq_ok succeeds
    obtain ⟨rest, others, succeeds⟩ := exists_of_bind_eq_ok succeeds
    cases succeeds
    exact .cons first (inductionHypothesis others)

/-- Each result comes from one of the elements. -/
theorem exists_of_mem_of_mapM {ε α β : Type} {f : α → Except ε β} {xs : List α} {ys : List β}
    (succeeds : xs.mapM f = .ok ys) {y : β} (member : y ∈ ys) : ∃ x ∈ xs, f x = .ok y := by
  obtain ⟨i, bound, rfl⟩ := List.getElem_of_mem member
  have related := forall₂_of_mapM_eq_ok succeeds
  have inSource : i < xs.length := related.length_eq ▸ bound
  exact ⟨xs[i], List.getElem_mem inSource, related.get inSource bound⟩

/-- Each element has a result. -/
theorem exists_mem_of_mapM {ε α β : Type} {f : α → Except ε β} {xs : List α} {ys : List β}
    (succeeds : xs.mapM f = .ok ys) {x : α} (member : x ∈ xs) : ∃ y ∈ ys, f x = .ok y := by
  obtain ⟨i, bound, rfl⟩ := List.getElem_of_mem member
  have related := forall₂_of_mapM_eq_ok succeeds
  have inResults : i < ys.length := related.length_eq ▸ bound
  exact ⟨ys[i], List.getElem_mem inResults, related.get bound inResults⟩

namespace Compile

variable {α β : Type}

theorem run_bind (x : Compile α) (f : α → Compile β) (registry : Anchors Place) :
    (x >>= f).run registry = match x.run registry with
      | (.ok a, between) => (f a).run between
      | (.error fault, between) => (.error fault, between) := by
  simp only [ExceptT.run_bind]
  simp only [bind, StateT.bind]
  rcases x.run registry with ⟨_ | a, between⟩ <;> rfl

theorem exists_of_run_bind {x : Compile α} {f : α → Compile β} {registry final : Anchors Place}
    {b : β} (succeeds : (x >>= f).run registry = (.ok b, final)) :
    ∃ a between, x.run registry = (.ok a, between) ∧ (f a).run between = (.ok b, final) := by
  rw [run_bind] at succeeds
  rcases outcome : x.run registry with ⟨_ | a, between⟩
  · rw [outcome] at succeeds
    cases succeeds
  · rw [outcome] at succeeds
    exact ⟨a, between, rfl, succeeds⟩

@[simp] theorem run_pure (a : α) (registry : Anchors Place) :
    (pure a : Compile α).run registry = (.ok a, registry) := rfl

@[simp] theorem run_lift (x : Except Fault α) (registry : Anchors Place) :
    (liftM x : Compile α).run registry = (x, registry) := rfl

/-- What may fail and gives out no anchor leaves the registry as it is. -/
theorem exists_of_run_lift_bind {x : Except Fault α} {f : α → Compile β}
    {registry final : Anchors Place} {b : β}
    (succeeds : (liftM x >>= f : Compile β).run registry = (.ok b, final)) :
    ∃ a, x = .ok a ∧ (f a).run registry = (.ok b, final) := by
  obtain ⟨a, between, lifted, rest⟩ := exists_of_run_bind succeeds
  rw [run_lift, Prod.mk.injEq] at lifted
  obtain ⟨rfl, rfl⟩ := lifted
  exact ⟨a, rfl, rest⟩

theorem run_anchor (place : Place) (path : String) (name : Data) (registry : Anchors Place) :
    (Compile.anchor place path name).run registry =
      (.ok (registry.assign place path name.display).1,
        (registry.assign place path name.display).2) := rfl

end Compile

end DocPress
