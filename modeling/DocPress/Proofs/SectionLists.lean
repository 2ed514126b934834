import DocPress.Proofs.NestedFields
import DocPress.Section.ClassGroups
import DocPress.Section.Groups

/-! # Lists of sections

Fields, variables, members, interfaces and getters are all passed over in the same way: each gives
some sections, and those of all of them are put one after another. What such a pass gives can be
taken apart into blocks, one for each item (`Compile.exists_blocks_of_concat`). -/

set_option autoImplicit false

namespace DocPress

namespace Compile

variable {α β : Type}

/-- What a computation gives for each of some items, put one after another. -/
def concat (f : α → Compile (List β)) : List α → Compile (List β)
  | [] => pure []
  | x :: xs => do
    let first ← f x
    let rest ← concat f xs
    return first ++ rest

/-- Whether a computation gives a result from some registry. -/
def CanGive (c : Compile α) (a : α) : Prop :=
  ∃ registry final, c.run registry = (.ok a, final)

theorem canGive_lift_iff {x : Except Fault α} {a : α} :
    CanGive (liftM x : Compile α) a ↔ x = .ok a := by
  constructor
  · rintro ⟨registry, final, succeeds⟩
    rw [run_lift, Prod.mk.injEq] at succeeds
    exact succeeds.1
  · rintro rfl
    exact ⟨Anchors.empty, Anchors.empty, rfl⟩

theorem CanGive.of_fresh {c : Compile α} {a : α} (built : (c.run Anchors.empty).1 = .ok a) :
    CanGive c a := ⟨Anchors.empty, (c.run Anchors.empty).2, Prod.ext built rfl⟩

theorem CanGive.exists_of_bind {c : Compile α} {f : α → Compile β} {b : β}
    (gives : CanGive (c >>= f) b) : ∃ a, CanGive c a ∧ CanGive (f a) b := by
  obtain ⟨registry, final, succeeds⟩ := gives
  obtain ⟨a, between, first, rest⟩ := exists_of_run_bind succeeds
  exact ⟨a, ⟨registry, between, first⟩, ⟨between, final, rest⟩⟩

theorem CanGive.exists_of_lift_bind {x : Except Fault α} {f : α → Compile β} {b : β}
    (gives : CanGive (liftM x >>= f : Compile β) b) : ∃ a, x = .ok a ∧ CanGive (f a) b := by
  obtain ⟨a, first, rest⟩ := gives.exists_of_bind
  exact ⟨a, canGive_lift_iff.mp first, rest⟩

theorem canGive_pure_iff {a b : α} : CanGive (pure a : Compile α) b ↔ a = b := by
  refine canGive_lift_iff (x := .ok a) |>.trans ⟨Except.ok.inj, congrArg _⟩

/-- There is one block for each item, which the computation can give for it. -/
theorem exists_blocks_of_concat {f : α → Compile (List β)} {xs : List α} {results : List β}
    (gives : CanGive (concat f xs) results) :
    ∃ blocks, results = blocks.flatten ∧
      List.Forall₂ (fun x block => CanGive (f x) block) xs blocks := by
  induction xs generalizing results with
  | nil =>
    cases canGive_pure_iff.mp gives
    exact ⟨[], rfl, .nil⟩
  | cons x xs inductionHypothesis =>
    obtain ⟨first, ofFirst, gives⟩ := gives.exists_of_bind
    obtain ⟨rest, ofRest, gives⟩ := gives.exists_of_bind
    cases canGive_pure_iff.mp gives
    obtain ⟨blocks, rfl, compiled⟩ := inductionHypothesis ofRest
    exact ⟨first :: blocks, rfl, .cons ofFirst compiled⟩

/-- Each result belongs to what the computation can give for one of the items. -/
theorem exists_of_mem_concat {f : α → Compile (List β)} {xs : List α} {results : List β}
    (gives : CanGive (concat f xs) results) {b : β} (member : b ∈ results) :
    ∃ x ∈ xs, ∃ block, CanGive (f x) block ∧ b ∈ block := by
  obtain ⟨blocks, rfl, compiled⟩ := exists_blocks_of_concat gives
  obtain ⟨block, isBlock, inBlock⟩ := List.mem_flatten.mp member
  obtain ⟨i, bound, rfl⟩ := List.getElem_of_mem isBlock
  have inItems : i < xs.length := compiled.length_eq ▸ bound
  exact ⟨xs[i], List.getElem_mem inItems, blocks[i], compiled.get inItems bound, inBlock⟩

end Compile

namespace Section

open Compile (concat)

variable (unit : DocUnit)

theorem ofFields_eq_concat (es : List FieldEntry) :
    ofFields unit es = concat (ofField unit) es := by
  induction es with
  | nil => rfl
  | cons e es inductionHypothesis => rw [ofFields, inductionHypothesis, concat]

theorem ofVariables_eq_concat (vs : List (Place × Declaration)) :
    ofVariables unit vs = concat (fun v => ofVariable unit v.1 v.2) vs := by
  induction vs with
  | nil => rfl
  | cons v vs inductionHypothesis => rw [ofVariables, inductionHypothesis, concat]

theorem ofMembers_eq_concat (ms : List (Place × Declaration)) :
    ofMembers unit ms = concat (fun m => ofMember unit m.1 m.2) ms := by
  induction ms with
  | nil => rfl
  | cons m ms inductionHypothesis => rw [ofMembers, inductionHypothesis, concat]

/-- The sections of one interface, which is shown as one object or by its members. -/
def ofShownInterface (asObjects : Bool) (i : Place × Declaration) : Compile (List Section) :=
  if asObjects then ofObjectInterface unit i.1 i.2 else ofInterface unit i.1 i.2

theorem ofInterfaces_eq_concat (asObjects : Bool) (is : List (Place × Declaration)) :
    ofInterfaces unit asObjects is = concat (ofShownInterface unit asObjects) is := by
  induction is with
  | nil => rfl
  | cons i is inductionHypothesis =>
    rw [ofInterfaces, inductionHypothesis, concat]
    cases asObjects <;> rfl

theorem interfaceGroup_eq_concat (accepts : Declaration → Bool) (asObjects : Bool) :
    interfaceGroup unit accepts asObjects =
      concat (ofShownInterface unit asObjects) (shownInterfaces unit accepts) :=
  ofInterfaces_eq_concat unit asObjects _

theorem ofGetters_eq_concat (gs : List (Place × Declaration × CallSignature)) :
    ofGetters unit gs = concat (fun g => ofGetter unit g.1 g.2.1 g.2.2) gs := by
  induction gs with
  | nil => rfl
  | cons g gs inductionHypothesis => rw [ofGetters, inductionHypothesis, concat]

end Section

end DocPress
