import DocPress.TypeExpr.Fields
import Mathlib.Data.List.Nodup

/-! # The places of nested fields

A type is passed through once, so each of its nested fields stands at a place of its own.

* `Spread`: fields at different places, all below one place.
* `TypeExpr.spread_fields`: the fields nested in a type are spread below the place of the type.

Two fields below different places that are equally far from the unit stand at different places
(`eq_of_below`), since a place lists the whole way that leads to it. -/

set_option autoImplicit false

namespace DocPress

/-- Fields at different places, all of them below `place`. -/
structure Spread (place : Place) (fields : List FieldEntry) : Prop where
  below : ∀ e ∈ fields, place <:+ e.place
  nodup : (fields.map FieldEntry.place).Nodup

/-- Fields at different places, each below one of the steps from `place` with an index from `index`
on. -/
structure SpreadFrom (step : Nat → Step) (place : Place) (index : Nat) (fields : List FieldEntry) :
    Prop where
  below : ∀ e ∈ fields, ∃ i, index ≤ i ∧ (step i :: place) <:+ e.place
  nodup : (fields.map FieldEntry.place).Nodup

/-- Of two places equally far from the unit only one is on the way to a third. -/
theorem eq_of_below {one other place : Place} (first : one <:+ place) (second : other <:+ place)
    (sameLength : one.length = other.length) : one = other :=
  (List.suffix_of_suffix_length_le first second (Nat.le_of_eq sameLength)).eq_of_length sameLength

namespace Spread

variable {place : Place} {fields : List FieldEntry}

theorem nil : Spread place [] := ⟨by simp, .nil⟩

theorem of_cons {step : Step} (spread : Spread (step :: place) fields) : Spread place fields :=
  ⟨fun e member => (List.suffix_cons step place).trans (spread.below e member), spread.nodup⟩

/-- A field may stand at the place that the others are below. -/
theorem cons {step : Step} {e : FieldEntry} (atPlace : e.place = place)
    (spread : Spread (step :: place) fields) : Spread place (e :: fields) := by
  refine ⟨List.forall_mem_cons.mpr ⟨atPlace ▸ List.suffix_refl _, spread.of_cons.below⟩,
    List.nodup_cons.mpr ⟨fun member => ?_, spread.nodup⟩⟩
  obtain ⟨other, isMember, samePlace⟩ := List.mem_map.mp member
  have longer := (spread.below other isMember).length_le
  rw [samePlace, atPlace, List.length_cons] at longer
  omega

/-- Groups of fields, each below its own step from one place. -/
theorem flatMap {α : Type} {xs : List α} {root : α → Place} {fieldsOf : α → List FieldEntry}
    (roots_nodup : (xs.map root).Nodup) (oneStep : ∀ x ∈ xs, ∃ step, root x = step :: place)
    (spread : ∀ x ∈ xs, Spread (root x) (fieldsOf x)) : Spread place (xs.flatMap fieldsOf) := by
  constructor
  · intro e member
    obtain ⟨x, isMember, inFields⟩ := List.mem_flatMap.mp member
    obtain ⟨step, rootEq⟩ := oneStep x isMember
    exact (List.suffix_cons step place).trans (rootEq ▸ (spread x isMember).below e inFields)
  · rw [List.map_flatMap, List.nodup_flatMap]
    refine ⟨fun x isMember => (spread x isMember).nodup, ?_⟩
    refine (List.pairwise_map.mp roots_nodup).imp_of_mem fun {x y} isFirst isSecond differ => ?_
    intro shared inFirst inSecond
    -- a shared place lies below both roots, which are equally far from the unit
    obtain ⟨e, ofFirst, rfl⟩ := List.mem_map.mp inFirst
    obtain ⟨e', ofSecond, samePlace⟩ := List.mem_map.mp inSecond
    have below := (spread y isSecond).below e' ofSecond
    rw [samePlace] at below
    obtain ⟨step, firstRoot⟩ := oneStep x isFirst
    obtain ⟨step', secondRoot⟩ := oneStep y isSecond
    exact differ (eq_of_below ((spread x isFirst).below e ofFirst) below
      (by rw [firstRoot, secondRoot, List.length_cons, List.length_cons]))

end Spread

namespace SpreadFrom

variable {step : Nat → Step} {place : Place} {index : Nat} {fields rest : List FieldEntry}

theorem nil : SpreadFrom step place index [] := ⟨by simp, .nil⟩

theorem spread (from_ : SpreadFrom step place index fields) : Spread place fields := by
  refine ⟨fun e member => ?_, from_.nodup⟩
  obtain ⟨i, -, below⟩ := from_.below e member
  exact (List.suffix_cons _ _).trans below

theorem append (injective : Function.Injective step)
    (first : Spread (step index :: place) fields)
    (others : SpreadFrom step place (index + 1) rest) :
    SpreadFrom step place index (fields ++ rest) := by
  constructor
  · intro e member
    rcases List.mem_append.mp member with inFirst | inRest
    · exact ⟨index, Nat.le_refl _, first.below e inFirst⟩
    · obtain ⟨i, later, below⟩ := others.below e inRest
      exact ⟨i, by omega, below⟩
  · rw [List.map_append]
    refine first.nodup.append others.nodup fun shared inFirst inRest => ?_
    obtain ⟨e, isFirst, rfl⟩ := List.mem_map.mp inFirst
    obtain ⟨e', isOther, samePlace⟩ := List.mem_map.mp inRest
    obtain ⟨i, later, below⟩ := others.below e' isOther
    rw [samePlace] at below
    have sameStep := eq_of_below (first.below e isFirst) below rfl
    have sameIndex := injective (List.cons.inj sameStep).1
    omega

end SpreadFrom

theorem Step.part_injective : Function.Injective Step.part := fun _ _ equal => Step.part.inj equal

theorem Step.child_injective : Function.Injective Step.child := fun _ _ equal =>
  Step.child.inj equal

mutual
theorem TypeExpr.spread_fields : ∀ (t : TypeExpr) (place : Place) (path : String) (depth : Nat),
    Spread place (t.fields place path depth)
  | .union members, place, path, depth => by
    rw [TypeExpr.fields]
    exact (TypeExpr.spread_fieldsOfParts members place path depth 0).spread
  | .array element, place, path, depth => by
    rw [TypeExpr.fields]
    exact (TypeExpr.spread_fields element _ _ _).of_cons
  | .reference ref, place, path, depth => by
    rw [TypeExpr.fields]
    exact Reference.spread_fields ref place path depth
  | .object fields, place, path, depth => by
    rw [TypeExpr.fields]
    exact (Declaration.spread_fieldsOf fields place path depth 0).spread
  | .primitive _, _, _, _ | .literal _, _, _, _ | .template _ _, _, _, _ | .tuple _, _, _, _
  | .callable _ _, _, _, _ | .other _, _, _, _ => by
    rw [TypeExpr.fields]
    exact .nil

theorem Reference.spread_fields : ∀ (ref : Reference) (place : Place) (path : String)
    (depth : Nat), Spread place (ref.fields place path depth)
  | ⟨name, package, qualifiedName, arguments, target⟩, place, path, depth => by
    rw [Reference.fields]
    split
    · exact (TypeExpr.spread_fieldsOfDictionary arguments place path depth 0).spread
    · exact (TypeExpr.spread_fieldsOfParts arguments place path depth 0).spread

theorem TypeExpr.spread_fieldsOfParts : ∀ (ts : List TypeExpr) (place : Place) (path : String)
    (depth index : Nat),
    SpreadFrom .part place index (TypeExpr.fieldsOfParts place path depth index ts)
  | [], _, _, _, _ => by
    rw [TypeExpr.fieldsOfParts]
    exact .nil
  | t :: ts, place, path, depth, index => by
    rw [TypeExpr.fieldsOfParts]
    exact .append Step.part_injective (TypeExpr.spread_fields t _ _ _)
      (TypeExpr.spread_fieldsOfParts ts place path depth (index + 1))

theorem TypeExpr.spread_fieldsOfDictionary : ∀ (ts : List TypeExpr) (place : Place)
    (path : String) (depth index : Nat),
    SpreadFrom .part place index (TypeExpr.fieldsOfDictionary place path depth index ts)
  | [], _, _, _, _ => by
    rw [TypeExpr.fieldsOfDictionary]
    exact .nil
  | [t], place, path, depth, index => by
    rw [TypeExpr.fieldsOfDictionary, ← List.append_nil (t.fields _ _ _)]
    exact .append Step.part_injective (TypeExpr.spread_fields t _ _ _) .nil
  | t :: t' :: ts, place, path, depth, index => by
    rw [TypeExpr.fieldsOfDictionary]
    · exact .append Step.part_injective (TypeExpr.spread_fields t _ _ _)
        (TypeExpr.spread_fieldsOfDictionary (t' :: ts) place path depth (index + 1))
    · exact List.cons_ne_nil _ _

theorem Declaration.spread_fieldsOf : ∀ (ds : List Declaration) (place : Place) (path : String)
    (depth index : Nat),
    SpreadFrom .child place index (Declaration.fieldsOf place path depth index ds)
  | [], _, _, _, _ => by
    rw [Declaration.fieldsOf]
    exact .nil
  | d :: ds, place, path, depth, index => by
    rw [Declaration.fieldsOf]
    refine .append Step.child_injective ?_
      (Declaration.spread_fieldsOf ds place path depth (index + 1))
    split
    · exact .nil
    · -- the entry of `d` stands at its own place, the fields in it one step further
      obtain ⟨step, nested⟩ := Declaration.spread_nestedFields d (.child index :: place)
        (path ++ "." ++ d.name.display) (depth + 1)
      exact .cons rfl nested

theorem Declaration.spread_nestedFields : ∀ (d : Declaration) (place : Place) (path : String)
    (depth : Nat), ∃ step, Spread (step :: place) (d.nestedFields place path depth)
  | ⟨_, kind, _, _, type, _, getter, _, _, _⟩, place, path, depth => by
    unfold Declaration.nestedFields
    split
    · exact ⟨.type, TypeExpr.spread_fieldsOfOptional type _ path depth⟩
    · split
      · rename_i result _
        exact ⟨.getter, TypeExpr.spread_fieldsOfOptional result _ path depth⟩
      · exact ⟨.getter, .nil⟩
    · exact ⟨.type, .nil⟩

theorem TypeExpr.spread_fieldsOfOptional : ∀ (t : Option TypeExpr) (place : Place)
    (path : String) (depth : Nat),
    Spread place (TypeExpr.fieldsOfOptional place path depth t)
  | none, _, _, _ => by
    rw [TypeExpr.fieldsOfOptional]
    exact .nil
  | some t, place, path, depth => by
    rw [TypeExpr.fieldsOfOptional]
    exact TypeExpr.spread_fields t place path depth
end

end DocPress
