import DocPress.Proofs.FieldTree
import DocPress.Proofs.NestedFields

/-! # Nested fields at other places

The same fields are nested in a type wherever the type stands: its place, its path and its depth
come before those of each entry, and change nothing else. So what is nested in a field can be told
from the field alone, and it is what stands below the field in every list that the field is in.

* `FieldEntry.shift`: an entry as it is listed where the type stands elsewhere.
* `TypeExpr.fields_eq_map_shift`: the entries of a type are those that it has by itself, shifted.
* `Forest`: entries of which each is followed by those nested in it.
* `TypeExpr.hasNested_iff_next_deeper`: fields are nested in a field if and only if a deeper entry
  comes next. -/

set_option autoImplicit false

namespace DocPress

/-! ## Shifted entries -/

/-- An entry of a type that stands by itself, as it is listed where the type stands at a place and
has a path and a depth. -/
def FieldEntry.shift (place : Place) (path : String) (depth : Nat) (e : FieldEntry) : FieldEntry :=
  ⟨depth + e.depth, path ++ e.path, e.place ++ place, e.field⟩

theorem TypeExpr.fieldsOfDictionary_cons_cons (place : Place) (path : String) (depth index : Nat)
    (t t' : TypeExpr) (ts : List TypeExpr) :
    TypeExpr.fieldsOfDictionary place path depth index (t :: t' :: ts) =
      t.fields (.part index :: place) path depth ++
        TypeExpr.fieldsOfDictionary place path depth (index + 1) (t' :: ts) := by
  rw [TypeExpr.fieldsOfDictionary]
  exact List.cons_ne_nil _ _

section

variable (place : Place) (path : String) (depth : Nat)

-- The induction needs the law for every way down from the type, not only for the type itself: `p`,
-- `s` and `k` are what the recursion has added to the place, the path and the depth so far.
mutual
theorem TypeExpr.fields_shift : ∀ (t : TypeExpr) (p : Place) (s : String) (k : Nat),
    t.fields (p ++ place) (path ++ s) (depth + k) =
      (t.fields p s k).map (FieldEntry.shift place path depth)
  | .union members, p, s, k => by
    rw [TypeExpr.fields, TypeExpr.fields]
    exact TypeExpr.fieldsOfParts_shift members p s k 0
  | .array element, p, s, k => by
    rw [TypeExpr.fields, TypeExpr.fields, String.append_assoc, ← List.cons_append]
    exact TypeExpr.fields_shift element _ _ k
  | .reference ref, p, s, k => by
    rw [TypeExpr.fields, TypeExpr.fields]
    exact Reference.fields_shift ref p s k
  | .object fields, p, s, k => by
    rw [TypeExpr.fields, TypeExpr.fields]
    exact Declaration.fieldsOf_shift fields p s k 0
  | .primitive _, _, _, _ | .literal _, _, _, _ | .template _ _, _, _, _ | .tuple _, _, _, _
  | .callable _ _, _, _, _ | .other _, _, _, _ => by
    rw [TypeExpr.fields, TypeExpr.fields, List.map_nil]

theorem Reference.fields_shift : ∀ (ref : Reference) (p : Place) (s : String) (k : Nat),
    ref.fields (p ++ place) (path ++ s) (depth + k) =
      (ref.fields p s k).map (FieldEntry.shift place path depth)
  | ⟨name, package, _, arguments, _⟩, p, s, k => by
    rw [Reference.fields, Reference.fields]
    split
    · exact TypeExpr.fieldsOfDictionary_shift arguments p s k 0
    · exact TypeExpr.fieldsOfParts_shift arguments p s k 0

theorem TypeExpr.fieldsOfParts_shift : ∀ (ts : List TypeExpr) (p : Place) (s : String)
    (k index : Nat),
    TypeExpr.fieldsOfParts (p ++ place) (path ++ s) (depth + k) index ts =
      (TypeExpr.fieldsOfParts p s k index ts).map (FieldEntry.shift place path depth)
  | [], _, _, _, _ => by rw [TypeExpr.fieldsOfParts, TypeExpr.fieldsOfParts, List.map_nil]
  | t :: ts, p, s, k, index => by
    rw [TypeExpr.fieldsOfParts, TypeExpr.fieldsOfParts, List.map_append, ← List.cons_append,
      TypeExpr.fields_shift t, TypeExpr.fieldsOfParts_shift ts]

theorem TypeExpr.fieldsOfDictionary_shift : ∀ (ts : List TypeExpr) (p : Place) (s : String)
    (k index : Nat),
    TypeExpr.fieldsOfDictionary (p ++ place) (path ++ s) (depth + k) index ts =
      (TypeExpr.fieldsOfDictionary p s k index ts).map (FieldEntry.shift place path depth)
  | [], _, _, _, _ => by
    rw [TypeExpr.fieldsOfDictionary, TypeExpr.fieldsOfDictionary, List.map_nil]
  | [t], p, s, k, index => by
    rw [TypeExpr.fieldsOfDictionary, TypeExpr.fieldsOfDictionary, String.append_assoc,
      ← List.cons_append]
    exact TypeExpr.fields_shift t _ _ k
  | t :: t' :: ts, p, s, k, index => by
    rw [TypeExpr.fieldsOfDictionary_cons_cons, TypeExpr.fieldsOfDictionary_cons_cons,
      List.map_append, ← List.cons_append, TypeExpr.fields_shift t,
      TypeExpr.fieldsOfDictionary_shift (t' :: ts)]

theorem Declaration.fieldsOf_shift : ∀ (ds : List Declaration) (p : Place) (s : String)
    (k index : Nat),
    Declaration.fieldsOf (p ++ place) (path ++ s) (depth + k) index ds =
      (Declaration.fieldsOf p s k index ds).map (FieldEntry.shift place path depth)
  | [], _, _, _, _ => by rw [Declaration.fieldsOf, Declaration.fieldsOf, List.map_nil]
  | d :: ds, p, s, k, index => by
    rw [Declaration.fieldsOf, Declaration.fieldsOf, List.map_append,
      Declaration.fieldsOf_shift ds]
    refine congrArg (· ++ _) ?_
    split
    · rfl
    · rw [List.map_cons, ← Declaration.nestedFields_shift d, String.append_assoc,
        String.append_assoc, String.append_assoc]
      rfl

theorem Declaration.nestedFields_shift : ∀ (d : Declaration) (p : Place) (s : String) (k : Nat),
    d.nestedFields (p ++ place) (path ++ s) (depth + k) =
      (d.nestedFields p s k).map (FieldEntry.shift place path depth)
  | ⟨_, kind, _, _, type, _, getter, _, _, _⟩, p, s, k => by
    unfold Declaration.nestedFields
    split
    · exact TypeExpr.fieldsOfOptional_shift type (.type :: p) s k
    · split
      · rename_i result _
        exact TypeExpr.fieldsOfOptional_shift result (.getter :: p) s k
      · rfl
    · rfl

theorem TypeExpr.fieldsOfOptional_shift : ∀ (t : Option TypeExpr) (p : Place) (s : String)
    (k : Nat),
    TypeExpr.fieldsOfOptional (p ++ place) (path ++ s) (depth + k) t =
      (TypeExpr.fieldsOfOptional p s k t).map (FieldEntry.shift place path depth)
  | none, _, _, _ => by
    rw [TypeExpr.fieldsOfOptional, TypeExpr.fieldsOfOptional, List.map_nil]
  | some t, p, s, k => by
    rw [TypeExpr.fieldsOfOptional, TypeExpr.fieldsOfOptional, TypeExpr.fields_shift t]
end

/-- The entries of a type are those that it has by itself, shifted. -/
theorem TypeExpr.fieldsOfOptional_eq_map_shift (type : Option TypeExpr) :
    TypeExpr.fieldsOfOptional place path depth type =
      (TypeExpr.fieldsOfOptional [] "" 0 type).map (FieldEntry.shift place path depth) := by
  have shifted := TypeExpr.fieldsOfOptional_shift place path depth type [] "" 0
  rwa [List.nil_append, String.append_empty, Nat.add_zero] at shifted

/-- Whether fields are nested in a field does not depend on where its type is passed through. -/
theorem Declaration.hasNested_iff (d : Declaration) :
    d.hasNested = true ↔ TypeExpr.fieldsOfOptional place path depth d.nestedType? ≠ [] := by
  rw [TypeExpr.fieldsOfOptional_eq_map_shift, Ne, List.map_eq_nil_iff, Declaration.hasNested]
  simp

end

/-- The entries of a type are those that it has by itself, in the same order and for the same
fields: the depth is added to the depth of each, and the path and the place come before its path and
below its place. So fields are nested in a field wherever its type is passed through, or nowhere. -/
theorem TypeExpr.fields_eq_map_shift (place : Place) (path : String) (depth : Nat) :
    (∀ type : Option TypeExpr, TypeExpr.fieldsOfOptional place path depth type =
      (TypeExpr.fieldsOfOptional [] "" 0 type).map fun e =>
        ⟨depth + e.depth, path ++ e.path, e.place ++ place, e.field⟩) ∧
    ∀ d : Declaration,
      d.hasNested = true ↔ TypeExpr.fieldsOfOptional place path depth d.nestedType? ≠ [] :=
  ⟨TypeExpr.fieldsOfOptional_eq_map_shift place path depth,
    Declaration.hasNested_iff place path depth⟩

/-! ## What follows an entry -/

/-- The entries of the fields nested in the field of an entry. -/
def FieldEntry.nested (e : FieldEntry) : List FieldEntry :=
  e.field.nestedFields e.place (e.path ++ "." ++ e.field.name.display) (e.depth + 1)

/-- The type that the fields nested in a property or an accessor are those of. -/
theorem Declaration.exists_nestedFields_eq {d : Declaration}
    (kind : d.kind = .propertyDecl ∨ d.kind = .accessorDecl) (place : Place) (path : String)
    (depth : Nat) : ∃ step, d.nestedFields place path depth =
      TypeExpr.fieldsOfOptional (step :: place) path depth d.nestedType? := by
  obtain ⟨_, _, _, _, type, _, getter, _, _, _⟩ := d
  rcases kind with rfl | rfl
  · refine ⟨.type, ?_⟩
    unfold Declaration.nestedFields
    rfl
  · refine ⟨.getter, ?_⟩
    unfold Declaration.nestedFields
    cases getter with
    | none => rfl
    | some signature => cases signature; rfl

theorem FieldEntry.hasNested_iff {e : FieldEntry}
    (kind : e.field.kind = .propertyDecl ∨ e.field.kind = .accessorDecl) :
    e.field.hasNested = true ↔ e.nested ≠ [] := by
  obtain ⟨step, sameFields⟩ := Declaration.exists_nestedFields_eq kind e.place
    (e.path ++ "." ++ e.field.name.display) (e.depth + 1)
  rw [FieldEntry.nested, sameFields]
  exact Declaration.hasNested_iff _ _ _ _

/-- Entries of which those at a depth are each followed by what is nested in them. -/
inductive Forest : Nat → List FieldEntry → Prop
  | nil {depth : Nat} : Forest depth []
  | tree {e : FieldEntry} {rest : List FieldEntry} (ofNested : Forest (e.depth + 1) e.nested)
      (others : Forest e.depth rest) : Forest e.depth (e :: (e.nested ++ rest))

namespace Forest

variable {depth : Nat} {entries rest : List FieldEntry}

theorem append (first : Forest depth entries) (others : Forest depth rest) :
    Forest depth (entries ++ rest) := by
  induction first with
  | nil => exact others
  | @tree e siblings ofNested _ _ inductionHypothesis =>
    rw [List.cons_append, List.append_assoc]
    exact .tree ofNested (inductionHypothesis others)

theorem depth_le (forest : Forest depth entries) : ∀ e ∈ entries, depth ≤ e.depth := by
  induction forest with
  | nil => simp
  | @tree e siblings _ _ ofNested ofOthers =>
    refine List.forall_mem_cons.mpr ⟨Nat.le_refl _, fun e' member => ?_⟩
    rcases List.mem_append.mp member with isNested | isOther
    · have deeper := ofNested e' isNested
      omega
    · exact ofOthers e' isOther

theorem depth_of_head? (forest : Forest depth entries) {e : FieldEntry}
    (isHead : entries.head? = some e) : e.depth = depth := by
  cases forest with
  | nil => cases isHead
  | tree => cases isHead; rfl

/-- What follows an entry begins with all that is nested in it, and goes on with an entry that is
not deeper. -/
theorem exists_rest (forest : Forest depth entries) :
    ∀ before e after, entries = before ++ e :: after →
      ∃ rest, after = e.nested ++ rest ∧ ∀ next, rest.head? = some next → next.depth ≤ e.depth := by
  induction forest with
  | nil => simp
  | @tree first siblings nested others ofNested ofOthers =>
    intro before e after split
    cases before with
    | nil =>
      cases split
      exact ⟨siblings, rfl, fun next isHead => Nat.le_of_eq (others.depth_of_head? isHead)⟩
    | cons _ before =>
      obtain ⟨rfl, tail⟩ := List.cons.inj split
      rcases List.append_eq_append_iff.mp tail with ⟨front, rfl, isRest⟩ | ⟨back, isNested, isRest⟩
      · exact ofOthers front e after isRest
      · cases back with
        | nil => exact ofOthers [] e after isRest.symm
        | cons _ back =>
          -- `e` is nested in the first entry, whose siblings are less deep
          obtain ⟨rfl, rfl⟩ := List.cons.inj isRest
          obtain ⟨rest, rfl, notDeeper⟩ := ofNested before e back isNested
          refine ⟨rest ++ siblings, List.append_assoc _ _ _, fun next isHead => ?_⟩
          cases rest with
          | nil =>
            have atTop := others.depth_of_head? isHead
            have deeper := nested.depth_le e (by simp [isNested])
            omega
          | cons other rest => exact notDeeper next isHead

end Forest

mutual
theorem TypeExpr.forest_fields : ∀ (t : TypeExpr) (place : Place) (path : String) (depth : Nat),
    Forest depth (t.fields place path depth)
  | .union members, place, path, depth => by
    rw [TypeExpr.fields]
    exact TypeExpr.forest_fieldsOfParts members place path depth 0
  | .array element, place, path, depth => by
    rw [TypeExpr.fields]
    exact TypeExpr.forest_fields element _ _ _
  | .reference ref, place, path, depth => by
    rw [TypeExpr.fields]
    exact Reference.forest_fields ref place path depth
  | .object fields, place, path, depth => by
    rw [TypeExpr.fields]
    exact Declaration.forest_fieldsOf fields place path depth 0
  | .primitive _, _, _, _ | .literal _, _, _, _ | .template _ _, _, _, _ | .tuple _, _, _, _
  | .callable _ _, _, _, _ | .other _, _, _, _ => by
    rw [TypeExpr.fields]
    exact .nil

theorem Reference.forest_fields : ∀ (ref : Reference) (place : Place) (path : String)
    (depth : Nat), Forest depth (ref.fields place path depth)
  | ⟨_, _, _, arguments, _⟩, place, path, depth => by
    rw [Reference.fields]
    split
    · exact TypeExpr.forest_fieldsOfDictionary arguments place path depth 0
    · exact TypeExpr.forest_fieldsOfParts arguments place path depth 0

theorem TypeExpr.forest_fieldsOfParts : ∀ (ts : List TypeExpr) (place : Place) (path : String)
    (depth index : Nat), Forest depth (TypeExpr.fieldsOfParts place path depth index ts)
  | [], _, _, _, _ => by
    rw [TypeExpr.fieldsOfParts]
    exact .nil
  | t :: ts, place, path, depth, index => by
    rw [TypeExpr.fieldsOfParts]
    exact (TypeExpr.forest_fields t _ _ _).append
      (TypeExpr.forest_fieldsOfParts ts place path depth (index + 1))

theorem TypeExpr.forest_fieldsOfDictionary : ∀ (ts : List TypeExpr) (place : Place)
    (path : String) (depth index : Nat),
    Forest depth (TypeExpr.fieldsOfDictionary place path depth index ts)
  | [], _, _, _, _ => by
    rw [TypeExpr.fieldsOfDictionary]
    exact .nil
  | [t], place, path, depth, index => by
    rw [TypeExpr.fieldsOfDictionary]
    exact TypeExpr.forest_fields t _ _ _
  | t :: t' :: ts, place, path, depth, index => by
    rw [TypeExpr.fieldsOfDictionary_cons_cons]
    exact (TypeExpr.forest_fields t _ _ _).append
      (TypeExpr.forest_fieldsOfDictionary (t' :: ts) place path depth (index + 1))

theorem Declaration.forest_fieldsOf : ∀ (ds : List Declaration) (place : Place) (path : String)
    (depth index : Nat), Forest depth (Declaration.fieldsOf place path depth index ds)
  | [], _, _, _, _ => by
    rw [Declaration.fieldsOf]
    exact .nil
  | d :: ds, place, path, depth, index => by
    rw [Declaration.fieldsOf]
    refine Forest.append ?_ (Declaration.forest_fieldsOf ds place path depth (index + 1))
    split
    · exact .nil
    · -- the entry of `d` and what is nested in it are a tree without siblings
      have tree := Forest.tree (e := ⟨depth, path, .child index :: place, d⟩)
        (Declaration.forest_nestedFields d _ _ _) .nil
      rwa [List.append_nil] at tree

theorem Declaration.forest_nestedFields : ∀ (d : Declaration) (place : Place) (path : String)
    (depth : Nat), Forest depth (d.nestedFields place path depth)
  | ⟨_, kind, _, _, type, _, getter, _, _, _⟩, place, path, depth => by
    unfold Declaration.nestedFields
    split
    · exact TypeExpr.forest_fieldsOfOptional type _ path depth
    · split
      · rename_i result _
        exact TypeExpr.forest_fieldsOfOptional result _ path depth
      · exact .nil
    · exact .nil

theorem TypeExpr.forest_fieldsOfOptional : ∀ (t? : Option TypeExpr) (place : Place)
    (path : String) (depth : Nat), Forest depth (TypeExpr.fieldsOfOptional place path depth t?)
  | none, _, _, _ => by
    rw [TypeExpr.fieldsOfOptional]
    exact .nil
  | some t, place, path, depth => by
    rw [TypeExpr.fieldsOfOptional]
    exact TypeExpr.forest_fields t place path depth
end

theorem FieldEntry.forest_nested (e : FieldEntry) : Forest (e.depth + 1) e.nested :=
  Declaration.forest_nestedFields e.field _ _ _

/-- Where the entries nested in another are followed by none that is deeper, there are any if and
only if the next entry is deeper. -/
theorem FieldEntry.nested_ne_nil_iff {e : FieldEntry} {rest : List FieldEntry}
    (notDeeper : ∀ next, rest.head? = some next → next.depth ≤ e.depth) :
    e.nested ≠ [] ↔ ∃ next, (e.nested ++ rest).head? = some next ∧ e.depth < next.depth := by
  cases nested : e.nested with
  | nil =>
    simp only [ne_eq, not_true_eq_false, List.nil_append, false_iff]
    rintro ⟨next, isHead, deeper⟩
    have atMost := notDeeper next isHead
    omega
  | cons first others =>
    have isHead : e.nested.head? = some first := by rw [nested]; rfl
    have oneDeeper := e.forest_nested.depth_of_head? isHead
    simp only [ne_eq, List.cons_ne_nil, not_false_eq_true, true_iff]
    exact ⟨first, rfl, by omega⟩

theorem Section.ne_empty_iff_hasNested {unit : DocUnit} {e : FieldEntry} {shown : String}
    (isShown : bulletType unit e = .ok shown) : shown ≠ "" ↔ e.field.hasNested = true := by
  unfold bulletType at isShown
  split at isShown
  · rename_i hasNested
    obtain ⟨type, -, isShown⟩ := exists_of_bind_eq_ok isShown
    cases isShown
    simp [hasNested]
  · rename_i notNested
    cases isShown
    simp [notNested]

/-- Of the entries of a type, one for a property or an accessor is followed by the entries of the
fields nested in it and then by none that is deeper. So fields are nested in it if and only if the
next entry is deeper, and the list of links shows its type if and only if its own links come
next. -/
theorem TypeExpr.hasNested_iff_next_deeper (t : TypeExpr) (place : Place) (path : String)
    (depth : Nat) (before : List FieldEntry) (e : FieldEntry) (after : List FieldEntry)
    (split : t.fields place path depth = before ++ e :: after)
    (kind : e.field.kind = .propertyDecl ∨ e.field.kind = .accessorDecl) :
    (e.field.hasNested = true ↔ ∃ next, after.head? = some next ∧ e.depth < next.depth) ∧
    (∃ rest, after = e.nested ++ rest ∧
      ∀ next, rest.head? = some next → next.depth ≤ e.depth) ∧
    ∀ unit shown, Section.bulletType unit e = .ok shown → (shown ≠ "" ↔ e.nested ≠ []) := by
  obtain ⟨rest, rfl, notDeeper⟩ :=
    (TypeExpr.forest_fields t place path depth).exists_rest before e after split
  have hasNested_iff := FieldEntry.hasNested_iff kind
  refine ⟨?_, ⟨rest, rfl, notDeeper⟩, fun unit shown isShown => ?_⟩
  · rw [hasNested_iff, FieldEntry.nested_ne_nil_iff notDeeper]
  · rw [Section.ne_empty_iff_hasNested isShown, hasNested_iff]

/-- An object with an accessor `domain`, whose getter gives an object with a `url`, and a method
`reset`. -/
def TypeExpr.hosting : TypeExpr :=
  .object
    [{ Declaration.bare "domain" .accessorDecl none [] with
        getter := some ⟨.text "domain", [], some (.array (.object [.url])), none⟩ },
      .bare "reset" .methodDecl none []]

/-- In the list of an object with an accessor `domain` and a method `reset`, the `url` of the
objects that the getter gives comes right after `domain`. -/
theorem TypeExpr.hasNested_iff_next_deeper_hosting : ∃ domain url reset,
    hosting.fields [] "hosting" 0 = [domain, url, reset] ∧ domain.field.kind = .accessorDecl ∧
    domain.field.hasNested = true ∧ domain.nested = [url] ∧ domain.depth < url.depth := by
  have split : hosting.fields [] "hosting" 0 = [] ++ ⟨0, "hosting", [.child 0], _⟩ ::
      [⟨1, "hosting.domain[]", [.child 0, .element, .getter, .child 0], .url⟩,
        ⟨0, "hosting", [.child 1], .bare "reset" .methodDecl none []⟩] := rfl
  obtain ⟨nests, -, -⟩ := TypeExpr.hasNested_iff_next_deeper hosting [] "hosting" 0 [] _ _ split
    (.inr rfl)
  exact ⟨_, _, _, split, rfl, nests.mpr ⟨_, rfl, by decide⟩, rfl, by decide⟩

end DocPress
