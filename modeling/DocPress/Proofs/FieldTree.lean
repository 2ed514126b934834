import DocPress.Proofs.FieldPlaces
import Mathlib.Data.List.Lex

/-! # The tree of nested fields

The entries of the fields nested in a type are the preorder listing of a tree: each visible field is
followed by the fields nested in it, one level deeper.

* `TypeExpr.Shows`: the ways that lead from a type to its visible fields.
* `Outline`: entries in preorder, as the recursion over a type puts them together.
* `TypeExpr.fields_preorder`: the entries of a type are its visible fields, each once and in order,
  and the parent of an entry is the nearest one before it that is one level up.

That a parent is found by depths alone is a fact about outlines (`Outline.exists_parent`), so it is
proved from the four ways in which an outline is made, and not from the forms of types. -/

set_option autoImplicit false

namespace DocPress

/-! ## Visible fields -/

mutual
/-- The ways from a type to its visible fields, the first step first. A way passes through members
of unions, elements of arrays and type arguments, and goes on through visible fields. -/
inductive TypeExpr.Shows : TypeExpr → List Step → Declaration → Prop
  | member {members : List TypeExpr} {i : Nat} {t : TypeExpr} {way : List Step} {d : Declaration}
      (isMember : members[i]? = some t) (shows : t.Shows way d) :
      (TypeExpr.union members).Shows (.part i :: way) d
  | element {t : TypeExpr} {way : List Step} {d : Declaration} (shows : t.Shows way d) :
      (TypeExpr.array t).Shows (.element :: way) d
  | argument {ref : Reference} {i : Nat} {t : TypeExpr} {way : List Step} {d : Declaration}
      (isArgument : ref.arguments[i]? = some t) (shows : t.Shows way d) :
      (TypeExpr.reference ref).Shows (.part i :: way) d
  | field {fields : List Declaration} {i : Nat} {d : Declaration} (isField : fields[i]? = some d)
      (visible : d.isHidden = false) : (TypeExpr.object fields).Shows [.child i] d
  | nested {fields : List Declaration} {i : Nat} {f : Declaration} {way : List Step}
      {d : Declaration} (isField : fields[i]? = some f) (visible : f.isHidden = false)
      (nests : f.Nests way d) : (TypeExpr.object fields).Shows (.child i :: way) d

/-- The ways from a field to the visible fields of the type of a property, or of the result of the
getter of an accessor. -/
inductive Declaration.Nests : Declaration → List Step → Declaration → Prop
  | property {f : Declaration} {t : TypeExpr} {way : List Step} {d : Declaration}
      (kind : f.kind = .propertyDecl) (type : f.type = some t) (shows : t.Shows way d) :
      f.Nests (.type :: way) d
  | accessor {f : Declaration} {g : CallSignature} {t : TypeExpr} {way : List Step}
      {d : Declaration} (kind : f.kind = .accessorDecl) (getter : f.getter = some g)
      (result : g.result = some t) (shows : t.Shows way d) : f.Nests (.getter :: way) d
end

/-- Whether entries have one for a field at a place. -/
def Listed (entries : List FieldEntry) (p : Place) (d : Declaration) : Prop :=
  ∃ e ∈ entries, e.place = p ∧ e.field = d

@[simp] theorem listed_nil (p : Place) (d : Declaration) : ¬ Listed [] p d := by simp [Listed]

@[simp] theorem listed_cons (e : FieldEntry) (entries : List FieldEntry) (p : Place)
    (d : Declaration) :
    Listed (e :: entries) p d ↔ (e.place = p ∧ e.field = d) ∨ Listed entries p d := by
  simp [Listed]

@[simp] theorem listed_append (first rest : List FieldEntry) (p : Place) (d : Declaration) :
    Listed (first ++ rest) p d ↔ Listed first p d ∨ Listed rest p d := by
  simp [Listed, or_and_right, exists_or]

/-- What holds of some item of a list holds of the first or of one of the others. -/
theorem exists_getElem?_cons {α : Type} {holds : Nat → α → Prop} {x : α} {xs : List α} :
    (∃ i y, (x :: xs)[i]? = some y ∧ holds i y) ↔
      holds 0 x ∨ ∃ i y, xs[i]? = some y ∧ holds (i + 1) y := by
  constructor
  · rintro ⟨i, y, found, holds⟩
    cases i with
    | zero =>
      cases found
      exact .inl holds
    | succ i => exact .inr ⟨i, y, found, holds⟩
  · rintro (holds | ⟨i, y, found, holds⟩)
    · exact ⟨0, x, rfl, holds⟩
    · exact ⟨i + 1, y, found, holds⟩

mutual
theorem TypeExpr.listed_fields_iff : ∀ (t : TypeExpr) (place : Place) (path : String)
    (depth : Nat) (p : Place) (d : Declaration), Listed (t.fields place path depth) p d ↔
      ∃ way, p = way.reverse ++ place ∧ t.Shows way d
  | .union members, place, path, depth, p, d => by
    rw [TypeExpr.fields, TypeExpr.listed_fieldsOfParts_iff members]
    constructor
    · rintro ⟨i, t, isMember, way, rfl, shows⟩
      exact ⟨.part i :: way, by simp, .member isMember shows⟩
    · rintro ⟨way, rfl, shows⟩
      cases shows with
      | member isMember shows => exact ⟨_, _, isMember, _, by simp, shows⟩
  | .array element, place, path, depth, p, d => by
    rw [TypeExpr.fields, TypeExpr.listed_fields_iff element]
    constructor
    · rintro ⟨way, rfl, shows⟩
      exact ⟨.element :: way, by simp, .element shows⟩
    · rintro ⟨way, rfl, shows⟩
      cases shows with
      | element shows => exact ⟨_, by simp, shows⟩
  | .reference ref, place, path, depth, p, d => by
    rw [TypeExpr.fields, Reference.listed_fields_iff ref]
    constructor
    · rintro ⟨i, t, isArgument, way, rfl, shows⟩
      exact ⟨.part i :: way, by simp, .argument isArgument shows⟩
    · rintro ⟨way, rfl, shows⟩
      cases shows with
      | argument isArgument shows => exact ⟨_, _, isArgument, _, by simp, shows⟩
  | .object fields, place, path, depth, p, d => by
    rw [TypeExpr.fields, Declaration.listed_fieldsOf_iff fields]
    constructor
    · rintro ⟨i, f, isField, visible, ⟨rfl, rfl⟩ | ⟨way, rfl, nests⟩⟩
      · exact ⟨[.child i], by simp, .field isField visible⟩
      · exact ⟨.child i :: way, by simp, .nested isField visible nests⟩
    · rintro ⟨way, rfl, shows⟩
      cases shows with
      | field isField visible => exact ⟨_, _, isField, visible, .inl ⟨by simp, rfl⟩⟩
      | nested isField visible nests => exact ⟨_, _, isField, visible, .inr ⟨_, by simp, nests⟩⟩
  | .primitive _, _, _, _, _, _ | .literal _, _, _, _, _, _ | .template _ _, _, _, _, _, _
  | .tuple _, _, _, _, _, _ | .callable _ _, _, _, _, _, _ | .other _, _, _, _, _, _ => by
    simp only [TypeExpr.fields, listed_nil, false_iff]
    rintro ⟨way, -, _ | _⟩

theorem Reference.listed_fields_iff : ∀ (ref : Reference) (place : Place) (path : String)
    (depth : Nat) (p : Place) (d : Declaration), Listed (ref.fields place path depth) p d ↔
      ∃ i t, ref.arguments[i]? = some t ∧
        ∃ way, p = way.reverse ++ (.part i :: place) ∧ t.Shows way d
  | ⟨name, package, _, arguments, _⟩, place, path, depth, p, d => by
    rw [Reference.fields]
    split
    · rw [TypeExpr.listed_fieldsOfDictionary_iff arguments]
      simp
    · rw [TypeExpr.listed_fieldsOfParts_iff arguments]
      simp

theorem TypeExpr.listed_fieldsOfParts_iff : ∀ (ts : List TypeExpr) (place : Place)
    (path : String) (depth index : Nat) (p : Place) (d : Declaration),
    Listed (TypeExpr.fieldsOfParts place path depth index ts) p d ↔
      ∃ i t, ts[i]? = some t ∧
        ∃ way, p = way.reverse ++ (.part (index + i) :: place) ∧ t.Shows way d
  | [], _, _, _, _, _, _ => by simp [TypeExpr.fieldsOfParts]
  | t :: ts, place, path, depth, index, p, d => by
    rw [TypeExpr.fieldsOfParts, listed_append, TypeExpr.listed_fields_iff t,
      TypeExpr.listed_fieldsOfParts_iff ts, exists_getElem?_cons]
    simp only [Nat.add_zero, Nat.add_right_comm index 1, Nat.add_assoc]

theorem TypeExpr.listed_fieldsOfDictionary_iff : ∀ (ts : List TypeExpr) (place : Place)
    (path : String) (depth index : Nat) (p : Place) (d : Declaration),
    Listed (TypeExpr.fieldsOfDictionary place path depth index ts) p d ↔
      ∃ i t, ts[i]? = some t ∧
        ∃ way, p = way.reverse ++ (.part (index + i) :: place) ∧ t.Shows way d
  | [], _, _, _, _, _, _ => by simp [TypeExpr.fieldsOfDictionary]
  | [t], place, path, depth, index, p, d => by
    rw [TypeExpr.fieldsOfDictionary, TypeExpr.listed_fields_iff t, exists_getElem?_cons]
    simp
  | t :: t' :: ts, place, path, depth, index, p, d => by
    rw [TypeExpr.fieldsOfDictionary, listed_append, TypeExpr.listed_fields_iff t,
      TypeExpr.listed_fieldsOfDictionary_iff (t' :: ts), exists_getElem?_cons (x := t)]
    · simp only [Nat.add_zero, Nat.add_right_comm index 1, Nat.add_assoc]
    · exact List.cons_ne_nil _ _

theorem Declaration.listed_fieldsOf_iff : ∀ (ds : List Declaration) (place : Place)
    (path : String) (depth index : Nat) (p : Place) (d : Declaration),
    Listed (Declaration.fieldsOf place path depth index ds) p d ↔
      ∃ i f, ds[i]? = some f ∧ f.isHidden = false ∧
        ((p = .child (index + i) :: place ∧ f = d) ∨
          ∃ way, p = way.reverse ++ (.child (index + i) :: place) ∧ f.Nests way d)
  | [], _, _, _, _, _, _ => by simp [Declaration.fieldsOf]
  | f :: fs, place, path, depth, index, p, d => by
    rw [Declaration.fieldsOf, listed_append, Declaration.listed_fieldsOf_iff fs,
      exists_getElem?_cons]
    simp only [Nat.add_zero, Nat.add_right_comm index 1, Nat.add_assoc]
    refine or_congr_left ?_
    cases visible : f.isHidden with
    | true => simp
    | false =>
      simp only [Bool.false_eq_true, ↓reduceIte, listed_cons, true_and,
        Declaration.listed_nestedFields_iff f, eq_comm (a := p)]

theorem Declaration.listed_nestedFields_iff : ∀ (f : Declaration) (place : Place)
    (path : String) (depth : Nat) (p : Place) (d : Declaration),
    Listed (f.nestedFields place path depth) p d ↔
      ∃ way, p = way.reverse ++ place ∧ f.Nests way d
  | ⟨_, kind, _, _, type, _, getter, _, _, _⟩, place, path, depth, p, d => by
    unfold Declaration.nestedFields
    split
    · rw [TypeExpr.listed_fieldsOfOptional_iff type]
      constructor
      · rintro ⟨t, rfl, way, rfl, shows⟩
        exact ⟨.type :: way, by simp, .property rfl rfl shows⟩
      · rintro ⟨way, rfl, nests⟩
        cases nests with
        | property _ type shows => exact ⟨_, type, _, by simp, shows⟩
        | accessor kind => contradiction
    · split
      · rename_i result comment
        rw [TypeExpr.listed_fieldsOfOptional_iff result]
        constructor
        · rintro ⟨t, rfl, way, rfl, shows⟩
          exact ⟨.getter :: way, by simp, .accessor rfl rfl rfl shows⟩
        · rintro ⟨way, rfl, nests⟩
          cases nests with
          | property kind => contradiction
          | accessor _ getter result shows =>
            cases getter
            exact ⟨_, result, _, by simp, shows⟩
      · simp only [listed_nil, false_iff]
        rintro ⟨way, -, nests⟩
        cases nests with
        | property kind => contradiction
        | accessor _ getter => cases getter
    · rename_i notProperty notAccessor
      simp only [listed_nil, false_iff]
      rintro ⟨way, -, nests⟩
      cases nests with
      | property kind => exact notProperty kind
      | accessor kind => exact notAccessor kind

theorem TypeExpr.listed_fieldsOfOptional_iff : ∀ (t? : Option TypeExpr) (place : Place)
    (path : String) (depth : Nat) (p : Place) (d : Declaration),
    Listed (TypeExpr.fieldsOfOptional place path depth t?) p d ↔
      ∃ t, t? = some t ∧ ∃ way, p = way.reverse ++ place ∧ t.Shows way d
  | none, _, _, _, _, _ => by simp [TypeExpr.fieldsOfOptional]
  | some t, place, path, depth, p, d => by
    rw [TypeExpr.fieldsOfOptional, TypeExpr.listed_fields_iff t]
    simp
end

/-! ## The order of places -/

/-- The order of the steps from one place: by the index of the field or of the type. -/
def Step.Before : Step → Step → Prop
  | .child i, .child j => i < j
  | .part i, .part j => i < j
  | _, _ => False

/-- The preorder of places: a place comes before those below it, and of two places that part the one
with the earlier step comes first. -/
def Place.Before (one other : Place) : Prop := List.Lex Step.Before one.reverse other.reverse

theorem Place.before_of_below {place one other : Place} {step step' : Step}
    (earlier : step.Before step') (first : (step :: place) <:+ one)
    (second : (step' :: place) <:+ other) : one.Before other := by
  obtain ⟨front, rfl⟩ := first
  obtain ⟨front', rfl⟩ := second
  simp only [Place.Before, List.reverse_append, List.reverse_cons, List.append_assoc]
  exact List.Lex.append_left _ (.rel earlier) _

theorem Place.before_of_step {place other : Place} {step : Step}
    (below : (step :: place) <:+ other) : place.Before other := by
  obtain ⟨front, rfl⟩ := below
  have longer :
      List.Lex Step.Before (place.reverse ++ []) (place.reverse ++ step :: front.reverse) :=
    List.Lex.append_left _ .nil _
  simpa [Place.Before] using longer

theorem SpreadFrom.before {step : Nat → Step} {place : Place} {index : Nat}
    {fields rest : List FieldEntry} (increasing : ∀ i j, i < j → (step i).Before (step j))
    (first : Spread (step index :: place) fields)
    (others : SpreadFrom step place (index + 1) rest) :
    ∀ e ∈ fields, ∀ e' ∈ rest, e.place.Before e'.place := by
  intro e isFirst e' isOther
  obtain ⟨i, later, below⟩ := others.below e' isOther
  exact Place.before_of_below (increasing index i (by omega)) (first.below e isFirst) below

/-! ## Outlines -/

/-- Entries in preorder: those of a field at a path and a depth, followed by those nested in it. -/
inductive Outline : String → Nat → List FieldEntry → Prop
  | nil {path : String} {depth : Nat} : Outline path depth []
  | append {path : String} {depth : Nat} {entries rest : List FieldEntry}
      (first : Outline path depth entries) (others : Outline path depth rest)
      (inOrder : ∀ e ∈ entries, ∀ e' ∈ rest, e.place.Before e'.place) :
      Outline path depth (entries ++ rest)
  | items {path : String} {depth : Nat} {entries : List FieldEntry}
      (ofItems : Outline (path ++ "[]") depth entries) : Outline path depth entries
  | field {path : String} {depth : Nat} {place : Place} {d : Declaration}
      {nested : List FieldEntry}
      (ofNested : Outline (path ++ "." ++ d.name.display) (depth + 1) nested)
      (below : ∀ e ∈ nested, ∃ step, (step :: place) <:+ e.place)
      (kind : nested ≠ [] → d.kind = .propertyDecl ∨ d.kind = .accessorDecl) :
      Outline path depth (⟨depth, path, place, d⟩ :: nested)

mutual
theorem TypeExpr.outline_fields : ∀ (t : TypeExpr) (place : Place) (path : String) (depth : Nat),
    Outline path depth (t.fields place path depth)
  | .union members, place, path, depth => by
    rw [TypeExpr.fields]
    exact TypeExpr.outline_fieldsOfParts members place path depth 0
  | .array element, place, path, depth => by
    rw [TypeExpr.fields]
    exact .items (TypeExpr.outline_fields element _ _ _)
  | .reference ref, place, path, depth => by
    rw [TypeExpr.fields]
    exact Reference.outline_fields ref place path depth
  | .object fields, place, path, depth => by
    rw [TypeExpr.fields]
    exact Declaration.outline_fieldsOf fields place path depth 0
  | .primitive _, _, _, _ | .literal _, _, _, _ | .template _ _, _, _, _ | .tuple _, _, _, _
  | .callable _ _, _, _, _ | .other _, _, _, _ => by
    rw [TypeExpr.fields]
    exact .nil

theorem Reference.outline_fields : ∀ (ref : Reference) (place : Place) (path : String)
    (depth : Nat), Outline path depth (ref.fields place path depth)
  | ⟨_, _, _, arguments, _⟩, place, path, depth => by
    rw [Reference.fields]
    split
    · exact TypeExpr.outline_fieldsOfDictionary arguments place path depth 0
    · exact TypeExpr.outline_fieldsOfParts arguments place path depth 0

theorem TypeExpr.outline_fieldsOfParts : ∀ (ts : List TypeExpr) (place : Place) (path : String)
    (depth index : Nat), Outline path depth (TypeExpr.fieldsOfParts place path depth index ts)
  | [], _, _, _, _ => by
    rw [TypeExpr.fieldsOfParts]
    exact .nil
  | t :: ts, place, path, depth, index => by
    rw [TypeExpr.fieldsOfParts]
    exact .append (TypeExpr.outline_fields t _ _ _)
      (TypeExpr.outline_fieldsOfParts ts place path depth (index + 1))
      (SpreadFrom.before (fun _ _ => id) (TypeExpr.spread_fields t _ _ _)
        (TypeExpr.spread_fieldsOfParts ts place path depth (index + 1)))

theorem TypeExpr.outline_fieldsOfDictionary : ∀ (ts : List TypeExpr) (place : Place)
    (path : String) (depth index : Nat),
    Outline path depth (TypeExpr.fieldsOfDictionary place path depth index ts)
  | [], _, _, _, _ => by
    rw [TypeExpr.fieldsOfDictionary]
    exact .nil
  | [t], place, path, depth, index => by
    rw [TypeExpr.fieldsOfDictionary]
    exact .items (TypeExpr.outline_fields t _ _ _)
  | t :: t' :: ts, place, path, depth, index => by
    rw [TypeExpr.fieldsOfDictionary]
    · exact .append (TypeExpr.outline_fields t _ _ _)
        (TypeExpr.outline_fieldsOfDictionary (t' :: ts) place path depth (index + 1))
        (SpreadFrom.before (fun _ _ => id) (TypeExpr.spread_fields t _ _ _)
          (TypeExpr.spread_fieldsOfDictionary (t' :: ts) place path depth (index + 1)))
    · exact List.cons_ne_nil _ _

theorem Declaration.outline_fieldsOf : ∀ (ds : List Declaration) (place : Place) (path : String)
    (depth index : Nat), Outline path depth (Declaration.fieldsOf place path depth index ds)
  | [], _, _, _, _ => by
    rw [Declaration.fieldsOf]
    exact .nil
  | d :: ds, place, path, depth, index => by
    rw [Declaration.fieldsOf]
    have others := Declaration.spread_fieldsOf ds place path depth (index + 1)
    split
    · exact Declaration.outline_fieldsOf ds place path depth (index + 1)
    · obtain ⟨step, nested⟩ := Declaration.spread_nestedFields d (.child index :: place)
        (path ++ "." ++ d.name.display) (depth + 1)
      refine .append (.field (Declaration.outline_nestedFields d _ _ _).1
        (fun e member => ⟨step, nested.below e member⟩)
        (Declaration.outline_nestedFields d _ _ _).2)
        (Declaration.outline_fieldsOf ds place path depth (index + 1)) ?_
      exact SpreadFrom.before (fun _ _ => id) (.cons rfl nested) others

/-- Only properties and accessors have fields nested in them. -/
theorem Declaration.outline_nestedFields : ∀ (d : Declaration) (place : Place) (path : String)
    (depth : Nat), Outline path depth (d.nestedFields place path depth) ∧
      (d.nestedFields place path depth ≠ [] → d.kind = .propertyDecl ∨ d.kind = .accessorDecl)
  | ⟨_, kind, _, _, type, _, getter, _, _, _⟩, place, path, depth => by
    unfold Declaration.nestedFields
    split
    · exact ⟨TypeExpr.outline_fieldsOfOptional type _ path depth, fun _ => .inl rfl⟩
    · split
      · rename_i result _
        exact ⟨TypeExpr.outline_fieldsOfOptional result _ path depth, fun _ => .inr rfl⟩
      · exact ⟨.nil, fun _ => .inr rfl⟩
    · exact ⟨.nil, fun nonempty => absurd rfl nonempty⟩

theorem TypeExpr.outline_fieldsOfOptional : ∀ (t? : Option TypeExpr) (place : Place)
    (path : String) (depth : Nat),
    Outline path depth (TypeExpr.fieldsOfOptional place path depth t?)
  | none, _, _, _ => by
    rw [TypeExpr.fieldsOfOptional]
    exact .nil
  | some t, place, path, depth => by
    rw [TypeExpr.fieldsOfOptional]
    exact TypeExpr.outline_fields t place path depth
end

/-- A path, followed by `[]` for each array or dictionary that is passed through from there. -/
def itemPath (path : String) (count : Nat) : String :=
  path ++ String.join (List.replicate count "[]")

theorem itemPath_items (path : String) (count : Nat) :
    itemPath (path ++ "[]") count = itemPath path (count + 1) := by
  simp [itemPath, List.replicate_succ, String.append_assoc]

/-- What makes one entry the parent of another: it is one level up and is passed through on the way
to the other, whose path goes on from its name. -/
structure FieldEntry.IsParent (parent e : FieldEntry) : Prop where
  depth_eq : parent.depth + 1 = e.depth
  below : ∃ step, (step :: parent.place) <:+ e.place
  kind_eq : parent.field.kind = .propertyDecl ∨ parent.field.kind = .accessorDecl
  path_eq : ∃ count, e.path = itemPath (parent.path ++ "." ++ parent.field.name.display) count

namespace Outline

variable {path : String} {depth : Nat} {entries : List FieldEntry}

theorem depth_le (outline : Outline path depth entries) : ∀ e ∈ entries, depth ≤ e.depth := by
  induction outline with
  | nil => simp
  | append _ _ _ ofFirst ofOthers =>
    intro e member
    rcases List.mem_append.mp member with isFirst | isOther
    · exact ofFirst e isFirst
    · exact ofOthers e isOther
  | items _ inductionHypothesis => exact inductionHypothesis
  | field _ _ _ inductionHypothesis =>
    refine List.forall_mem_cons.mpr ⟨Nat.le_refl _, fun e member => ?_⟩
    have deeper := inductionHypothesis e member
    omega

theorem pairwise_before (outline : Outline path depth entries) :
    entries.Pairwise fun e e' => e.place.Before e'.place := by
  induction outline with
  | nil => exact .nil
  | append _ _ inOrder ofFirst ofOthers =>
    exact List.pairwise_append.mpr ⟨ofFirst, ofOthers, inOrder⟩
  | items _ inductionHypothesis => exact inductionHypothesis
  | field _ below _ inductionHypothesis =>
    refine List.pairwise_cons.mpr ⟨fun e member => ?_, inductionHypothesis⟩
    obtain ⟨step, isBelow⟩ := below e member
    exact Place.before_of_step isBelow

/-- An entry stands at the depth and the path of the outline, or its parent is the last entry before
it that is not deeper than the parent. -/
theorem exists_parent (outline : Outline path depth entries) :
    ∀ before e after, entries = before ++ e :: after →
      (e.depth = depth ∧ ∃ count, e.path = itemPath path count) ∨
      ∃ front parent between, before = front ++ parent :: between ∧
        (∀ other ∈ between, parent.depth < other.depth) ∧ parent.IsParent e := by
  induction outline with
  | nil => simp
  | append _ _ _ ofFirst ofOthers =>
    intro before e after split
    rcases List.append_eq_append_iff.mp split with ⟨front, rfl, rfl⟩ | ⟨back, rfl, isRest⟩
    · -- `e` is one of the others, so what precedes it begins with all of the first
      rcases ofOthers front e after rfl with
        atTop | ⟨front', parent, between, rfl, deeper, isParent⟩
      · exact .inl atTop
      · exact .inr ⟨_, parent, between, (List.append_assoc _ front' _).symm, deeper, isParent⟩
    · cases back with
      | nil =>
        rcases ofOthers [] e after (by simpa using isRest.symm) with atTop | ⟨_, _, _, none, _⟩
        · exact .inl atTop
        · simp at none
      | cons first back =>
        cases isRest
        exact ofFirst before e back rfl
  | items _ inductionHypothesis =>
    intro before e after split
    rcases inductionHypothesis before e after split with ⟨atTop, count, path_eq⟩ | nested
    · exact .inl ⟨atTop, count + 1, path_eq.trans (itemPath_items _ _)⟩
    · exact .inr nested
  | @field path depth place d nested ofNested below kind inductionHypothesis =>
    intro before e after split
    cases before with
    | nil =>
      cases split
      exact .inl ⟨rfl, 0, by simp [itemPath]⟩
    | cons first before =>
      obtain ⟨rfl, rfl⟩ := List.cons.inj split
      right
      rcases inductionHypothesis before e after rfl with
        ⟨atTop, path_eq⟩ | ⟨front, parent, between, rfl, deeper, isParent⟩
      · -- `e` stands at the top of what is nested in the first entry
        refine ⟨[], _, before, rfl, fun other member => ?_, ⟨atTop.symm, ?_, ?_, path_eq⟩⟩
        · exact ofNested.depth_le other (List.mem_append_left _ member)
        · exact below e (by simp)
        · exact kind (by simp)
      · exact ⟨_ :: front, parent, between, rfl, deeper, isParent⟩

/-- From one entry to the next the depth grows by at most one. -/
theorem depth_succ_le (outline : Outline path depth entries) {before after : List FieldEntry}
    {e e' : FieldEntry} (split : entries = before ++ e :: e' :: after) :
    e'.depth ≤ e.depth + 1 := by
  have atLeast : depth ≤ e.depth := outline.depth_le e (by simp [split])
  rcases outline.exists_parent (before ++ [e]) e' after (by simp [split]) with
    ⟨atTop, -⟩ | ⟨front, parent, between, isLast, deeper, isParent⟩
  · omega
  · have oneUp := isParent.depth_eq
    -- `e` stands right before `e'`, so it is the parent or one of those between the two
    rcases List.eq_nil_or_concat between with rfl | ⟨rest, last, rfl⟩
    · obtain ⟨-, isParent⟩ := List.append_inj' isLast rfl
      cases isParent
      omega
    · have regrouped : before ++ [e] = (front ++ parent :: rest) ++ [last] := by simpa using isLast
      obtain ⟨-, sameLast⟩ := List.append_inj' regrouped rfl
      cases sameLast
      have isDeeper := deeper e (by simp)
      omega

end Outline

/-- Entries that are the preorder listing of the visible fields of a type, which stands at a place
and has a path and a depth of its own. -/
structure PreorderListing (t : TypeExpr) (place : Place) (path : String) (depth : Nat)
    (entries : List FieldEntry) : Prop where
  /-- A field is listed at a place if and only if a way leads to it there. -/
  shows_iff : ∀ (way : List Step) (d : Declaration), t.Shows way d ↔
    ∃ e ∈ entries, e.place = way.reverse ++ place ∧ e.field = d
  /-- Every entry stands at the end of a way from the type. -/
  below : ∀ e ∈ entries, ∃ way : List Step, e.place = way.reverse ++ place
  places_nodup : (entries.map FieldEntry.place).Nodup
  inOrder : entries.Pairwise fun e e' => e.place.Before e'.place
  head_depth : ∀ e, entries.head? = some e → e.depth = depth
  depth_le : ∀ e ∈ entries, depth ≤ e.depth
  depth_succ_le : ∀ before e e' after, entries = before ++ e :: e' :: after →
    e'.depth ≤ e.depth + 1
  path_eq : ∀ e ∈ entries, e.depth = depth → ∃ count, e.path = itemPath path count
  /-- The parent of a deeper entry is the nearest entry before it that is one level up. -/
  parent : ∀ before e after, entries = before ++ e :: after → depth < e.depth →
    ∃ front parent between, before = front ++ parent :: between ∧
      (∀ other ∈ between, parent.depth < other.depth) ∧ parent.IsParent e

/-- The entries of the fields nested in a type are the preorder listing of its visible fields. -/
theorem TypeExpr.fields_preorder (t : TypeExpr) (place : Place) (path : String) (depth : Nat) :
    PreorderListing t place path depth (t.fields place path depth) := by
  have outline := TypeExpr.outline_fields t place path depth
  have listed := TypeExpr.listed_fields_iff t place path depth
  constructor
  · intro way d
    refine ⟨fun shows => (listed _ d).mpr ⟨way, rfl, shows⟩, fun isListed => ?_⟩
    obtain ⟨way', sameWay, shows⟩ := (listed _ d).mp isListed
    rw [List.reverse_inj.mp (List.append_cancel_right sameWay)]
    exact shows
  · intro e member
    obtain ⟨way, ends, -⟩ := (listed e.place e.field).mp ⟨e, member, rfl, rfl⟩
    exact ⟨way, ends⟩
  · exact (TypeExpr.spread_fields t place path depth).nodup
  · exact outline.pairwise_before
  · intro e isHead
    obtain ⟨rest, split⟩ := List.head?_eq_some_iff.mp isHead
    rcases outline.exists_parent [] e rest split with ⟨atTop, -⟩ | ⟨_, _, _, none, -⟩
    · exact atTop
    · simp at none
  · exact outline.depth_le
  · intro before e e' after split
    exact outline.depth_succ_le split
  · intro e member atTop
    obtain ⟨before, after, split⟩ := List.append_of_mem member
    rcases outline.exists_parent before e after split with
      ⟨-, path_eq⟩ | ⟨_, parent, _, rfl, -, isParent⟩
    · exact path_eq
    · have isMember : parent ∈ t.fields place path depth := by simp [split]
      have atLeast := outline.depth_le parent isMember
      have oneUp := isParent.depth_eq
      omega
  · intro before e after split deeper
    rcases outline.exists_parent before e after split with ⟨atTop, -⟩ | nested
    · omega
    · exact nested

end DocPress
