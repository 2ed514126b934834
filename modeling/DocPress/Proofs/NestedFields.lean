import DocPress.Proofs.Compile

/-! # Bullets and sections of nested fields

Nested fields are passed over twice, for the list of links and for the sections that the links lead
to. The passes agree on the anchors because the list asks for all of them first.

* `bullets_of_run`, `sections_of_run`: what each pass gives, and the registry after it.
* `exists_of_ofEntry`, `exists_bulletType`: what a section shows, and that the list can show it too.
* `Paired`: a bullet and a section that belong together. -/

set_option autoImplicit false

namespace DocPress

/-- The request for the anchor of a nested field. -/
def FieldEntry.request (e : FieldEntry) : Anchors.Request Place :=
  ⟨e.place, e.path, e.field.name.display⟩

/-- A declaration of a name and a kind with a type and members, and with nothing else. -/
def Declaration.bare (name : String) (kind : DeclKind) (type : Option TypeExpr)
    (children : List Declaration) : Declaration :=
  { name := .text name
    kind
    modifiers := { }
    comment := none
    type
    signatures := []
    getter := none
    children
    sourcePath := none
    defaultValue := none }

def Declaration.url : Declaration :=
  .bare "url" .propertyDecl (some (.primitive (.text "string"))) []

namespace Section

variable {unit : DocUnit}

/-! ## One field -/

theorem run_bullet (e : FieldEntry) (registry : Anchors Place) :
    (bullet unit e).run registry = match bulletType unit e with
      | .ok type =>
        (.ok (bulletLine e (registry.serve e.request).1 type), (registry.serve e.request).2)
      | .error fault => (.error fault, registry) := by
  unfold bullet
  rw [Compile.run_bind, Compile.run_lift]
  cases bulletType unit e <;> rfl

theorem run_ofField (e : FieldEntry) (registry : Anchors Place) :
    (ofField unit e).run registry =
      (ofEntry unit e (registry.serve e.request).1, (registry.serve e.request).2) := by
  unfold ofField
  rw [Compile.run_bind, Compile.run_anchor]
  rfl

theorem exists_of_ofMethod {method : Declaration} {title parametersTitle : String} {level : Int}
    {anchor parent : Option String} {sections : List Section} (isMethod : method.kind = .methodDecl)
    (compiled : ofMethod unit method title level anchor parent parametersTitle = .ok sections) :
    ∃ s type body, method.firstSignature = .ok s ∧ s.documented.renderType unit false = .ok type ∧
      sections = [{ title, level, body, anchor, parent }] := by
  unfold ofMethod at compiled
  rw [if_neg (not_not_intro isMethod)] at compiled
  obtain ⟨s, signature, compiled⟩ := exists_of_bind_eq_ok compiled
  obtain ⟨owner, -, compiled⟩ := exists_of_bind_eq_ok compiled
  obtain ⟨shown, -, compiled⟩ := exists_of_bind_eq_ok compiled
  obtain ⟨parameters, -, compiled⟩ := exists_of_bind_eq_ok compiled
  obtain ⟨returns, returned, compiled⟩ := exists_of_bind_eq_ok compiled
  obtain ⟨description, -, compiled⟩ := exists_of_bind_eq_ok compiled
  obtain ⟨examples, -, compiled⟩ := exists_of_bind_eq_ok compiled
  obtain ⟨type, rendered, -⟩ := exists_of_bind_eq_ok returned
  cases compiled
  exact ⟨s, type, _, signature, rendered, rfl⟩

/-- What the section of a nested field shows beside its body, and that its type can be rendered. -/
theorem exists_of_ofEntry {e : FieldEntry} {anchor : String} {sections : List Section}
    (compiled : ofEntry unit e anchor = .ok sections) :
    ∃ type body, e.field.documentedNested.renderType unit false = .ok type ∧
      sections =
        [{ title := e.field.displayName
           level := nestedLevel e.depth
           body
           anchor := some anchor
           parent := some (e.path ++ ".") }] := by
  unfold ofEntry at compiled
  split at compiled
  · rename_i isMethod
    obtain ⟨s, type, body, signature, rendered, rfl⟩ := exists_of_ofMethod isMethod compiled
    refine ⟨type, body, ?_, rfl⟩
    -- the section shows the first signature, which is what the list shows of a method
    have documented : e.field.documentedNested = s.documented := by
      unfold Declaration.firstSignature at signature
      unfold Declaration.documentedNested
      split at signature
      · contradiction
      · rename_i first rest signatures
        cases signature
        rw [isMethod, signatures]
    rw [documented]
    exact rendered
  · obtain ⟨type, rendered, compiled⟩ := exists_of_bind_eq_ok compiled
    obtain ⟨default, -, compiled⟩ := exists_of_bind_eq_ok compiled
    obtain ⟨description, -, compiled⟩ := exists_of_bind_eq_ok compiled
    obtain ⟨examples, -, compiled⟩ := exists_of_bind_eq_ok compiled
    cases compiled
    exact ⟨type, _, rendered, rfl⟩

/-- The list can show a field whose section can be compiled. -/
theorem exists_bulletType {e : FieldEntry} {type : String}
    (rendered : e.field.documentedNested.renderType unit false = .ok type) :
    ∃ shown, bulletType unit e = .ok shown := by
  unfold bulletType
  rw [rendered]
  split
  · exact ⟨_, rfl⟩
  · exact ⟨_, rfl⟩

/-! ## All fields -/

theorem related_getElem? {α β : Type} {R : α → β → Prop} {xs : List α} {ys : List β}
    (related : List.Forall₂ R xs ys) {i : Nat} {x : α} {y : β} (left : xs[i]? = some x)
    (right : ys[i]? = some y) : R x y := by
  obtain ⟨leftBound, rfl⟩ := List.getElem?_eq_some_iff.mp left
  obtain ⟨rightBound, rfl⟩ := List.getElem?_eq_some_iff.mp right
  exact related.get leftBound rightBound

/-- A list of bullets gives out the anchors of its fields in order, and each bullet links to the
anchor of its field. -/
theorem bullets_of_run {es : List FieldEntry} {registry final : Anchors Place}
    {lines : List String} (listed : (bullets unit es).run registry = (.ok lines, final)) :
    final = registry.after (es.map FieldEntry.request) ∧
      List.Forall₂ (fun e line => ∃ anchor type, final.find? e.place = some anchor ∧
        line = bulletLine e anchor type) es lines := by
  induction es generalizing registry lines with
  | nil =>
    cases listed
    exact ⟨rfl, .nil⟩
  | cons e es inductionHypothesis =>
    obtain ⟨line, between, first, listed⟩ := Compile.exists_of_run_bind listed
    obtain ⟨rest, final, others, listed⟩ := Compile.exists_of_run_bind listed
    cases listed
    rw [run_bullet] at first
    split at first
    · rename_i type _
      cases first
      obtain ⟨rfl, paired⟩ := inductionHypothesis others
      -- the anchor given to `e` is still its own after the others are listed
      refine ⟨rfl, .cons ⟨_, type, ?_, rfl⟩ paired⟩
      exact Anchors.find?_after_of_find? (Anchors.find?_assign_self _ _ _ _) _
    · cases first

theorem sections_of_run {es : List FieldEntry} {registry final : Anchors Place}
    {sections : List Section} (compiled : (ofFields unit es).run registry = (.ok sections, final)) :
    final = registry.after (es.map FieldEntry.request) ∧
      List.Forall₂ (fun e s => ∃ anchor, final.find? e.place = some anchor ∧
        ofEntry unit e anchor = .ok [s]) es sections := by
  induction es generalizing registry sections with
  | nil =>
    cases compiled
    exact ⟨rfl, .nil⟩
  | cons e es inductionHypothesis =>
    obtain ⟨first, between, ofFirst, compiled⟩ := Compile.exists_of_run_bind compiled
    obtain ⟨rest, final, ofRest, compiled⟩ := Compile.exists_of_run_bind compiled
    cases compiled
    rw [run_ofField, Prod.mk.injEq] at ofFirst
    obtain ⟨ofFirst, rfl⟩ := ofFirst
    obtain ⟨rfl, paired⟩ := inductionHypothesis ofRest
    obtain ⟨type, body, -, rfl⟩ := exists_of_ofEntry ofFirst
    refine ⟨rfl, .cons ⟨_, ?_, ofFirst⟩ paired⟩
    exact Anchors.find?_after_of_find? (Anchors.find?_assign_self _ _ _ _) _

/-- The list can be made from any registry if each of its fields can be shown. -/
theorem exists_run_bullets {es : List FieldEntry}
    (shown : ∀ e ∈ es, ∃ type, bulletType unit e = .ok type) (registry : Anchors Place) :
    ∃ lines final, (bullets unit es).run registry = (.ok lines, final) := by
  induction es generalizing registry with
  | nil => exact ⟨[], registry, rfl⟩
  | cons e es inductionHypothesis =>
    obtain ⟨⟨type, first⟩, shown⟩ := List.forall_mem_cons.mp shown
    obtain ⟨lines, final, rest⟩ := inductionHypothesis shown (registry.serve e.request).2
    refine ⟨bulletLine e (registry.serve e.request).1 type :: lines, final, ?_⟩
    simp only [bullets, Compile.run_bind, run_bullet, first, rest, Compile.run_pure]

/-- A bullet and a section that document the same field under one anchor: the bullet is indented by
two blanks for each level and links to the anchor, and the section has the anchor, the level and the
parent that the depth and the path of the field say. -/
structure Paired (e : FieldEntry) (anchor line : String) (s : Section) : Prop where
  line_eq : ∃ type, line = String.join (List.replicate e.depth "  ") ++ "- <p>["
    ++ Markup.code "key" e.field.displayName ++ "](#" ++ anchor ++ ")" ++ type ++ "</p>"
  title_eq : s.title = e.field.displayName
  anchor_eq : s.anchor = some anchor
  level_eq : s.level = if e.depth = 0 then 4 else 5
  parent_eq : s.parent = some (e.path ++ ".")

theorem paired_of_ofEntry {e : FieldEntry} {anchor type : String} {s : Section}
    (compiled : ofEntry unit e anchor = .ok [s]) :
    Paired e anchor (bulletLine e anchor type) s := by
  obtain ⟨type, body, -, only⟩ := exists_of_ofEntry compiled
  cases only
  exact ⟨⟨_, rfl⟩, rfl, rfl, rfl, rfl⟩

/-- The list of the fields nested in a type and the sections compiled after it, from any registry,
agree field by field: there are as many bullets as sections, and the `i`-th of both document the
`i`-th field under the anchor that it holds. The sections give out no anchor. The list can always be
made where the sections can. -/
theorem nestedSections_follow_nestedBullets (unit : DocUnit) (place : Place) (o : Documented)
    (name : String) :
    (∀ registry listed compiled lines sections,
      (nestedBullets unit place o name).run registry = (.ok lines, listed) →
      (nestedSections unit place o name).run listed = (.ok sections, compiled) →
      compiled = listed ∧
      lines.length = (nestedFields place o name).length ∧
      sections.length = (nestedFields place o name).length ∧
      ∀ (i : Nat) (e : FieldEntry) (line : String) (s : Section),
        (nestedFields place o name)[i]? = some e → lines[i]? = some line →
        sections[i]? = some s →
        ∃ anchor, listed.find? e.place = some anchor ∧ Paired e anchor line s) ∧
    (∀ before after sections,
      (nestedSections unit place o name).run before = (.ok sections, after) →
      ∀ registry, ∃ lines listed,
        (nestedBullets unit place o name).run registry = (.ok lines, listed)) := by
  constructor
  · intro registry listed compiled lines sections list pass
    obtain ⟨rfl, bulleted⟩ := bullets_of_run list
    obtain ⟨unchanged, sectioned⟩ := sections_of_run pass
    rw [Anchors.after_eq_self] at unchanged
    · -- so both passes see the anchors in one registry
      subst unchanged
      refine ⟨rfl, bulleted.length_eq.symm, sectioned.length_eq.symm, ?_⟩
      intro i e line s field bullet title
      obtain ⟨anchor, type, held, rfl⟩ := related_getElem? bulleted field bullet
      obtain ⟨sectionAnchor, sameHeld, ofField⟩ := related_getElem? sectioned field title
      rw [held, Option.some.injEq] at sameHeld
      subst sameHeld
      exact ⟨anchor, held, paired_of_ofEntry ofField⟩
    · intro request member
      exact Anchors.exists_find?_after registry member
  · intro before after sections pass registry
    obtain ⟨-, sectioned⟩ := sections_of_run pass
    refine exists_run_bullets (fun e member => ?_) registry
    obtain ⟨i, bound, rfl⟩ := List.getElem_of_mem member
    obtain ⟨anchor, -, ofField⟩ := sectioned.get bound (sectioned.length_eq ▸ bound)
    obtain ⟨type, body, rendered, -⟩ := exists_of_ofEntry ofField
    exact exists_bulletType rendered

/-- An object with an `endpoint`, which has a `url`. -/
def endpointField : Declaration := .bare "endpoint" .propertyDecl (some (.object [.url])) []

/-- The passes over a property with a nested field, in which another one is nested. -/
theorem nestedSections_follow_nestedBullets_url :
    let unit : DocUnit := ⟨.text "unit", [], none, none⟩
    let resource : Documented := ⟨.text "resource", none, some (.object [endpointField])⟩
    ∃ first second outer inner registry,
      (nestedBullets unit [] resource "resource").run Anchors.empty =
        (.ok [first, second], registry) ∧
      (nestedSections unit [] resource "resource").run registry =
        (.ok [outer, inner], registry) ∧
      Paired ⟨0, "resource", [.child 0], endpointField⟩ "resource-endpoint" first outer ∧
      Paired ⟨1, "resource.endpoint", [.child 0, .type, .child 0], .url⟩ "resource-endpoint-url"
        second inner := by
  intro unit resource
  let registry : Anchors Place :=
    ⟨[([.child 0, .type, .child 0], "resource-endpoint-url"), ([.child 0], "resource-endpoint")]⟩
  obtain ⟨first, second, listed⟩ : ∃ first second,
      (nestedBullets unit [] resource "resource").run Anchors.empty =
        (.ok [first, second], registry) := ⟨_, _, rfl⟩
  obtain ⟨outer, inner, compiled⟩ : ∃ outer inner,
      (nestedSections unit [] resource "resource").run registry =
        (.ok [outer, inner], registry) := ⟨_, _, rfl⟩
  obtain ⟨agree, -⟩ := nestedSections_follow_nestedBullets unit [] resource "resource"
  obtain ⟨-, -, -, each⟩ := agree _ _ _ _ _ listed compiled
  obtain ⟨outerAnchor, outerHeld, outerPaired⟩ := each 0 _ _ _ rfl rfl rfl
  obtain ⟨innerAnchor, innerHeld, innerPaired⟩ := each 1 _ _ _ rfl rfl rfl
  cases outerHeld
  cases innerHeld
  exact ⟨_, _, _, _, _, listed, compiled, outerPaired, innerPaired⟩

end Section

end DocPress
