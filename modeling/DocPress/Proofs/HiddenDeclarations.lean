import DocPress.Proofs.FieldTree
import DocPress.Proofs.PageSubjects

/-! # Hidden declarations

A declaration is hidden by its own comment, or by the comment of the signature that documents it.
Each group of sections leaves out what one of the two comments hides, so that a declaration that the
other one hides is documented all the same.

* `Declaration.HiddenSomewhere`: the declarations that one of their comments hides.
* `Subject.Overlooks`: the subjects of sections that are hidden all the same.
* `Page.overlooks_of_hidden`: these are all hidden declarations that pages document. -/

set_option autoImplicit false

namespace DocPress

namespace Declaration

/-- The signature that documents a declaration: the first of a function or a method, and that of the
getter of an accessor. -/
def documentingSignature? (d : Declaration) : Option CallSignature :=
  match d.kind with
  | .functionDecl | .methodDecl => d.signatures.head?
  | .accessorDecl => d.getter
  | _ => none

/-- Whether the comment of the signature that documents a declaration hides it. -/
def signatureHides (d : Declaration) : Bool :=
  (d.documentingSignature?.bind CallSignature.comment).any DocComment.hides

/-- A declaration that its own comment hides, or that of the signature that documents it. -/
def HiddenSomewhere (d : Declaration) : Prop := d.isHidden = true ∨ d.signatureHides = true

variable {d : Declaration}

theorem not_hiddenSomewhere (noSignature : d.documentingSignature? = none)
    (own : d.isHidden = false) : ¬ d.HiddenSomewhere := by
  simp [HiddenSomewhere, signatureHides, noSignature, own]

theorem hiddenSomewhere_iff_own (shown : d.signatureHides = false) :
    d.HiddenSomewhere ↔ d.isHidden = true := by
  simp [HiddenSomewhere, shown]

theorem hiddenSomewhere_iff_signature (own : d.isHidden = false) :
    d.HiddenSomewhere ↔ d.signatureHides = true := by
  simp [HiddenSomewhere, own]

theorem signatureHides_of_function (isFunction : d.kind = .functionDecl) :
    d.signatureHides = (d.signatures.head?.bind CallSignature.comment).any DocComment.hides := by
  rw [signatureHides, documentingSignature?, isFunction]

end Declaration

namespace Subject

/-- What is known of the declaration that a section documents, for each kind of sections. -/
def IsShown : Subject → Prop
  | text _ _ => True
  | var v _ => v.kind = .variableDecl ∧ v.isHidden = false
  | function f => f.kind = .functionDecl ∧
    (f.signatures.head?.bind CallSignature.comment).any DocComment.isInternal = false
  | interface i | object i _ => i.kind = .interfaceDecl ∧ i.isHidden = false
  | member m _ => (m.kind = .propertyDecl ∨ m.kind = .methodDecl) ∧ m.isHidden = false
  | property g _ _ => g.signatureHides = false
  | method m => m.signatureHides = false
  | field e => e.field.isHidden = false

/-- The subjects that one of their comments hides, but not the comment that is looked at: functions
are only looked at for internal signatures, properties and methods of the class for signatures, and
members and nested fields for comments of their own. -/
inductive Overlooks : Subject → Prop
  | function {f : Declaration} (own : f.isHidden = true) : Overlooks (.function f)
  | deprecated {f : Declaration}
      (isDeprecated : (f.signatures.head?.bind CallSignature.comment).any
        DocComment.isDeprecated = true) : Overlooks (.function f)
  | property {g : Declaration} {s : CallSignature} {nested : List FieldEntry}
      (own : g.isHidden = true) : Overlooks (.property g s nested)
  | method {m : Declaration} (own : m.isHidden = true) : Overlooks (.method m)
  | member {m : Declaration} {nested : List FieldEntry} (isMethod : m.kind = .methodDecl)
      (signature : m.signatureHides = true) : Overlooks (.member m nested)
  | field {e : FieldEntry} (signature : e.field.signatureHides = true) : Overlooks (.field e)

section

variable {d : Declaration} {nested : List FieldEntry}

theorem overlooks_function_iff : (function d).Overlooks ↔ d.isHidden = true ∨
    (d.signatures.head?.bind CallSignature.comment).any DocComment.isDeprecated = true := by
  constructor
  · intro overlooked
    cases overlooked with
    | function own => exact .inl own
    | deprecated isDeprecated => exact .inr isDeprecated
  · rintro (own | isDeprecated)
    · exact .function own
    · exact .deprecated isDeprecated

theorem overlooks_member_iff :
    (member d nested).Overlooks ↔ d.kind = .methodDecl ∧ d.signatureHides = true := by
  constructor
  · intro overlooked
    cases overlooked with
    | member isMethod signature => exact ⟨isMethod, signature⟩
  · rintro ⟨isMethod, signature⟩
    exact .member isMethod signature

theorem overlooks_property_iff {s : CallSignature} :
    (property d s nested).Overlooks ↔ d.isHidden = true := by
  refine ⟨fun overlooked => ?_, .property⟩
  cases overlooked with
  | property own => exact own

theorem overlooks_method_iff : (method d).Overlooks ↔ d.isHidden = true := by
  refine ⟨fun overlooked => ?_, .method⟩
  cases overlooked with
  | method own => exact own

theorem overlooks_field_iff {e : FieldEntry} :
    (field e).Overlooks ↔ e.field.signatureHides = true := by
  refine ⟨fun overlooked => ?_, .field⟩
  cases overlooked with
  | field signature => exact signature

end

/-- Of a comment that is not internal, only the deprecation is left to hide its owner. -/
theorem any_hides_iff {comment : Option DocComment}
    (notInternal : comment.any DocComment.isInternal = false) :
    comment.any DocComment.hides = true ↔ comment.any DocComment.isDeprecated = true := by
  cases comment with
  | none => simp
  | some c =>
    have notInternal : c.isInternal = false := notInternal
    simp [DocComment.hides, notInternal]

/-- What a section documents is hidden exactly where it is overlooked. -/
theorem IsShown.hidden_iff {subject : Subject} (isShown : subject.IsShown) {d : Declaration}
    (isAbout : subject.declaration? = some d) : d.HiddenSomewhere ↔ subject.Overlooks := by
  cases subject with
  | text title level => cases isAbout
  | var v nested =>
    cases isAbout
    obtain ⟨kind, own⟩ := isShown
    have noSignature : d.documentingSignature? = none := by
      rw [Declaration.documentingSignature?, kind]
    exact iff_of_false (Declaration.not_hiddenSomewhere noSignature own) nofun
  | function f =>
    cases isAbout
    obtain ⟨kind, notInternal⟩ := isShown
    rw [overlooks_function_iff, Declaration.HiddenSomewhere,
      Declaration.signatureHides_of_function kind, any_hides_iff notInternal]
  | interface i | object i nested =>
    cases isAbout
    obtain ⟨kind, own⟩ := isShown
    have noSignature : d.documentingSignature? = none := by
      rw [Declaration.documentingSignature?, kind]
    exact iff_of_false (Declaration.not_hiddenSomewhere noSignature own) nofun
  | member m nested =>
    cases isAbout
    rw [overlooks_member_iff]
    obtain ⟨isProperty | isMethod, own⟩ := isShown
    · have noSignature : d.documentingSignature? = none := by
        rw [Declaration.documentingSignature?, isProperty]
      exact iff_of_false (Declaration.not_hiddenSomewhere noSignature own) (by simp [isProperty])
    · rw [Declaration.hiddenSomewhere_iff_signature own, and_iff_right isMethod]
  | property g s nested =>
    cases isAbout
    rw [overlooks_property_iff]
    exact Declaration.hiddenSomewhere_iff_own isShown
  | method m =>
    cases isAbout
    rw [overlooks_method_iff]
    exact Declaration.hiddenSomewhere_iff_own isShown
  | field e =>
    cases isAbout
    rw [overlooks_field_iff]
    exact Declaration.hiddenSomewhere_iff_signature isShown

end Subject

/-! ## Each group -/

mutual
theorem TypeExpr.Shows.visible : ∀ {t : TypeExpr} {way : List Step} {d : Declaration},
    t.Shows way d → d.isHidden = false
  | _, _, _, .member _ shows | _, _, _, .element shows | _, _, _, .argument _ shows =>
    shows.visible
  | _, _, _, .field _ visible => visible
  | _, _, _, .nested _ _ nests => nests.visible

theorem Declaration.Nests.visible : ∀ {f : Declaration} {way : List Step} {d : Declaration},
    f.Nests way d → d.isHidden = false
  | _, _, _, .property _ _ shows | _, _, _, .accessor _ _ _ shows => shows.visible
end

theorem Section.visible_of_mem_nestedFields {place : Place} {o : Documented} {name : String}
    {e : FieldEntry} (member : e ∈ Section.nestedFields place o name) :
    e.field.isHidden = false := by
  obtain ⟨t, -, way, -, shows⟩ := (TypeExpr.listed_fieldsOfOptional_iff o.type place name 0
    e.place e.field).mp ⟨e, member, rfl, rfl⟩
  exact shows.visible

/-- Subjects that are all shown, and of which the nested fields are, too. -/
def Subject.AllShown (subjects : List Subject) : Prop :=
  ∀ subject ∈ subjects, subject.IsShown ∧ ∀ e ∈ subject.listed, e.field.isHidden = false

namespace Subject

theorem allShown_nil : AllShown [] := fun _ member => absurd member List.not_mem_nil

theorem AllShown.cons {subject : Subject} {subjects : List Subject} (isShown : subject.IsShown)
    (listed : ∀ e ∈ subject.listed, e.field.isHidden = false) (others : AllShown subjects) :
    AllShown (subject :: subjects) :=
  List.forall_mem_cons.mpr ⟨⟨isShown, listed⟩, others⟩

/-- A subject without nested fields. -/
theorem AllShown.consPlain {subject : Subject} {subjects : List Subject}
    (isShown : subject.IsShown) (plain : subject.listed = []) (others : AllShown subjects) :
    AllShown (subject :: subjects) :=
  .cons isShown (by simp [plain]) others

theorem AllShown.append {first rest : List Subject} (ofFirst : AllShown first)
    (ofRest : AllShown rest) : AllShown (first ++ rest) :=
  List.forall_mem_append.mpr ⟨ofFirst, ofRest⟩

theorem AllShown.flatMap {α : Type} {subjects : α → List Subject} {xs : List α}
    (each : ∀ x ∈ xs, AllShown (subjects x)) : AllShown (xs.flatMap subjects) := by
  intro subject member
  obtain ⟨x, isElement, member⟩ := List.mem_flatMap.mp member
  exact each x isElement subject member

theorem allShown_text (title : String) (level : Int) : AllShown [.text title level] :=
  .consPlain trivial rfl allShown_nil

/-- A subject with the fields that are nested in it, which have sections of their own. -/
theorem AllShown.withFields {subject : Subject} {fields : List FieldEntry}
    (isShown : subject.IsShown) (listed_eq : subject.listed = fields)
    (visible : ∀ e ∈ fields, e.field.isHidden = false) :
    AllShown (subject :: fields.map .field) := by
  refine .cons isShown (listed_eq ▸ visible) fun field member => ?_
  obtain ⟨e, isField, rfl⟩ := List.mem_map.mp member
  exact ⟨visible e isField, nofun⟩

end Subject

namespace Section

open Subject (AllShown)

variable {unit : DocUnit}

theorem allShown_headingSubjects (title : Option String) : AllShown (headingSubjects title) := by
  unfold headingSubjects
  split
  · exact Subject.allShown_nil
  · split
    · exact Subject.allShown_nil
    · exact Subject.allShown_text _ 2

theorem allShown_functionGroupSubjects (unit : DocUnit) (title : Option String) :
    AllShown (functionGroupSubjects unit.functions title) := by
  unfold functionGroupSubjects
  split
  · exact Subject.allShown_nil
  · refine (allShown_headingSubjects title).append fun subject member => ?_
    obtain ⟨f, isFunction, rfl⟩ := List.mem_map.mp member
    obtain ⟨ofKind, notInternal⟩ := List.mem_filter.mp isFunction
    have kind := of_decide_eq_true (List.mem_filter.mp ofKind).2
    exact ⟨⟨kind, by simpa using notInternal⟩, nofun⟩

theorem signatureHides_eq_false {m : Declaration} (isMethod : m.kind = .methodDecl)
    (isShown : isShownMethod m = true) : m.signatureHides = false := by
  rw [Declaration.signatureHides, Declaration.documentingSignature?, isMethod]
  unfold isShownMethod at isShown
  cases signatures : m.signatures with
  | nil => rfl
  | cons s rest => simp_all

theorem allShown_methodSubjects (unit : DocUnit) (builders : BuilderMethods) :
    AllShown (methodSubjects unit builders) := by
  unfold methodSubjects
  split
  · rename_i ms found
    split
    · exact Subject.allShown_nil
    · refine (Subject.allShown_text _ _).append fun subject member => ?_
      obtain ⟨m, isMethod, rfl⟩ := List.mem_map.mp member
      obtain ⟨kind, isShown⟩ := kind_of_mem_classMethods found isMethod
      exact ⟨signatureHides_eq_false kind isShown, nofun⟩
  · exact Subject.allShown_nil

theorem allShown_optionalSubjects (title : String) (x : Except Fault (List Section)) :
    AllShown (optionalSubjects title x) := by
  unfold optionalSubjects
  split
  · exact Subject.allShown_text title 3
  · exact Subject.allShown_nil
  · exact Subject.allShown_nil

theorem allShown_memberSubjects (m : Place × Declaration) : AllShown (memberSubjects m) := by
  by_cases hidden : m.2.isHidden
  · rw [memberSubjects, if_pos hidden]
    exact Subject.allShown_nil
  have own : m.2.isHidden = false := by simpa using hidden
  by_cases isProperty : m.2.kind = .propertyDecl
  · rw [memberSubjects_of_property own isProperty]
    exact .withFields ⟨.inl isProperty, own⟩ rfl fun e => visible_of_mem_nestedFields
  by_cases isMethod : m.2.kind = .methodDecl
  · rw [memberSubjects_of_method own isMethod]
    exact .consPlain ⟨.inr isMethod, own⟩ rfl Subject.allShown_nil
  rw [memberSubjects_of_other isProperty isMethod]
  exact Subject.allShown_nil

theorem allShown_interfaceGroupSubjects (unit : DocUnit) (accepts : Declaration → Bool)
    (asObjects : Bool) : AllShown (interfaceGroupSubjects unit accepts asObjects) := by
  refine .flatMap fun i member => ?_
  obtain ⟨ofKind, isShown⟩ := List.mem_filter.mp member
  have kind : i.2.kind = .interfaceDecl := (DocUnit.mem_locatedOfKind.mp ofKind).2
  have own : i.2.isHidden = false := by simp_all
  cases asObjects with
  | false => exact .consPlain ⟨kind, own⟩ rfl (.flatMap fun m _ => allShown_memberSubjects m)
  | true => exact .withFields ⟨kind, own⟩ rfl fun e => visible_of_mem_nestedFields

theorem allShown_variableGroupSubjects (unit : DocUnit) (title : Option String) :
    AllShown (variableGroupSubjects unit title) := by
  unfold variableGroupSubjects
  split
  · exact Subject.allShown_nil
  · refine (allShown_headingSubjects title).append (.flatMap fun v member => ?_)
    obtain ⟨ofKind, isShown⟩ := List.mem_filter.mp member
    have kind : v.2.kind = .variableDecl := (DocUnit.mem_locatedOfKind.mp ofKind).2
    exact .withFields ⟨kind, by simpa using isShown⟩ rfl fun e => visible_of_mem_nestedFields

theorem signatureHides_of_mem_shownGetters {getters : List (Place × Declaration)}
    (found : classGetters unit = .ok getters) {g : Place × Declaration × CallSignature}
    (member : g ∈ shownGetters getters) : g.2.1.signatureHides = false := by
  obtain ⟨cls, -, found⟩ := exists_of_bind_eq_ok found
  cases found
  obtain ⟨isGetter, isSignature, notHidden⟩ := of_mem_shownGetters member
  obtain ⟨-, isPublicAccessor⟩ := List.mem_filter.mp isGetter
  have kind : g.2.1.kind = .accessorDecl := by simp_all
  rw [Declaration.signatureHides, Declaration.documentingSignature?, kind]
  simpa [isSignature] using notHidden

theorem allShown_propertySubjects (unit : DocUnit) : AllShown (propertySubjects unit) := by
  unfold propertySubjects
  split
  · rename_i getters found
    split
    · exact Subject.allShown_nil
    · refine (Subject.allShown_text _ _).append (.flatMap fun g member => ?_)
      exact .withFields (signatureHides_of_mem_shownGetters found member) rfl
        fun e => visible_of_mem_nestedFields
  · exact Subject.allShown_nil

end Section

namespace Page

open Subject (AllShown)

variable {config : SiteConfig} {sdk units : List DocUnit} {unit : DocUnit}

theorem allShown_extraSubjects (units : List DocUnit) (es : List (String × String)) :
    AllShown (extraSubjects units es) := by
  induction es with
  | nil => exact Subject.allShown_nil
  | cons e es inductionHypothesis =>
    unfold extraSubjects
    split
    · exact Subject.allShown_nil
    · exact (Section.allShown_functionGroupSubjects _ _).append inductionHypothesis

theorem allShown_globalSubjects (config : SiteConfig) (units : List DocUnit) (unit : DocUnit) :
    AllShown (globalSubjects config units unit) :=
  (((Subject.allShown_text "" 0).append (Section.allShown_variableGroupSubjects unit _)).append
    (Section.allShown_functionGroupSubjects unit _)).append (allShown_extraSubjects units _)

theorem allShown_configSubjects (unit : DocUnit) : AllShown (configSubjects unit) :=
  (Subject.allShown_text "" 0).append ((Section.allShown_interfaceGroupSubjects unit _ _).append
    (Section.allShown_interfaceGroupSubjects unit _ _))

theorem allShown_helperSubjects (unit : DocUnit) : AllShown (helperSubjects unit) :=
  ((Subject.allShown_text "" 0).append (Section.allShown_functionGroupSubjects unit _)).append
    (Section.allShown_interfaceGroupSubjects unit _ _)

theorem allShown_moduleSubjects (rules : SdkRules) (s : DocUnit) :
    AllShown (moduleSubjects rules s) := by
  refine (AllShown.append ?_ (Section.allShown_functionGroupSubjects s _)).append
    (Section.allShown_interfaceGroupSubjects s _ _)
  split
  · exact Section.allShown_variableGroupSubjects s none
  · exact Subject.allShown_nil

theorem allShown_runtimeSubjects (rules : SdkRules) (module? : Option DocUnit) :
    AllShown (runtimeSubjects rules module?) := by
  cases module? with
  | none => exact Subject.allShown_nil
  | some s =>
    refine AllShown.append ?_ (allShown_moduleSubjects rules s)
    split
    · exact Subject.allShown_text "" 0
    · exact Subject.allShown_nil

theorem allShown_sdkSubjects (rules : SdkRules) (unit : DocUnit) (module? : Option DocUnit) :
    AllShown (sdkSubjects rules unit module?) := by
  have shown := ((Section.allShown_optionalSubjects "Links" (Section.links unit)).append
    (Section.allShown_optionalSubjects "Bindings" (Section.bindings unit))).append
    (allShown_runtimeSubjects rules module?)
  unfold sdkSubjects Section.linkSubjects Section.bindingSubjects
  dsimp only
  split
  · exact Subject.allShown_nil
  · exact (Subject.allShown_text "SDK" 2).append shown

theorem allShown_componentSubjects (config : SiteConfig) (sdk : List DocUnit) (unit : DocUnit) :
    AllShown (componentSubjects config sdk unit) := by
  unfold componentSubjects
  split
  · exact ((((((Subject.allShown_text "" 0).append (Subject.allShown_text "Constructor" 2)).append
      (Section.allShown_interfaceGroupSubjects unit _ _)).append
      (Section.allShown_propertySubjects unit)).append (allShown_sdkSubjects _ unit _)).append
      (Section.allShown_methodSubjects unit _)).append
      (Section.allShown_interfaceGroupSubjects unit _ _)
  · exact Subject.allShown_nil

theorem allShown_subjectsOf (config : SiteConfig) (sdk units : List DocUnit) (unit : DocUnit) :
    AllShown (subjectsOf config sdk units unit) := by
  unfold subjectsOf
  split
  · exact Subject.allShown_nil
  · split
    · exact Subject.allShown_nil
    · exact allShown_globalSubjects config units unit
    · exact allShown_configSubjects unit
    · exact allShown_helperSubjects unit
    · exact allShown_helperSubjects unit
    · exact allShown_componentSubjects config sdk unit

/-! ## All pages -/

/-- Each section of a page of a run is on one of the subjects of a unit. Where it documents a
hidden declaration, or links to a hidden nested field, that declaration has been overlooked. -/
theorem hidden_iff_overlooked (config : SiteConfig) (sdk units : List DocUnit)
    (only : Option String) (pages : List Page)
    (built : buildAll config sdk units only = .ok pages) :
    ∀ page ∈ pages, ∃ unit ∈ units,
      List.Forall₂ Subject.Describes (subjectsOf config sdk units unit) page.sections ∧
      ∀ subject ∈ subjectsOf config sdk units unit,
        (∀ d, subject.declaration? = some d → (d.HiddenSomewhere ↔ subject.Overlooks)) ∧
        ∀ e ∈ subject.listed, e.field.HiddenSomewhere ↔ (Subject.field e).Overlooks := by
  intro page member
  obtain ⟨unit, isUnit, ofUnit⟩ := exists_of_mem_buildAll built member
  refine ⟨unit, isUnit, describes_ofUnit? ofUnit, fun subject isSubject => ?_⟩
  obtain ⟨isShown, visible⟩ := allShown_subjectsOf config sdk units unit subject isSubject
  refine ⟨fun d isAbout => isShown.hidden_iff isAbout, fun e isListed => ?_⟩
  have fieldShown : (Subject.field e).IsShown := visible e isListed
  exact fieldShown.hidden_iff rfl

/-- A method whose signature has a comment that marks it as internal. -/
def resetMethod : Declaration :=
  { Declaration.bare "reset" .methodDecl none [] with
    signatures :=
      [{ name := .text "reset"
         parameters := []
         result := some (.primitive (.text "void"))
         comment := some ⟨[], [], TagSet.ofList ["@internal"]⟩ }] }

def settings : Declaration := .bare "Config" .interfaceDecl none [.url, resetMethod]

def settingsUnit : DocUnit where
  name := .text "config"
  declarations := [settings]
  sourcePath := some (.text "platform/src/config.ts")
  comment := some ⟨[], [], TagSet.empty⟩

theorem subjectsOf_settingsUnit : subjectsOf .standard [] [settingsUnit] settingsUnit =
    [.text "" 0, .interface settings, .member .url [], .member resetMethod []] := rfl

theorem resetMethod_mem_subjectsOf : Subject.member resetMethod [] ∈
    subjectsOf .standard [] [settingsUnit] settingsUnit := by
  simp [subjectsOf_settingsUnit]

theorem signatureHides_resetMethod : resetMethod.signatureHides = true := by decide

theorem settings_page_titled :
    (buildAll .standard [] [settingsUnit] none).map (List.map Page.title) = .ok ["Config"] := rfl

theorem exists_settings_page : ∃ page, buildAll .standard [] [settingsUnit] none = .ok [page] := by
  obtain ⟨pages, built, titles⟩ := exists_of_map_eq_ok settings_page_titled
  obtain ⟨page, rfl, -⟩ := List.map_eq_singleton_iff.mp titles
  exact ⟨page, built⟩

/-- The page of the configuration is built, and the method in it is overlooked. -/
theorem hidden_iff_overlooked_settings :
    ∃ page, buildAll .standard [] [settingsUnit] none = .ok [page] ∧
      List.Forall₂ Subject.Describes (subjectsOf .standard [] [settingsUnit] settingsUnit)
        page.sections ∧
      Subject.member resetMethod [] ∈ subjectsOf .standard [] [settingsUnit] settingsUnit ∧
      (Subject.member resetMethod []).Overlooks := by
  obtain ⟨page, built⟩ := exists_settings_page
  obtain ⟨unit, isUnit, describes, overlooked⟩ :=
    hidden_iff_overlooked .standard [] [settingsUnit] none [page] built page List.mem_cons_self
  cases List.mem_singleton.mp isUnit
  refine ⟨page, built, describes, resetMethod_mem_subjectsOf, ?_⟩
  have hidden_iff := (overlooked _ resetMethod_mem_subjectsOf).1 resetMethod rfl
  exact hidden_iff.mp (.inr signatureHides_resetMethod)

/-- A page can have a section on a method that is internal, under the title of the method. -/
theorem internal_method_documented :
    ∃ page s, buildAll .standard [] [settingsUnit] none = .ok [page] ∧ s ∈ page.sections ∧
      s.title = "reset" ∧ (Subject.member resetMethod []).Describes s ∧
      resetMethod.HiddenSomewhere := by
  obtain ⟨page, built⟩ := exists_settings_page
  obtain ⟨unit, isUnit, ofUnit⟩ := exists_of_mem_buildAll built List.mem_cons_self
  cases List.mem_singleton.mp isUnit
  obtain ⟨s, isSection, describes⟩ := Subject.exists_describes (describes_ofUnit? ofUnit)
    resetMethod_mem_subjectsOf
  exact ⟨page, s, built, isSection, describes.title_eq, describes, .inr signatureHides_resetMethod⟩

end Page

end DocPress
