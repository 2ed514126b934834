import DocPress.Proofs.SectionAnchors

/-! # What sections are about

Each section of a page documents one declaration, or it is an introduction or a heading. What a
group of sections is about can be told from the unit alone, without compiling anything.

* `Subject`: what one section is about.
* `Subject.Describes`: a section with the title and the level of a subject, which links to the
  nested fields of the subject.
* `Section.Outlines`: a computation whose sections are about some subjects, in order. There is one
  lemma for each group of sections.

For each group, a definition that ends in `Subjects` tells the subjects of its sections, by the
recursion and the filters of the group but without its texts. -/

set_option autoImplicit false

namespace DocPress

/-- What a section is about. -/
inductive Subject where
  | text (title : String) (level : Int)
  | var (v : Declaration) (nested : List FieldEntry)
  | function (f : Declaration)
  | interface (i : Declaration)
  | object (i : Declaration) (nested : List FieldEntry)
  | member (m : Declaration) (nested : List FieldEntry)
  | property (g : Declaration) (s : CallSignature) (nested : List FieldEntry)
  | method (m : Declaration)
  | field (e : FieldEntry)

namespace Subject

def title : Subject → String
  | text title _ => title
  | var v _ => v.displayName
  | function f => f.displayName
  | interface i | object i _ => i.name.display
  | member m _ => if m.kind = .methodDecl then Section.methodTitle m else m.displayName
  | property g _ _ => g.displayName
  | method m => Section.methodTitle m
  | field e => e.field.displayName

def level : Subject → Int
  | text _ level => level
  | interface _ => 2
  | var _ _ | function _ | object _ _ | member _ _ | property _ _ _ | method _ => 3
  | field e => Section.nestedLevel e.depth

def declaration? : Subject → Option Declaration
  | text _ _ => none
  | var d _ | function d | interface d | object d _ | member d _ | property d _ _
  | method d => some d
  | field e => some e.field

/-- The nested fields that the section on a subject links to. -/
def listed : Subject → List FieldEntry
  | var _ nested | object _ nested | member _ nested | property _ _ nested => nested
  | text _ _ | function _ | interface _ | method _ | field _ => []

end Subject

namespace Section

/-- Lines among which there is one for each of some nested fields, in order and one after another,
that links to the section of the field. -/
def Lists (entries : List FieldEntry) (body : List String) : Prop :=
  ∃ before links after, body = before ++ links ++ after ∧
    List.Forall₂ (fun e line => ∃ anchor type, line = bulletLine e anchor type) entries links

theorem lists_nil (body : List String) : Lists [] body := ⟨[], [], body, rfl, .nil⟩

theorem Lists.append {entries : List FieldEntry} {body : List String} (lists : Lists entries body)
    (rest : List String) : Lists entries (body ++ rest) := by
  obtain ⟨before, links, after, rfl, linked⟩ := lists
  exact ⟨before, links, after ++ rest, by simp, linked⟩

theorem Lists.prepend {entries : List FieldEntry} {body : List String} (lists : Lists entries body)
    (first : List String) : Lists entries (first ++ body) := by
  obtain ⟨before, links, after, rfl, linked⟩ := lists
  exact ⟨first ++ before, links, after, by simp, linked⟩

end Section

structure Subject.Describes (subject : Subject) (s : Section) : Prop where
  title_eq : s.title = subject.title
  level_eq : s.level = subject.level
  lists : Section.Lists subject.listed s.body

/-- There is a section on each subject. -/
theorem Subject.exists_describes {subjects : List Subject} {sections : List Section}
    (described : List.Forall₂ Subject.Describes subjects sections) {subject : Subject}
    (member : subject ∈ subjects) : ∃ s ∈ sections, subject.Describes s := by
  induction described with
  | nil => contradiction
  | @cons _ s _ sections describes _ inductionHypothesis =>
    rcases List.mem_cons.mp member with rfl | isOther
    · exact ⟨s, List.mem_cons_self, describes⟩
    · obtain ⟨other, isSection, describes⟩ := inductionHypothesis isOther
      exact ⟨other, List.mem_cons_of_mem s isSection, describes⟩

theorem Subject.map_level_of_describes {subjects : List Subject} {sections : List Section}
    (described : List.Forall₂ Subject.Describes subjects sections) :
    sections.map Section.level = subjects.map Subject.level := by
  induction described with
  | nil => rfl
  | cons first _ inductionHypothesis =>
    rw [List.map_cons, List.map_cons, first.level_eq, inductionHypothesis]

namespace Section

/-- A computation that, where it succeeds, gives one section on each of some subjects, in order. -/
def Outlines (c : Compile (List Section)) (subjects : List Subject) : Prop :=
  ∀ registry sections final, c.run registry = (.ok sections, final) →
    List.Forall₂ Subject.Describes subjects sections

theorem Outlines.nil : Outlines (pure []) [] := by
  intro registry sections final compiled
  cases compiled
  exact .nil

theorem Outlines.append {c d : Compile (List Section)} {first rest : List Subject}
    (ofFirst : Outlines c first) (ofRest : Outlines d rest) :
    Outlines (do let sections ← c; let others ← d; return sections ++ others) (first ++ rest) := by
  intro registry sections final compiled
  obtain ⟨sections, between, left, compiled⟩ := Compile.exists_of_run_bind compiled
  obtain ⟨others, final, right, compiled⟩ := Compile.exists_of_run_bind compiled
  cases compiled
  exact List.rel_append (ofFirst _ _ _ left) (ofRest _ _ _ right)

/-- Sections about nothing but texts. -/
theorem Outlines.lift {x : Except Fault (List Section)} {subjects : List Subject}
    (describes : ∀ sections, x = .ok sections → List.Forall₂ Subject.Describes subjects sections) :
    Outlines (liftM x) subjects := by
  intro registry sections final compiled
  rw [Compile.run_lift, Prod.mk.injEq] at compiled
  exact describes sections compiled.1

theorem describes_text {s : Section} {title : String} {level : Int} (title_eq : s.title = title)
    (level_eq : s.level = level) : (Subject.text title level).Describes s :=
  ⟨title_eq, level_eq, lists_nil s.body⟩

/-! ## Nested fields -/

variable {unit : DocUnit}

theorem lists_of_typeBlock {place : Place} {o : Documented} {name : String}
    {registry final : Anchors Place} {lines : List String}
    (shown : (typeBlock unit place o name).run registry = (.ok lines, final)) :
    Lists (nestedFields place o name) lines := by
  unfold typeBlock at shown
  obtain ⟨type, -, shown⟩ := Compile.exists_of_run_lift_bind shown
  obtain ⟨links, between, listed, shown⟩ := Compile.exists_of_run_bind shown
  cases shown
  refine ⟨_, links, _, rfl, (bullets_of_run listed).2.imp ?_⟩
  rintro e line ⟨anchor, type, -, isBullet⟩
  exact ⟨anchor, type, isBullet⟩

theorem describes_of_ofEntry {e : FieldEntry} {anchor : String} {s : Section}
    (compiled : ofEntry unit e anchor = .ok [s]) : (Subject.field e).Describes s := by
  obtain ⟨type, body, -, only⟩ := exists_of_ofEntry compiled
  cases only
  exact ⟨rfl, rfl, lists_nil body⟩

theorem describes_nestedSections {place : Place} {o : Documented} {name : String}
    {registry final : Anchors Place} {nested : List Section}
    (compiled : (nestedSections unit place o name).run registry = (.ok nested, final)) :
    List.Forall₂ Subject.Describes ((nestedFields place o name).map .field) nested := by
  rw [List.forall₂_map_left_iff]
  refine (sections_of_run compiled).2.imp ?_
  rintro e s ⟨anchor, -, ofEntry⟩
  exact describes_of_ofEntry ofEntry

/-! ## Functions and methods -/

def headingSubjects (title : Option String) : List Subject :=
  match title with
  | none => []
  | some t => if t = "" then [] else [.text t 2]

theorem describes_groupHeading (title : Option String) :
    List.Forall₂ Subject.Describes (headingSubjects title) (groupHeading title) := by
  cases title with
  | none => exact .nil
  | some t =>
    by_cases isEmpty : t = ""
    · simp [headingSubjects, groupHeading, isEmpty]
    · simp only [headingSubjects, groupHeading, isEmpty, ↓reduceIte]
      exact .cons (describes_text rfl rfl) .nil

theorem describes_of_ofFunction {qualifier : String} {f : Declaration} {s : Section}
    (compiled : ofFunction unit qualifier f = .ok s) : (Subject.function f).Describes s := by
  obtain ⟨signature, -, compiled⟩ := exists_of_bind_eq_ok compiled
  obtain ⟨shown, -, compiled⟩ := exists_of_bind_eq_ok compiled
  obtain ⟨parameters, -, compiled⟩ := exists_of_bind_eq_ok compiled
  obtain ⟨returns, -, compiled⟩ := exists_of_bind_eq_ok compiled
  obtain ⟨description, -, compiled⟩ := exists_of_bind_eq_ok compiled
  obtain ⟨examples, -, compiled⟩ := exists_of_bind_eq_ok compiled
  cases compiled
  exact ⟨rfl, rfl, lists_nil _⟩

def functionGroupSubjects (fs : List Declaration) (title : Option String) : List Subject :=
  if fs.isEmpty then [] else headingSubjects title ++ fs.map .function

theorem describes_functionGroup {fs : List Declaration} {title within : Option String}
    {sections : List Section} (compiled : functionGroup unit fs title within = .ok sections) :
    List.Forall₂ Subject.Describes (functionGroupSubjects fs title) sections := by
  unfold functionGroup at compiled
  unfold functionGroupSubjects
  split at compiled
  · rename_i isEmpty
    cases compiled
    rw [if_pos isEmpty]
    exact .nil
  · rename_i nonempty
    obtain ⟨functions, mapped, compiled⟩ := exists_of_bind_eq_ok compiled
    cases compiled
    rw [if_neg nonempty]
    refine List.rel_append (describes_groupHeading title) ?_
    rw [List.forall₂_map_left_iff]
    exact (forall₂_of_mapM_eq_ok mapped).imp fun f s => describes_of_ofFunction

theorem describes_of_ofMethod {method : Declaration} {title parametersTitle : String}
    {level : Int} {anchor parent : Option String} {sections : List Section} {subject : Subject}
    (isMethod : method.kind = .methodDecl) (title_eq : title = subject.title)
    (level_eq : level = subject.level) (listed_eq : subject.listed = [])
    (compiled : ofMethod unit method title level anchor parent parametersTitle = .ok sections) :
    List.Forall₂ Subject.Describes [subject] sections := by
  obtain ⟨s, type, body, -, -, rfl⟩ := exists_of_ofMethod isMethod compiled
  exact .cons ⟨title_eq, level_eq, listed_eq ▸ lists_nil body⟩ .nil

theorem kind_of_mem_classMethods {builders : BuilderMethods} {ms : List Declaration}
    (found : classMethods unit builders = .ok ms) {m : Declaration} (member : m ∈ ms) :
    m.kind = .methodDecl ∧ isShownMethod m = true := by
  obtain ⟨cls, -, found⟩ := exists_of_bind_eq_ok found
  cases found
  have isShown : m ∈ (cls.childrenOfKind .methodDecl).filter isShownMethod := by
    rcases List.mem_append.mp member with isBuilder | isOther
    · exact List.mem_of_mem_filter isBuilder
    · exact List.mem_of_mem_filter isOther
  obtain ⟨isMethod, isShown⟩ := List.mem_filter.mp isShown
  exact ⟨of_decide_eq_true (List.mem_filter.mp isMethod).2, isShown⟩

def methodSubjects (unit : DocUnit) (builders : BuilderMethods) : List Subject :=
  match classMethods unit builders with
  | .ok ms => if ms.isEmpty then [] else .text "Methods" 2 :: ms.map .method
  | .error _ => []

theorem describes_flatten {α : Type} {subject : α → Subject} {xs : List α}
    {groups : List (List Section)}
    (each : List.Forall₂ (fun x group => List.Forall₂ Subject.Describes [subject x] group) xs
      groups) : List.Forall₂ Subject.Describes (xs.map subject) groups.flatten := by
  induction each with
  | nil => exact .nil
  | cons first _ inductionHypothesis => exact List.rel_append first inductionHypothesis

theorem describes_methods {builders : BuilderMethods} {sections : List Section}
    (compiled : methods unit builders = .ok sections) :
    List.Forall₂ Subject.Describes (methodSubjects unit builders) sections := by
  obtain ⟨ms, found, compiled⟩ := exists_of_bind_eq_ok compiled
  simp only [methodSubjects, found]
  split at compiled
  · rename_i isEmpty
    cases compiled
    rw [if_pos isEmpty]
    exact .nil
  · rename_i nonempty
    obtain ⟨groups, mapped, compiled⟩ := exists_of_bind_eq_ok compiled
    cases compiled
    rw [if_neg nonempty]
    -- the section of a method is known only from the kind, which the filter has looked at
    refine .cons (describes_text rfl rfl) (describes_flatten ?_)
    have related := forall₂_of_mapM_eq_ok mapped
    rw [List.forall₂_iff_get] at related ⊢
    refine ⟨related.1, fun i inMethods inGroups => ?_⟩
    exact describes_of_ofMethod (kind_of_mem_classMethods found (List.get_mem _ _)).1 rfl rfl rfl
      (related.2 i inMethods inGroups)

theorem describes_constructorSection {sections : List Section}
    (compiled : constructorSection unit = .ok sections) :
    List.Forall₂ Subject.Describes [.text "Constructor" 2] sections := by
  obtain ⟨cls, -, compiled⟩ := exists_of_bind_eq_ok compiled
  split at compiled
  · cases compiled
  · obtain ⟨signature, -, compiled⟩ := exists_of_bind_eq_ok compiled
    obtain ⟨shown, -, compiled⟩ := exists_of_bind_eq_ok compiled
    obtain ⟨parameters, -, compiled⟩ := exists_of_bind_eq_ok compiled
    cases compiled
    exact .cons (describes_text rfl rfl) .nil

theorem describes_about {comment : DocComment} {sections : List Section}
    (compiled : about comment = .ok sections) :
    List.Forall₂ Subject.Describes [.text "" 0] sections := by
  obtain ⟨summary, -, compiled⟩ := exists_of_bind_eq_ok compiled
  obtain ⟨examples, -, compiled⟩ := exists_of_bind_eq_ok compiled
  cases compiled
  exact .cons (describes_text rfl rfl) .nil

/-! ## Links and bindings -/

/-- What a computation that gives no more than one section is about. -/
def optionalSubjects (title : String) : Except Fault (List Section) → List Subject
  | .ok (_ :: _) => [.text title 3]
  | .ok [] | .error _ => []

theorem describes_optional {x : Except Fault (List Section)} {title : String}
    {sections : List Section} (compiled : x = .ok sections)
    (optional : sections = [] ∨ ∃ body, sections = [{ title, level := 3, body }]) :
    List.Forall₂ Subject.Describes (optionalSubjects title x) sections := by
  rw [compiled]
  rcases optional with rfl | ⟨body, rfl⟩
  · exact .nil
  · exact .cons (describes_text rfl rfl) .nil

def linkSubjects (unit : DocUnit) : List Subject := optionalSubjects "Links" (links unit)

theorem describes_links {sections : List Section} (compiled : links unit = .ok sections) :
    List.Forall₂ Subject.Describes (linkSubjects unit) sections := by
  refine describes_optional compiled ?_
  obtain ⟨link, -, linked⟩ := exists_of_bind_eq_ok compiled
  split at linked
  · dsimp only at linked
    split at linked
    · cases linked
      exact .inl rfl
    · obtain ⟨getters, -, linked⟩ := exists_of_bind_eq_ok linked
      obtain ⟨lines, -, linked⟩ := exists_of_bind_eq_ok linked
      cases linked
      exact .inr ⟨_, rfl⟩
  · cases linked
    exact .inl rfl

def bindingSubjects (unit : DocUnit) : List Subject := optionalSubjects "Bindings" (bindings unit)

theorem describes_bindings {sections : List Section} (compiled : bindings unit = .ok sections) :
    List.Forall₂ Subject.Describes (bindingSubjects unit) sections := by
  refine describes_optional compiled ?_
  obtain ⟨included, -, bound⟩ := exists_of_bind_eq_ok compiled
  obtain ⟨signature, -, bound⟩ := exists_of_bind_eq_ok bound
  split at bound
  · split at bound
    · obtain ⟨description, -, bound⟩ := exists_of_bind_eq_ok bound
      obtain ⟨examples, -, bound⟩ := exists_of_bind_eq_ok bound
      cases bound
      exact .inr ⟨_, rfl⟩
    · cases bound
      exact .inl rfl
  · cases bound
    exact .inl rfl

/-! ## Interfaces -/

def memberSubjects (m : Place × Declaration) : List Subject :=
  if m.2.isHidden then []
  else
    match m.2.kind with
    | .propertyDecl => .member m.2 (memberFields m) :: (memberFields m).map .field
    | .methodDecl => [.member m.2 []]
    | _ => []

theorem memberSubjects_of_property {m : Place × Declaration} (own : m.2.isHidden = false)
    (isProperty : m.2.kind = .propertyDecl) : memberSubjects m =
      .member m.2 (nestedFields (.type :: m.1) m.2.documented m.2.name.display) ::
        (nestedFields (.type :: m.1) m.2.documented m.2.name.display).map .field := by
  simp [memberSubjects, memberFields, own, isProperty]

theorem memberSubjects_of_method {m : Place × Declaration} (own : m.2.isHidden = false)
    (isMethod : m.2.kind = .methodDecl) : memberSubjects m = [.member m.2 []] := by
  simp [memberSubjects, own, isMethod]

theorem memberSubjects_of_other {m : Place × Declaration} (notProperty : m.2.kind ≠ .propertyDecl)
    (notMethod : m.2.kind ≠ .methodDecl) : memberSubjects m = [] := by
  unfold memberSubjects
  split
  · rfl
  · split
    · contradiction
    · contradiction
    · rfl

theorem outlines_ofMember (m : Place × Declaration) :
    Outlines (ofMember unit m.1 m.2) (memberSubjects m) := by
  unfold ofMember
  split
  · rename_i hidden
    rw [memberSubjects, if_pos hidden]
    exact .nil
  · rename_i notHidden
    have own : m.2.isHidden = false := by simpa using notHidden
    split
    · rename_i isProperty
      rw [memberSubjects_of_property own isProperty]
      intro registry sections final compiled
      obtain ⟨type, between, block, compiled⟩ := Compile.exists_of_run_bind compiled
      obtain ⟨default, -, compiled⟩ := Compile.exists_of_run_lift_bind compiled
      obtain ⟨description, -, compiled⟩ := Compile.exists_of_run_lift_bind compiled
      obtain ⟨examples, -, compiled⟩ := Compile.exists_of_run_lift_bind compiled
      obtain ⟨nested, last, ofNested, compiled⟩ := Compile.exists_of_run_bind compiled
      cases compiled
      -- the links stand in the lines on the type, which other lines enclose
      have lists := (lists_of_typeBlock block).prepend ["<Segment>"]
      refine .cons ⟨?_, rfl, ?_⟩ (describes_nestedSections ofNested)
      · simp [Subject.title, isProperty]
      · exact ((((lists.append default).append description).append [""]).append examples).append _
    · rename_i isMethod
      rw [memberSubjects_of_method own isMethod]
      refine .lift fun sections compiled => ?_
      exact describes_of_ofMethod isMethod (by simp [Subject.title, isMethod]) rfl rfl compiled
    · rename_i notProperty notMethod
      rw [memberSubjects_of_other notProperty notMethod]
      exact .nil

def interfaceSubjects (asObjects : Bool) (i : Place × Declaration) : List Subject :=
  if asObjects then
    .object i.2 (interfaceFields true i) :: (interfaceFields true i).map .field
  else .interface i.2 :: (i.2.located i.1).flatMap memberSubjects

theorem outlines_ofMembers (ms : List (Place × Declaration)) :
    Outlines (ofMembers unit ms) (ms.flatMap memberSubjects) := by
  induction ms with
  | nil => exact .nil
  | cons m ms inductionHypothesis => exact (outlines_ofMember m).append inductionHypothesis

theorem outlines_ofInterface (i : Place × Declaration) :
    Outlines (ofInterface unit i.1 i.2) (interfaceSubjects false i) := by
  intro registry sections final compiled
  unfold ofInterface at compiled
  split at compiled
  · cases compiled
  · obtain ⟨intro, -, compiled⟩ := Compile.exists_of_run_lift_bind compiled
    obtain ⟨members, last, ofMembers, compiled⟩ := Compile.exists_of_run_bind compiled
    cases compiled
    exact .cons ⟨rfl, rfl, lists_nil _⟩ (outlines_ofMembers _ _ _ _ ofMembers)

theorem outlines_ofObjectInterface (i : Place × Declaration) :
    Outlines (ofObjectInterface unit i.1 i.2) (interfaceSubjects true i) := by
  intro registry sections final compiled
  obtain ⟨type, between, block, compiled⟩ := Compile.exists_of_run_bind compiled
  obtain ⟨nested, last, ofNested, compiled⟩ := Compile.exists_of_run_bind compiled
  cases compiled
  have lists := (lists_of_typeBlock block).prepend ["<Segment>"]
  exact .cons ⟨rfl, rfl, lists.append _⟩ (describes_nestedSections ofNested)

def interfaceGroupSubjects (unit : DocUnit) (accepts : Declaration → Bool) (asObjects : Bool) :
    List Subject :=
  (shownInterfaces unit accepts).flatMap (interfaceSubjects asObjects)

theorem outlines_ofInterfaces (asObjects : Bool) (is : List (Place × Declaration)) :
    Outlines (ofInterfaces unit asObjects is) (is.flatMap (interfaceSubjects asObjects)) := by
  induction is with
  | nil => exact .nil
  | cons i is inductionHypothesis =>
    cases asObjects with
    | false => exact (outlines_ofInterface i).append inductionHypothesis
    | true => exact (outlines_ofObjectInterface i).append inductionHypothesis

theorem outlines_interfaceGroup (accepts : Declaration → Bool) (asObjects : Bool) :
    Outlines (interfaceGroup unit accepts asObjects)
      (interfaceGroupSubjects unit accepts asObjects) :=
  outlines_ofInterfaces asObjects _

/-! ## Variables -/

def variableSubjects (unit : DocUnit) (v : Place × Declaration) : List Subject :=
  .var v.2 (variableFields unit v) :: (variableFields unit v).map .field

theorem outlines_ofVariable (v : Place × Declaration) :
    Outlines (ofVariable unit v.1 v.2) (variableSubjects unit v) := by
  unfold ofVariable variableSubjects variableFields
  rcases documentedVariable unit v.1 v.2 with ⟨place, shown⟩
  intro registry sections final compiled
  obtain ⟨type, between, block, compiled⟩ := Compile.exists_of_run_bind compiled
  obtain ⟨description, -, compiled⟩ := Compile.exists_of_run_lift_bind compiled
  obtain ⟨examples, -, compiled⟩ := Compile.exists_of_run_lift_bind compiled
  obtain ⟨nested, last, ofNested, compiled⟩ := Compile.exists_of_run_bind compiled
  cases compiled
  have lists := (lists_of_typeBlock block).prepend ["<Segment>"]
  refine .cons ⟨rfl, rfl, ?_⟩ (describes_nestedSections ofNested)
  exact ((lists.append description).append examples).append _

theorem outlines_ofVariables (vs : List (Place × Declaration)) :
    Outlines (ofVariables unit vs) (vs.flatMap (variableSubjects unit)) := by
  induction vs with
  | nil => exact .nil
  | cons v vs inductionHypothesis => exact (outlines_ofVariable v).append inductionHypothesis

def variableGroupSubjects (unit : DocUnit) (title : Option String) : List Subject :=
  if (shownVariables unit).isEmpty then []
  else headingSubjects title ++ (shownVariables unit).flatMap (variableSubjects unit)

theorem outlines_variableGroup (title : Option String) :
    Outlines (variableGroup unit title) (variableGroupSubjects unit title) := by
  unfold variableGroup variableGroupSubjects
  split
  · exact .nil
  · intro registry sections final compiled
    obtain ⟨shown, last, ofVariables, compiled⟩ := Compile.exists_of_run_bind compiled
    cases compiled
    exact List.rel_append (describes_groupHeading title) (outlines_ofVariables _ _ _ _ ofVariables)

/-! ## Properties -/

def getterSubjects (g : Place × Declaration × CallSignature) : List Subject :=
  .property g.2.1 g.2.2 (getterFields g) :: (getterFields g).map .field

theorem outlines_ofGetter (g : Place × Declaration × CallSignature) :
    Outlines (ofGetter unit g.1 g.2.1 g.2.2) (getterSubjects g) := by
  intro registry sections final compiled
  obtain ⟨type, between, block, compiled⟩ := Compile.exists_of_run_bind compiled
  obtain ⟨description, -, compiled⟩ := Compile.exists_of_run_lift_bind compiled
  obtain ⟨nested, last, ofNested, compiled⟩ := Compile.exists_of_run_bind compiled
  cases compiled
  have lists := (lists_of_typeBlock block).prepend ["<Segment>"]
  exact .cons ⟨rfl, rfl, (lists.append description).append _⟩ (describes_nestedSections ofNested)

theorem outlines_ofGetters (gs : List (Place × Declaration × CallSignature)) :
    Outlines (ofGetters unit gs) (gs.flatMap getterSubjects) := by
  induction gs with
  | nil => exact .nil
  | cons g gs inductionHypothesis => exact (outlines_ofGetter g).append inductionHypothesis

def propertySubjects (unit : DocUnit) : List Subject :=
  match classGetters unit with
  | .ok getters =>
    if (shownGetters getters).isEmpty then []
    else .text "Properties" 2 :: (shownGetters getters).flatMap getterSubjects
  | .error _ => []

theorem outlines_properties : Outlines (properties unit) (propertySubjects unit) := by
  intro registry sections final compiled
  unfold properties at compiled
  obtain ⟨getters, found, compiled⟩ := Compile.exists_of_run_lift_bind compiled
  simp only [propertySubjects, found]
  dsimp only at compiled
  split at compiled
  · rename_i isEmpty
    cases compiled
    rw [if_pos isEmpty]
    exact .nil
  · rename_i nonempty
    obtain ⟨shown, last, ofGetters, compiled⟩ := Compile.exists_of_run_bind compiled
    cases compiled
    rw [if_neg nonempty]
    exact .cons (describes_text rfl rfl) (outlines_ofGetters _ _ _ _ ofGetters)

end Section

end DocPress
