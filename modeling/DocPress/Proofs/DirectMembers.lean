import DocPress.Proofs.ComponentBlocks
import DocPress.Proofs.FieldTree

/-! # The direct members of an interface

An interface is shown in one of two forms: under a heading of its own, with a section of level three
for each member, or as one object, with a section of level four for each field that is not nested in
another. Both forms leave out hidden members. The object shows all others, the heading only
properties and methods, so the two document the same members if and only if the interface has no
visible member of another kind, such as an accessor.

* `Section.SameMembers`: the two forms of an interface document the same members in the same order.
* `Section.HasForms`: what each form documents.
* `Section.sameMembers_iff_of_interfaces`: when the two forms agree. -/

set_option autoImplicit false

namespace DocPress

namespace Section

variable {unit : DocUnit}

/-! ## What the two forms document -/

/-- A section that comes first in what is compiled for a member under the heading of its
interface. -/
def HeadsMember (unit : DocUnit) (m : Place × Declaration) (s : Section) : Prop :=
  ∃ below, (ofMember unit m.1 m.2).CanGive (s :: below)

/-- The section of a member of an interface that is shown as one object: that of a field at the
first level, under the name of the interface. -/
def ShowsMember (unit : DocUnit) (i : Declaration) (m : Place × Declaration) (s : Section) : Prop :=
  ∃ anchor, ofEntry unit ⟨0, i.name.display, m.1, m.2⟩ anchor = .ok [s]

/-- The sections of level three of the one form and those of level four of the other are on the same
members of an interface at a place, in the order of the members. -/
def SameMembers (unit : DocUnit) (i : Place × Declaration) (headed object : List Section) : Prop :=
  ∃ ms, ms.Sublist (i.2.located i.1) ∧
    List.Forall₂ (HeadsMember unit) ms (headed.filter fun s => s.level = 3) ∧
    List.Forall₂ (ShowsMember unit i.2) ms (object.filter fun s => s.level = 4)

def isHeaded (m : Place × Declaration) : Bool :=
  !m.2.isHidden && (m.2.kind = .propertyDecl || m.2.kind = .methodDecl)

/-- The two forms of an interface at a place, and the members that each documents. -/
structure HasForms (unit : DocUnit) (i : Place × Declaration) (headed object : List Section) :
    Prop where
  isHeaded : IsBlock i.2.name.display 2 headed
  isObject : IsBlock i.2.name.display 3 object
  headsMembers : List.Forall₂ (HeadsMember unit) ((i.2.located i.1).filter Section.isHeaded)
    (headed.filter fun s => s.level = 3)
  showsMembers : List.Forall₂ (ShowsMember unit i.2)
    ((i.2.located i.1).filter fun m => !m.2.isHidden) (object.filter fun s => s.level = 4)

/-! ## Members under a heading -/

/-- What is selected from blocks belongs to the items that are kept, if this holds of each block. -/
theorem forall₂_filter_flatten {α β : Type} {R : α → β → Prop} {keeps : α → Bool}
    {selects : β → Bool} {xs : List α} {blocks : List (List β)}
    (each : List.Forall₂ (fun x block => List.Forall₂ R ([x].filter keeps) (block.filter selects))
      xs blocks) : List.Forall₂ R (xs.filter keeps) (blocks.flatten.filter selects) := by
  induction each with
  | nil => exact .nil
  | @cons x block xs blocks first _ inductionHypothesis =>
    rw [List.flatten_cons, List.filter_append, ← List.singleton_append, List.filter_append]
    exact List.rel_append first inductionHypothesis

theorem IsBlock.exists_filter_eq {title : String} {level : Int} {block : List Section}
    (isBlock : IsBlock title level block) :
    ∃ head below, block = head :: below ∧ block.filter (fun s => s.level = level) = [head] := by
  cases isBlock with
  | @intro head below title_eq level_eq deeper =>
    have noneBelow : below.filter (fun s => s.level = level) = [] := by
      refine List.filter_eq_nil_iff.mpr fun s member => ?_
      simpa using Int.ne_of_gt (deeper s member)
    exact ⟨head, below, rfl, by
      rw [List.filter_cons_of_pos (by simpa using level_eq), noneBelow]⟩

/-- The sections of a headed member are on the member and, below it, on its nested fields. -/
theorem memberSubjects_of_isHeaded {m : Place × Declaration} (headed : isHeaded m = true) :
    ∃ nested, memberSubjects m = .member m.2 nested :: nested.map .field := by
  simp only [isHeaded, Bool.and_eq_true, Bool.not_eq_true', Bool.or_eq_true,
    decide_eq_true_eq] at headed
  obtain ⟨visible, isProperty | isMethod⟩ := headed
  · exact ⟨_, memberSubjects_of_property visible isProperty⟩
  · exact ⟨[], memberSubjects_of_method visible isMethod⟩

theorem memberSubjects_of_not_isHeaded {m : Place × Declaration} (notHeaded : ¬ isHeaded m = true) :
    memberSubjects m = [] := by
  by_cases hidden : m.2.isHidden = true
  · rw [memberSubjects, if_pos hidden]
  · simp only [isHeaded, Bool.and_eq_true, Bool.not_eq_true', Bool.or_eq_true, decide_eq_true_eq,
      hidden, true_and, not_or] at notHeaded
    exact memberSubjects_of_other notHeaded.1 notHeaded.2

/-- A member that is headed has one section of level three, and no other member has one. -/
theorem headsMember_of_ofMember {m : Place × Declaration} {block : List Section}
    (gives : (ofMember unit m.1 m.2).CanGive block) :
    List.Forall₂ (HeadsMember unit) ([m].filter isHeaded)
      (block.filter fun s => s.level = 3) := by
  have described := (outlines_ofMember m).describes gives
  by_cases headed : isHeaded m = true
  · obtain ⟨nested, subjects⟩ := memberSubjects_of_isHeaded headed
    rw [subjects] at described
    have isBlock := isBlock_of_describes described fun _ => lt_level_of_mem_fields
    obtain ⟨head, below, rfl, only⟩ := isBlock.exists_filter_eq
    rw [List.filter_cons_of_pos headed]
    exact only ▸ .cons ⟨below, gives⟩ .nil
  · rw [memberSubjects_of_not_isHeaded headed] at described
    cases described
    rw [List.filter_cons_of_neg headed]
    exact .nil

theorem headsMembers_of_ofInterface {i : Place × Declaration} {headed : List Section}
    (gives : (ofInterface unit i.1 i.2).CanGive headed) :
    List.Forall₂ (HeadsMember unit) ((i.2.located i.1).filter isHeaded)
      (headed.filter fun s => s.level = 3) := by
  unfold ofInterface at gives
  split at gives
  · obtain ⟨_, failed, -⟩ := gives.exists_of_bind
    cases Compile.canGive_lift_iff.mp failed
  · obtain ⟨intro, -, gives⟩ := gives.exists_of_lift_bind
    obtain ⟨members, ofMembers, gives⟩ := gives.exists_of_bind
    cases Compile.canGive_pure_iff.mp gives
    rw [ofMembers_eq_concat] at ofMembers
    obtain ⟨blocks, rfl, compiled⟩ := Compile.exists_blocks_of_concat ofMembers
    rw [List.filter_cons_of_neg (by simp)]
    exact forall₂_filter_flatten (compiled.imp fun m block => headsMember_of_ofMember)

/-! ## Members of an object -/

/-- The fields at the first level of an object are its visible fields; all others are deeper. -/
theorem fieldsOf_filter_depth (ds : List Declaration) (place : Place) (path : String)
    (depth index : Nat) :
    (Declaration.fieldsOf place path depth index ds).filter (fun e => e.depth = depth) =
      (((ds.zipIdx index).map fun d => (Step.child d.2 :: place, d.1)).filter
        fun m => !m.2.isHidden).map fun m => ⟨depth, path, m.1, m.2⟩ := by
  induction ds generalizing index with
  | nil => rw [Declaration.fieldsOf]; rfl
  | cons d ds inductionHypothesis =>
    have noneNested : (d.nestedFields (.child index :: place) (path ++ "." ++ d.name.display)
        (depth + 1)).filter (fun e => e.depth = depth) = [] := by
      refine List.filter_eq_nil_iff.mpr fun e member => ?_
      have deeper := (Declaration.outline_nestedFields d _ _ _).1.depth_le e member
      simp only [decide_eq_true_eq]
      omega
    rw [Declaration.fieldsOf, List.filter_append, inductionHypothesis, List.zipIdx_cons,
      List.map_cons]
    by_cases hidden : d.isHidden = true
    · simp [hidden]
    · simp [hidden, noneNested]

theorem depth_eq_zero_iff {e : FieldEntry} {anchor : String} {s : Section}
    (compiled : ofEntry unit e anchor = .ok [s]) : e.depth = 0 ↔ s.level = 4 := by
  obtain ⟨type, body, -, only⟩ := exists_of_ofEntry compiled
  cases only
  cases e.depth <;> simp [nestedLevel]

/-- Each visible member has one section of level four, as a field at the first level. -/
theorem showsMembers_of_ofObjectInterface {i : Place × Declaration} {object : List Section}
    (gives : (ofObjectInterface unit i.1 i.2).CanGive object) :
    List.Forall₂ (ShowsMember unit i.2) ((i.2.located i.1).filter fun m => !m.2.isHidden)
      (object.filter fun s => s.level = 4) := by
  obtain ⟨type, -, gives⟩ := gives.exists_of_bind
  obtain ⟨nested, ⟨registry, final, ofNested⟩, gives⟩ := gives.exists_of_bind
  cases Compile.canGive_pure_iff.mp gives
  have compiled : List.Forall₂ (fun e s => ∃ anchor, ofEntry unit e anchor = .ok [s])
      (Declaration.fieldsOf i.1 i.2.name.display 0 0 i.2.children) nested := by
    refine (sections_of_run ofNested).2.imp ?_
    rintro e s ⟨anchor, -, ofEntry⟩
    exact ⟨anchor, ofEntry⟩
  rw [List.filter_cons_of_neg (by simp)]
  have selected := List.rel_filter (p := fun e => e.depth = 0) (q := fun s => s.level = 4)
    (fun e s ⟨_, ofEntry⟩ => by simpa using depth_eq_zero_iff ofEntry) compiled
  rwa [fieldsOf_filter_depth, List.forall₂_map_left_iff] at selected

/-! ## Both forms -/

theorem hasForms_of_canGive {i : Place × Declaration} {headed object : List Section}
    (ofHeaded : (ofInterface unit i.1 i.2).CanGive headed)
    (ofObject : (ofObjectInterface unit i.1 i.2).CanGive object) :
    HasForms unit i headed object where
  isHeaded := (isInterfaceBlock_of_ofInterface ofHeaded).1
  isObject := isBlock_of_describes ((outlines_ofObjectInterface i).describes ofObject)
    fun _ => lt_level_of_mem_fields
  headsMembers := headsMembers_of_ofInterface ofHeaded
  showsMembers := showsMembers_of_ofObjectInterface ofObject

/-- The members that are headed are all that are visible if these are properties and methods. -/
theorem filter_isHeaded_eq_iff (i : Place × Declaration) :
    (i.2.located i.1).filter isHeaded = (i.2.located i.1).filter (fun m => !m.2.isHidden) ↔
      ∀ m ∈ i.2.children, m.isHidden = false → m.kind = .propertyDecl ∨ m.kind = .methodDecl := by
  have children : (i.2.located i.1).map Prod.snd = i.2.children := map_snd_numbered i.1 _
  rw [← children, List.forall_mem_map]
  constructor
  · intro same m member visible
    have isVisible : m ∈ (i.2.located i.1).filter fun m => !m.2.isHidden :=
      List.mem_filter.mpr ⟨member, by simpa using visible⟩
    rw [← same] at isVisible
    simpa [isHeaded, visible] using (List.mem_filter.mp isVisible).2
  · intro documented
    refine List.filter_congr fun m member => ?_
    cases visible : m.2.isHidden with
    | true => simp [isHeaded, visible]
    | false => simpa [isHeaded, visible] using documented m member visible

/-- The two forms of an interface document the same members if and only if each of its visible
members is a property or a method. -/
theorem HasForms.sameMembers_iff {i : Place × Declaration} {headed object : List Section}
    (forms : HasForms unit i headed object) :
    SameMembers unit i headed object ↔ ∀ m ∈ i.2.children, m.isHidden = false →
      m.kind = .propertyDecl ∨ m.kind = .methodDecl := by
  rw [← filter_isHeaded_eq_iff]
  constructor
  · rintro ⟨ms, -, heads, shows_⟩
    -- each form has as many sections on members as there are members, so the numbers agree
    have lengths : ((i.2.located i.1).filter Section.isHeaded).length =
        ((i.2.located i.1).filter fun m => !m.2.isHidden).length := by
      rw [forms.headsMembers.length_eq, ← heads.length_eq, shows_.length_eq,
        forms.showsMembers.length_eq]
    have headedOnly : (i.2.located i.1).filter Section.isHeaded =
        ((i.2.located i.1).filter fun m => !m.2.isHidden).filter Section.isHeaded := by
      rw [List.filter_filter]
      refine List.filter_congr fun m _ => ?_
      cases visible : m.2.isHidden <;> simp [Section.isHeaded, visible]
    rw [headedOnly] at lengths ⊢
    exact List.filter_sublist.eq_of_length lengths
  · intro same
    exact ⟨_, List.filter_sublist, same ▸ forms.headsMembers, forms.showsMembers⟩

/-- Two results for each of some items, put together in pairs. -/
theorem forall₂_zip_of_forall₂ {α β γ : Type} {R : α → β → Prop} {S : α → γ → Prop} {xs : List α}
    {ys : List β} {zs : List γ} (first : List.Forall₂ R xs ys) (second : List.Forall₂ S xs zs) :
    List.Forall₂ (fun x pair => R x pair.1 ∧ S x pair.2) xs (ys.zip zs) := by
  induction first generalizing zs with
  | nil => exact .nil
  | cons left _ inductionHypothesis =>
    cases second with
    | cons right others => exact .cons ⟨left, right⟩ (inductionHypothesis others)

/-- Where some interfaces of a unit can be compiled in both forms, their sections fall into blocks,
one for each interface in either form. Under its heading an interface has sections on its visible
properties and methods, as an object on all of its visible members, each in order. So the forms of
an interface document the same members if and only if it has no visible member of another kind. -/
theorem sameMembers_iff_of_interfaces (unit : DocUnit) (is : List (Place × Declaration))
    (headed object : List Section) (ofHeaded : (ofInterfaces unit false is).CanGive headed)
    (ofObjects : (ofInterfaces unit true is).CanGive object) :
    ∃ blocks : List (List Section × List Section),
      headed = (blocks.map Prod.fst).flatten ∧ object = (blocks.map Prod.snd).flatten ∧
      List.Forall₂ (fun i block => HasForms unit i block.1 block.2 ∧
        (SameMembers unit i block.1 block.2 ↔ ∀ m ∈ i.2.children, m.isHidden = false →
          m.kind = .propertyDecl ∨ m.kind = .methodDecl)) is blocks := by
  rw [ofInterfaces_eq_concat] at ofHeaded ofObjects
  obtain ⟨ones, rfl, compiled⟩ := Compile.exists_blocks_of_concat ofHeaded
  obtain ⟨others, rfl, compiled'⟩ := Compile.exists_blocks_of_concat ofObjects
  have sameLength : ones.length = others.length :=
    compiled.length_eq.symm.trans compiled'.length_eq
  refine ⟨ones.zip others, ?_, ?_, ?_⟩
  · rw [List.map_fst_zip sameLength.le]
  · rw [List.map_snd_zip sameLength.ge]
  · refine (forall₂_zip_of_forall₂ compiled compiled').imp ?_
    rintro i block ⟨headed, object⟩
    have forms : HasForms unit i block.1 block.2 := hasForms_of_canGive headed object
    exact ⟨forms, forms.sameMembers_iff⟩

/-- The accessor `region`, whose getter gives a text. -/
def regionAccessor : Declaration :=
  { Declaration.bare "region" .accessorDecl none [] with
    getter := some ⟨.text "region", [], some (.primitive (.text "string")), none⟩ }

/-- An interface with two properties, and one with a property and an accessor. -/
def subscriberUnit : DocUnit where
  name := .text "components/aws/queue"
  declarations :=
    [.bare "QueueArgs" .interfaceDecl none [.url, { Declaration.url with name := .text "fifo" }],
      .bare "QueueSubscriber" .interfaceDecl none [.url, regionAccessor]]
  sourcePath := some (.text "platform/src/components/aws/queue.ts")
  comment := none

theorem subscriber_headed_titled :
    ((interfaceGroup subscriberUnit (fun _ => true) false).run .empty).1.map
      (fun sections => sections.map fun s => (s.level, s.title)) =
        .ok [(2, "QueueArgs"), (3, "url"), (3, "fifo"), (2, "QueueSubscriber"), (3, "url")] := rfl

theorem subscriber_objects_titled :
    ((interfaceGroup subscriberUnit (fun _ => true) true).run .empty).1.map
      (fun sections => sections.map fun s => (s.level, s.title)) =
        .ok [(3, "QueueArgs"), (4, "url"), (4, "fifo"), (3, "QueueSubscriber"), (4, "url"),
          (4, "region")] := rfl

/-- Both forms of the two interfaces. -/
theorem sameMembers_iff_of_interfaces_subscriber :
    ∃ headed object,
      (interfaceGroup subscriberUnit (fun _ => true) false).CanGive headed ∧
      (interfaceGroup subscriberUnit (fun _ => true) true).CanGive object ∧
      ∃ blocks : List (List Section × List Section),
        headed = (blocks.map Prod.fst).flatten ∧ object = (blocks.map Prod.snd).flatten ∧
        List.Forall₂ (fun i block => HasForms subscriberUnit i block.1 block.2 ∧
          (SameMembers subscriberUnit i block.1 block.2 ↔ ∀ m ∈ i.2.children, m.isHidden = false →
            m.kind = .propertyDecl ∨ m.kind = .methodDecl))
          (shownInterfaces subscriberUnit fun _ => true) blocks := by
  obtain ⟨headed, compiled, -⟩ := exists_of_map_eq_ok subscriber_headed_titled
  obtain ⟨object, compiled', -⟩ := exists_of_map_eq_ok subscriber_objects_titled
  have ofHeaded := Compile.CanGive.of_fresh compiled
  have ofObjects := Compile.CanGive.of_fresh compiled'
  exact ⟨headed, object, ofHeaded, ofObjects,
    sameMembers_iff_of_interfaces subscriberUnit _ headed object ofHeaded ofObjects⟩

/-- An accessor of an interface has a section in the object only. -/
theorem accessor_only_in_object :
    ¬ ∀ (unit : DocUnit) (i : Place × Declaration) (headed object : List Section),
      i ∈ shownInterfaces unit (fun _ => true) → (ofInterface unit i.1 i.2).CanGive headed →
      (ofObjectInterface unit i.1 i.2).CanGive object → SameMembers unit i headed object := by
  intro same
  let subscriber := Declaration.bare "QueueSubscriber" .interfaceDecl none [.url, regionAccessor]
  have titles : ((ofInterface subscriberUnit [.child 1] subscriber).run .empty).1.map
      (List.map title) = .ok ["QueueSubscriber", "url"] := rfl
  have titles' : ((ofObjectInterface subscriberUnit [.child 1] subscriber).run .empty).1.map
      (List.map title) = .ok ["QueueSubscriber", "url", "region"] := rfl
  obtain ⟨headed, compiled, -⟩ := exists_of_map_eq_ok titles
  obtain ⟨object, compiled', -⟩ := exists_of_map_eq_ok titles'
  have ofHeaded := Compile.CanGive.of_fresh compiled
  have ofObject := Compile.CanGive.of_fresh compiled'
  have forms : HasForms subscriberUnit ([.child 1], subscriber) headed object :=
    hasForms_of_canGive ofHeaded ofObject
  have isShown : ([.child 1], subscriber) ∈ shownInterfaces subscriberUnit fun _ => true :=
    List.mem_cons_of_mem _ List.mem_cons_self
  have documented := forms.sameMembers_iff.mp (same _ _ _ _ isShown ofHeaded ofObject)
  have isMember : regionAccessor ∈ subscriber.children := by simp [subscriber, Declaration.bare]
  rcases documented regionAccessor isMember rfl with isProperty | isMethod
  · cases isProperty
  · cases isMethod

end Section

end DocPress
