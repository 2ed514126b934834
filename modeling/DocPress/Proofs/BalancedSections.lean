import DocPress.Proofs.CommentTexts
import DocPress.Proofs.PageAnchors
import DocPress.Proofs.SectionLists

/-! # The tags of sections

The body of each section opens and closes its elements properly, if none of the comments of its unit
has a line that is a tag.

* `Section.Closed`: sections each of which closes what it opens.
* There is one lemma for each part of a body, and one for each group of sections.

All other lines of a body that come from the unit start or end like no tag: what starts them is
`- <p>`, `**Type** ` or the like, or they are signatures and end with a bracket. -/

set_option autoImplicit false

namespace DocPress

/-! ## Untagged parts of units -/

theorem DocUnit.Untagged.located {unit : DocUnit} (untagged : unit.Untagged)
    {d : Place × Declaration} (member : d ∈ unit.located) : d.2.Untagged := by
  refine untagged.declaration ?_
  have isDeclaration := List.mem_map_of_mem (f := Prod.snd) member
  rwa [DocUnit.located, map_snd_numbered] at isDeclaration

theorem DocUnit.Untagged.locatedOfKind {unit : DocUnit} (untagged : unit.Untagged)
    {kind : DeclKind} {d : Place × Declaration} (member : d ∈ unit.locatedOfKind kind) :
    d.2.Untagged := untagged.located (List.mem_of_mem_filter member)

theorem DocUnit.Untagged.requiredClass {unit : DocUnit} (untagged : unit.Untagged)
    {cls : Declaration} (found : unit.requiredClass = .ok cls) : cls.Untagged := by
  obtain ⟨c, isClass, found⟩ := exists_of_bind_eq_ok found
  cases found
  exact untagged.locatedOfKind (DocUnit.mem_of_locatedClass isClass)

theorem Declaration.Untagged.located {d : Declaration} (untagged : d.Untagged) {place : Place}
    {m : Place × Declaration} (member : m ∈ d.located place) : m.2.Untagged := by
  refine untagged.child ?_
  have isChild := List.mem_map_of_mem (f := Prod.snd) member
  rwa [Declaration.located, map_snd_numbered] at isChild

theorem Declaration.Untagged.firstSignature {d : Declaration} (untagged : d.Untagged)
    {s : CallSignature} (first : d.firstSignature = .ok s) : s.Untagged := by
  unfold Declaration.firstSignature at first
  split at first
  · cases first
  · rename_i signatures
    cases first
    exact untagged.signature (signatures ▸ List.mem_cons_self)

namespace Section

variable {unit : DocUnit} {lines : List String} {sections : List Section}

/-! ## Parts of bodies -/

theorem selfClosed_typeLines (type : String) : SelfClosed (typeLines type) := fun _ =>
  .opens rfl (.plain (tag?_append_eq_none (by decide) _) (.closes rfl .nil))

theorem selfClosed_inlineBlock {text : String} (plain : tag? text = none) :
    SelfClosed ["", "<InlineSection>", text, "</InlineSection>"] := fun _ =>
  .plain rfl (.opens rfl (.plain plain (.closes rfl .nil)))

theorem selfClosed_defaultLines {comment : Option DocComment}
    (shown : defaultLines comment = .ok lines) : SelfClosed lines := by
  have ofText : ∀ text, SelfClosed ["", "<InlineSection>", "**Default** " ++ text,
      "</InlineSection>"] :=
    fun text => selfClosed_inlineBlock (tag?_append_eq_none (by decide) text)
  unfold defaultLines at shown
  split at shown
  · cases shown
    exact .nil
  · dsimp only at shown
    split at shown
    · obtain ⟨code, -, shown⟩ := exists_of_bind_eq_ok shown
      cases shown
      exact ofText _
    · obtain ⟨text, -, shown⟩ := exists_of_bind_eq_ok shown
      cases shown
      exact ofText _

theorem selfClosed_returnLines {s : CallSignature} (shown : returnLines unit s = .ok lines) :
    SelfClosed lines := by
  obtain ⟨type, -, shown⟩ := exists_of_bind_eq_ok shown
  cases shown
  exact selfClosed_inlineBlock (tag?_append_eq_none (by decide) _)

theorem selfClosed_signatureBlock {shown : String} (plain : tag? shown = none) :
    SelfClosed (signatureBlock shown) := fun _ =>
  .opens rfl (.plain rfl (.plain plain (.plain rfl (.closes rfl .nil))))

/-- A signature ends with a round bracket. -/
theorem tag?_of_render {s : CallSignature} {shown : String} (rendered : s.render = .ok shown)
    (qualifier : String) : tag? (qualifier ++ shown) = none := by
  obtain ⟨parameters, -, rendered⟩ := exists_of_bind_eq_ok rendered
  cases rendered
  refine tag?_eq_none_of_getLast? ?_
  have ends : ∀ text : String, (text ++ ")").toList.getLast? = some ')' := fun text => by
    simp
  rw [← String.append_assoc, ends]
  decide

theorem exists_of_parameterLines {owner : Data} {p : Declaration}
    (shown : parameterLines unit owner p = .ok lines) : ∃ item description,
      p.documented.description = .ok description ∧ lines = ("- <p>" ++ item) :: description := by
  -- the type, whichever is shown, comes first
  have ofType : ∀ type : String, (do
      let name ← p.parameterName
      let description ← p.documented.description
      return ("- <p>" ++ Markup.code "key" name ++ " " ++ type ++ "</p>") :: description) =
        Except.ok lines → ∃ item description,
          p.documented.description = .ok description ∧
            lines = ("- <p>" ++ item) :: description := by
    intro type shown
    obtain ⟨name, -, shown⟩ := exists_of_bind_eq_ok shown
    obtain ⟨description, described, shown⟩ := exists_of_bind_eq_ok shown
    cases shown
    refine ⟨Markup.code "key" name ++ " " ++ type ++ "</p>", description, described, ?_⟩
    simp only [String.append_assoc]
  unfold parameterLines at shown
  dsimp only at shown
  split at shown
  · exact ofType _ shown
  · obtain ⟨type, -, shown⟩ := exists_of_bind_eq_ok shown
    exact ofType type shown

theorem tag?_of_mem_parameterLines {owner : Data} {p : Declaration} (untagged : p.Untagged)
    (shown : parameterLines unit owner p = .ok lines) : ∀ line ∈ lines, tag? line = none := by
  obtain ⟨item, description, described, rfl⟩ := exists_of_parameterLines shown
  exact List.forall_mem_cons.mpr ⟨tag?_append_eq_none (by decide) item,
    untagged.documented.tag?_of_mem_description described⟩

/-- The block of the parameters has no tags but those around it. -/
theorem exists_of_parameterBlock {owner : Data} {title : String} {s : CallSignature}
    (untagged : s.Untagged) (shown : parameterBlock unit owner title s = .ok lines) :
    lines = [] ∨ ∃ inner, lines =
      ["", "<Section type=\"parameters\">", title] ++ inner ++ ["</Section>"] ∧
        ∀ line ∈ inner, tag? line = none := by
  unfold parameterBlock at shown
  split at shown
  · cases shown
    exact .inl rfl
  · obtain ⟨blocks, mapped, shown⟩ := exists_of_bind_eq_ok shown
    cases shown
    refine .inr ⟨blocks.flatten, rfl, fun line member => ?_⟩
    obtain ⟨block, isBlock, inBlock⟩ := List.mem_flatten.mp member
    obtain ⟨p, isParameter, ofParameter⟩ := exists_of_mem_of_mapM mapped isBlock
    exact tag?_of_mem_parameterLines (untagged.parameter isParameter) ofParameter line inBlock

theorem selfClosed_parameterBlock {owner : Data} {title : String} {s : CallSignature}
    (untagged : s.Untagged) (plain : tag? title = none)
    (shown : parameterBlock unit owner title s = .ok lines) : SelfClosed lines := by
  rcases exists_of_parameterBlock untagged shown with rfl | ⟨inner, rfl, innerPlain⟩
  · exact .nil
  · intro elements
    have opens : Leads elements ["", "<Section type=\"parameters\">", title]
        (.block :: elements) := .plain rfl (.opens rfl (.plain plain .nil))
    exact opens.followedBy (.of_plain innerPlain) |>.append (.closes rfl .nil)

/-- A link to a nested field is an item of a list, which may be indented. -/
theorem tag?_bulletLine (e : FieldEntry) (anchor type : String) :
    tag? (bulletLine e anchor type) = none := by
  unfold bulletLine
  cases e.depth with
  | zero =>
    simp only [List.replicate_zero, String.join_nil, String.empty_append, String.append_assoc]
    exact tag?_append_eq_none (by decide) _
  | succ depth =>
    simp only [List.replicate_succ, String.join_cons, String.append_assoc]
    exact tag?_append_eq_none (by decide) _

theorem selfClosed_typeBlock {place : Place} {o : Documented} {name : String}
    (gives : (typeBlock unit place o name).CanGive lines) : SelfClosed lines := by
  obtain ⟨type, -, gives⟩ := gives.exists_of_lift_bind
  obtain ⟨links, ⟨registry, final, listed⟩, gives⟩ := gives.exists_of_bind
  cases Compile.canGive_pure_iff.mp gives
  have linksPlain : ∀ line ∈ links, tag? line = none := by
    intro line member
    obtain ⟨i, bound, rfl⟩ := List.getElem_of_mem member
    have related := (bullets_of_run listed).2
    obtain ⟨anchor, type, -, isBullet⟩ := related.get (related.length_eq ▸ bound) bound
    rw [List.get_eq_getElem] at isBullet
    rw [isBullet]
    exact tag?_bulletLine _ _ _
  intro elements
  have opens : Leads elements ["<Section type=\"parameters\">"] (.block :: elements) :=
    .opens rfl .nil
  exact opens.followedBy (selfClosed_typeLines type)
    |>.followedBy (.of_plain linksPlain)
    |>.append (.closes rfl .nil)

/-! ## Sections -/

def Closed (sections : List Section) : Prop := ∀ s ∈ sections, SelfClosed s.body

theorem closed_nil : Closed [] := fun _ member => absurd member List.not_mem_nil

theorem Closed.cons {s : Section} (first : SelfClosed s.body) (rest : Closed sections) :
    Closed (s :: sections) := List.forall_mem_cons.mpr ⟨first, rest⟩

theorem Closed.append {others : List Section} (first : Closed sections) (rest : Closed others) :
    Closed (sections ++ others) := List.forall_mem_append.mpr ⟨first, rest⟩

theorem closed_of_concat {α : Type} {f : α → Compile (List Section)} {xs : List α}
    (each : ∀ x ∈ xs, ∀ block, (f x).CanGive block → Closed block)
    (gives : (Compile.concat f xs).CanGive sections) : Closed sections := by
  intro s member
  obtain ⟨x, isItem, block, ofItem, inBlock⟩ := Compile.exists_of_mem_concat gives member
  exact each x isItem block ofItem s inBlock

theorem leads_segment (elements : List Element) :
    Leads elements ["<Segment>"] (.segment :: elements) := .opens rfl .nil

theorem leads_endSegment (elements : List Element) :
    Leads (.segment :: elements) ["</Segment>"] elements := .closes rfl .nil

/-- The body that functions and methods have in common. -/
theorem selfClosed_callBody {s : CallSignature} {owner : Data} {qualifier shown title : String}
    {parameters returns description examples : List String} (untagged : s.Untagged)
    (plain : tag? title = none) (rendered : s.render = .ok shown)
    (ofParameters : parameterBlock unit owner title s = .ok parameters)
    (ofReturns : returnLines unit s = .ok returns)
    (described : s.documented.description = .ok description)
    (illustrated : s.documented.examples = .ok examples) :
    SelfClosed (["<Segment>"] ++ signatureBlock (qualifier ++ shown) ++ parameters ++ returns
      ++ description ++ [""] ++ examples ++ ["</Segment>"]) := fun elements =>
  leads_segment elements
    |>.followedBy (selfClosed_signatureBlock (tag?_of_render rendered qualifier))
    |>.followedBy (selfClosed_parameterBlock untagged plain ofParameters)
    |>.followedBy (selfClosed_returnLines ofReturns)
    |>.followedBy (untagged.documented.selfClosed_description described)
    |>.followedBy (.single rfl)
    |>.followedBy (untagged.documented.selfClosed_examples illustrated)
    |>.append (leads_endSegment elements)

theorem closed_ofMethod {m : Declaration} {title parametersTitle : String} {level : Int}
    {anchor parent : Option String} (untagged : m.Untagged) (plain : tag? parametersTitle = none)
    (compiled : ofMethod unit m title level anchor parent parametersTitle = .ok sections) :
    Closed sections := by
  unfold ofMethod at compiled
  split at compiled
  · cases compiled
    exact closed_nil
  · obtain ⟨s, first, compiled⟩ := exists_of_bind_eq_ok compiled
    obtain ⟨owner, -, compiled⟩ := exists_of_bind_eq_ok compiled
    obtain ⟨shown, rendered, compiled⟩ := exists_of_bind_eq_ok compiled
    obtain ⟨parameters, ofParameters, compiled⟩ := exists_of_bind_eq_ok compiled
    obtain ⟨returns, ofReturns, compiled⟩ := exists_of_bind_eq_ok compiled
    obtain ⟨description, described, compiled⟩ := exists_of_bind_eq_ok compiled
    obtain ⟨examples, illustrated, compiled⟩ := exists_of_bind_eq_ok compiled
    cases compiled
    exact .cons (selfClosed_callBody (untagged.firstSignature first) plain rendered ofParameters
      ofReturns described illustrated) closed_nil

/-! ## Nested fields -/

theorem closed_ofEntry {e : FieldEntry} {anchor : String} (untagged : e.field.Untagged)
    (compiled : ofEntry unit e anchor = .ok sections) : Closed sections := by
  unfold ofEntry at compiled
  split at compiled
  · exact closed_ofMethod untagged rfl compiled
  · obtain ⟨type, -, compiled⟩ := exists_of_bind_eq_ok compiled
    obtain ⟨default, ofDefault, compiled⟩ := exists_of_bind_eq_ok compiled
    obtain ⟨description, described, compiled⟩ := exists_of_bind_eq_ok compiled
    obtain ⟨examples, illustrated, compiled⟩ := exists_of_bind_eq_ok compiled
    cases compiled
    have documented := untagged.documentedNested
    refine .cons (fun elements => ?_) closed_nil
    have opens : Leads elements ["<Segment>", "<Section type=\"parameters\">"]
        (.block :: .segment :: elements) := .opens rfl (.opens rfl .nil)
    exact opens.followedBy (selfClosed_typeLines type)
      |>.append (.closes rfl .nil)
      |>.followedBy (selfClosed_defaultLines ofDefault)
      |>.followedBy (documented.selfClosed_description described)
      |>.followedBy (.single rfl)
      |>.followedBy (documented.selfClosed_examples illustrated)
      |>.append (leads_endSegment elements)

theorem closed_nestedSections {place : Place} {o : Documented} {name : String}
    (untagged : o.Untagged) (gives : (nestedSections unit place o name).CanGive sections) :
    Closed sections := by
  rw [nestedSections, ofFields_eq_concat] at gives
  refine closed_of_concat (fun e member block gives => ?_) gives
  obtain ⟨anchor, -, gives⟩ := gives.exists_of_bind
  exact closed_ofEntry (untagged.field member) (Compile.canGive_lift_iff.mp gives)

/-! ## Introductions, variables and functions -/

theorem closed_about {comment : DocComment} (untagged : comment.Untagged)
    (compiled : about comment = .ok sections) : Closed sections := by
  obtain ⟨summary, isSummary, compiled⟩ := exists_of_bind_eq_ok compiled
  obtain ⟨examples, illustrated, compiled⟩ := exists_of_bind_eq_ok compiled
  cases compiled
  have ofExamples : SelfClosed (if examples.isEmpty then [] else "" :: examples) := by
    split
    · exact .nil
    · exact .cons rfl (.of_plain (untagged.tag?_of_mem_examples illustrated))
  refine .cons (fun elements => ?_) closed_nil
  have opens : Leads elements ["", "<Section type=\"about\">", summary] (.block :: elements) :=
    .plain rfl (.opens rfl (.plain (untagged.summary summary isSummary) .nil))
  exact opens.followedBy ofExamples |>.append (.closes rfl (.plain rfl (.plain rfl .nil)))

theorem closed_groupHeading (title : Option String) : Closed (groupHeading title) := by
  unfold groupHeading
  split
  · exact closed_nil
  · split
    · exact closed_nil
    · exact .cons .nil closed_nil

theorem untagged_documentedVariable (untagged : unit.Untagged) {v : Place × Declaration}
    (ofUnit : v.2.Untagged) : (documentedVariable unit v.1 v.2).2.Untagged := by
  unfold documentedVariable
  split
  · rename_i place i isInterface
    refine ⟨fun _ => ofUnit.comment, fun t isType => ?_⟩
    cases isType
    obtain ⟨name, -, found⟩ := Option.bind_eq_some_iff.mp isInterface
    have isDeclaration := untagged.locatedOfKind (List.mem_of_find?_eq_some found)
    exact TypeExpr.untagged_object_iff.mpr fun f member => isDeclaration.child member
  · split
    · rename_i ref isReference
      refine ⟨fun _ => ofUnit.comment, fun t isType => ?_⟩
      cases isType
      unfold variableReference? at isReference
      split at isReference
      · obtain ⟨⟨package, name⟩, -, rfl⟩ := Option.map_eq_some_iff.mp isReference
        simp [TypeExpr.Untagged, TypeExpr.comments, Reference.comments, TypeExpr.commentsOfAll]
      · contradiction
    · exact ⟨fun _ => ofUnit.comment, fun _ => ofUnit.type⟩

theorem closed_ofVariable (untagged : unit.Untagged) {v : Place × Declaration}
    (ofUnit : v.2.Untagged) (gives : (ofVariable unit v.1 v.2).CanGive sections) :
    Closed sections := by
  have documented := untagged_documentedVariable untagged ofUnit
  unfold ofVariable at gives
  obtain ⟨type, ofType, gives⟩ := gives.exists_of_bind
  obtain ⟨description, described, gives⟩ := gives.exists_of_lift_bind
  obtain ⟨examples, illustrated, gives⟩ := gives.exists_of_lift_bind
  obtain ⟨nested, ofNested, gives⟩ := gives.exists_of_bind
  cases Compile.canGive_pure_iff.mp gives
  refine .cons (fun elements => ?_) (closed_nestedSections documented ofNested)
  exact leads_segment elements
    |>.followedBy (selfClosed_typeBlock ofType)
    |>.followedBy (documented.selfClosed_description described)
    |>.followedBy (documented.selfClosed_examples illustrated)
    |>.append (leads_endSegment elements)

theorem closed_variableGroup (untagged : unit.Untagged) {title : Option String}
    (gives : (variableGroup unit title).CanGive sections) : Closed sections := by
  unfold variableGroup at gives
  split at gives
  · cases Compile.canGive_pure_iff.mp gives
    exact closed_nil
  · obtain ⟨shown, ofShown, gives⟩ := gives.exists_of_bind
    cases Compile.canGive_pure_iff.mp gives
    rw [ofVariables_eq_concat] at ofShown
    refine (closed_groupHeading title).append (closed_of_concat (fun v member block => ?_) ofShown)
    exact closed_ofVariable untagged (untagged.locatedOfKind (List.mem_of_mem_filter member))

theorem closed_ofFunction {qualifier : String} {f : Declaration} {s : Section}
    (untagged : f.Untagged) (compiled : ofFunction unit qualifier f = .ok s) :
    SelfClosed s.body := by
  obtain ⟨signature, first, compiled⟩ := exists_of_bind_eq_ok compiled
  obtain ⟨shown, rendered, compiled⟩ := exists_of_bind_eq_ok compiled
  obtain ⟨parameters, ofParameters, compiled⟩ := exists_of_bind_eq_ok compiled
  obtain ⟨returns, ofReturns, compiled⟩ := exists_of_bind_eq_ok compiled
  obtain ⟨description, described, compiled⟩ := exists_of_bind_eq_ok compiled
  obtain ⟨examples, illustrated, compiled⟩ := exists_of_bind_eq_ok compiled
  cases compiled
  exact selfClosed_callBody (untagged.firstSignature first) rfl rendered ofParameters ofReturns
    described illustrated

theorem closed_functionGroup {fs : List Declaration} (untagged : ∀ f ∈ fs, f.Untagged)
    {title within : Option String} (compiled : functionGroup unit fs title within = .ok sections) :
    Closed sections := by
  unfold functionGroup at compiled
  split at compiled
  · cases compiled
    exact closed_nil
  · obtain ⟨functions, mapped, compiled⟩ := exists_of_bind_eq_ok compiled
    cases compiled
    refine (closed_groupHeading title).append fun s member => ?_
    obtain ⟨f, isFunction, ofFunction⟩ := exists_of_mem_of_mapM mapped member
    exact closed_ofFunction (untagged f isFunction) ofFunction

/-! ## Interfaces -/

theorem closed_ofMember {m : Place × Declaration} (untagged : m.2.Untagged)
    (gives : (ofMember unit m.1 m.2).CanGive sections) : Closed sections := by
  unfold ofMember at gives
  split at gives
  · cases Compile.canGive_pure_iff.mp gives
    exact closed_nil
  · split at gives
    · obtain ⟨type, ofType, gives⟩ := gives.exists_of_bind
      obtain ⟨default, ofDefault, gives⟩ := gives.exists_of_lift_bind
      obtain ⟨description, described, gives⟩ := gives.exists_of_lift_bind
      obtain ⟨examples, illustrated, gives⟩ := gives.exists_of_lift_bind
      obtain ⟨nested, ofNested, gives⟩ := gives.exists_of_bind
      cases Compile.canGive_pure_iff.mp gives
      have documented := untagged.documented
      refine .cons (fun elements => ?_) (closed_nestedSections documented ofNested)
      exact leads_segment elements
        |>.followedBy (selfClosed_typeBlock ofType)
        |>.followedBy (selfClosed_defaultLines ofDefault)
        |>.followedBy (documented.selfClosed_description described)
        |>.followedBy (.single rfl)
        |>.followedBy (documented.selfClosed_examples illustrated)
        |>.append (leads_endSegment elements)
    · exact closed_ofMethod untagged rfl (Compile.canGive_lift_iff.mp gives)
    · cases Compile.canGive_pure_iff.mp gives
      exact closed_nil

theorem closed_ofInterface {i : Place × Declaration} (untagged : i.2.Untagged)
    (gives : (ofInterface unit i.1 i.2).CanGive sections) : Closed sections := by
  unfold ofInterface at gives
  split at gives
  · cases Compile.canGive_lift_iff.mp gives
  · obtain ⟨intro, described, gives⟩ := gives.exists_of_lift_bind
    obtain ⟨members, ofMembers, gives⟩ := gives.exists_of_bind
    cases Compile.canGive_pure_iff.mp gives
    rw [ofMembers_eq_concat] at ofMembers
    refine .cons ?_ (closed_of_concat (fun m member block => ?_) ofMembers)
    · dsimp only
      split
      · exact .nil
      · exact .cons rfl (untagged.documented.selfClosed_description described)
    · exact closed_ofMember (untagged.located member)

theorem closed_ofObjectInterface {i : Place × Declaration} (untagged : i.2.Untagged)
    (gives : (ofObjectInterface unit i.1 i.2).CanGive sections) : Closed sections := by
  have documented : (⟨i.2.name, none, some (.object i.2.children)⟩ : Documented).Untagged := by
    refine ⟨nofun, fun t isType => ?_⟩
    cases isType
    exact TypeExpr.untagged_object_iff.mpr fun f member => untagged.child member
  obtain ⟨type, ofType, gives⟩ := gives.exists_of_bind
  obtain ⟨nested, ofNested, gives⟩ := gives.exists_of_bind
  cases Compile.canGive_pure_iff.mp gives
  refine .cons (fun elements => ?_) (closed_nestedSections documented ofNested)
  exact leads_segment elements
    |>.followedBy (selfClosed_typeBlock ofType)
    |>.append (leads_endSegment elements)

theorem closed_interfaceGroup (untagged : unit.Untagged) {accepts : Declaration → Bool}
    {asObjects : Bool} (gives : (interfaceGroup unit accepts asObjects).CanGive sections) :
    Closed sections := by
  have ofUnit : ∀ i ∈ shownInterfaces unit accepts, i.2.Untagged :=
    fun i member => untagged.locatedOfKind (List.mem_of_mem_filter member)
  rw [interfaceGroup_eq_concat] at gives
  refine closed_of_concat (fun i member block => ?_) gives
  cases asObjects with
  | false => exact closed_ofInterface (ofUnit i member)
  | true => exact closed_ofObjectInterface (ofUnit i member)

/-! ## The class -/

theorem untagged_of_mem_classMethods (untagged : unit.Untagged) {builders : BuilderMethods}
    {ms : List Declaration} (ofClass : classMethods unit builders = .ok ms) {m : Declaration}
    (member : m ∈ ms) : m.Untagged := by
  obtain ⟨cls, isClass, ofClass⟩ := exists_of_bind_eq_ok ofClass
  cases ofClass
  have isMethod : m ∈ (cls.childrenOfKind .methodDecl).filter isShownMethod :=
    (List.mem_append.mp member).elim List.mem_of_mem_filter List.mem_of_mem_filter
  exact (untagged.requiredClass isClass).child
    (List.mem_of_mem_filter (List.mem_of_mem_filter isMethod))

theorem closed_methods (untagged : unit.Untagged) {builders : BuilderMethods}
    (compiled : methods unit builders = .ok sections) : Closed sections := by
  obtain ⟨ms, ofClass, compiled⟩ := exists_of_bind_eq_ok compiled
  split at compiled
  · cases compiled
    exact closed_nil
  · obtain ⟨blocks, mapped, compiled⟩ := exists_of_bind_eq_ok compiled
    cases compiled
    refine .cons .nil fun s member => ?_
    obtain ⟨block, isBlock, inBlock⟩ := List.mem_flatten.mp member
    obtain ⟨m, isMethod, ofMethod⟩ := exists_of_mem_of_mapM mapped isBlock
    exact closed_ofMethod (untagged_of_mem_classMethods untagged ofClass isMethod) rfl ofMethod s
      inBlock

theorem closed_ofGetter {g : Place × Declaration × CallSignature} (untagged : g.2.2.Untagged)
    (gives : (ofGetter unit g.1 g.2.1 g.2.2).CanGive sections) : Closed sections := by
  obtain ⟨type, ofType, gives⟩ := gives.exists_of_bind
  obtain ⟨description, described, gives⟩ := gives.exists_of_lift_bind
  obtain ⟨nested, ofNested, gives⟩ := gives.exists_of_bind
  cases Compile.canGive_pure_iff.mp gives
  have documented := untagged.documented
  refine .cons (fun elements => ?_) (closed_nestedSections documented ofNested)
  exact leads_segment elements
    |>.followedBy (selfClosed_typeBlock ofType)
    |>.followedBy (documented.selfClosed_description described)
    |>.append (leads_endSegment elements)

theorem untagged_of_mem_classGetters (untagged : unit.Untagged)
    {getters : List (Place × Declaration)} (ofClass : classGetters unit = .ok getters)
    {g : Place × Declaration} (member : g ∈ getters) : g.2.Untagged := by
  obtain ⟨c, found, ofClass⟩ := exists_of_bind_eq_ok ofClass
  cases ofClass
  have isClass := untagged.locatedOfKind (DocUnit.mem_of_locatedClass found)
  exact isClass.located (List.mem_of_mem_filter member)

theorem closed_properties (untagged : unit.Untagged)
    (gives : (properties unit).CanGive sections) : Closed sections := by
  obtain ⟨getters, ofClass, gives⟩ := gives.exists_of_lift_bind
  dsimp only at gives
  split at gives
  · cases Compile.canGive_pure_iff.mp gives
    exact closed_nil
  · obtain ⟨shown, ofShown, gives⟩ := gives.exists_of_bind
    cases Compile.canGive_pure_iff.mp gives
    rw [ofGetters_eq_concat] at ofShown
    refine .cons .nil (closed_of_concat (fun g member block => closed_ofGetter ?_) ofShown)
    obtain ⟨isGetter, isSignature, -⟩ := of_mem_shownGetters member
    exact (untagged_of_mem_classGetters untagged ofClass isGetter).getter isSignature

/-- The tags of the section of a constructor. -/
def constructorTags : List String :=
  ["<Segment>", "<Section type=\"signature\">", "<Section type=\"parameters\">", "</Section>",
    "</Segment>"]

/-- Lines of which each is no tag or one of the tags of a constructor. -/
def HasConstructorTags (lines : List String) : Prop :=
  ∀ line ∈ lines, tag? line = none ∨ line ∈ constructorTags
deriving Decidable

theorem HasConstructorTags.append {others : List String} (first : HasConstructorTags lines)
    (rest : HasConstructorTags others) : HasConstructorTags (lines ++ others) :=
  List.forall_mem_append.mpr ⟨first, rest⟩

theorem hasConstructorTags_parameterBlock {owner : Data} {s : CallSignature}
    (untagged : s.Untagged) (shown : parameterBlock unit owner "#### Parameters" s = .ok lines) :
    HasConstructorTags lines := by
  rcases exists_of_parameterBlock untagged shown with rfl | ⟨inner, rfl, innerPlain⟩
  · exact fun _ member => absurd member List.not_mem_nil
  · have opens : HasConstructorTags ["", "<Section type=\"parameters\">", "#### Parameters"] := by
      decide
    have closes : HasConstructorTags ["</Section>"] := by decide
    exact (opens.append fun line isInner => .inl (innerPlain line isInner)).append closes

theorem hasConstructorTags_signatureBlock {shown : String} (plain : tag? shown = none) :
    HasConstructorTags (signatureBlock shown) := by
  have opens : HasConstructorTags ["<Section type=\"signature\">", "```ts"] := by decide
  have closes : HasConstructorTags ["```", "</Section>"] := by decide
  exact opens.append (.append (List.forall_mem_singleton.mpr (.inl plain)) closes)

/-- The section of the constructor closes what it opens, and has no tags but its own. -/
theorem closed_constructorSection (untagged : unit.Untagged)
    (compiled : constructorSection unit = .ok sections) :
    ∀ s ∈ sections, SelfClosed s.body ∧ HasConstructorTags s.body := by
  obtain ⟨cls, isClass, compiled⟩ := exists_of_bind_eq_ok compiled
  split at compiled
  · cases compiled
  · rename_i c others areConstructors
    obtain ⟨s, first, compiled⟩ := exists_of_bind_eq_ok compiled
    obtain ⟨shown, rendered, compiled⟩ := exists_of_bind_eq_ok compiled
    obtain ⟨parameters, ofParameters, compiled⟩ := exists_of_bind_eq_ok compiled
    cases compiled
    have isConstructor : c ∈ cls.childrenOfKind .constructorDecl :=
      areConstructors ▸ List.mem_cons_self
    have signature := ((untagged.requiredClass isClass).child
      (List.mem_of_mem_filter isConstructor)).firstSignature first
    have plain := tag?_of_render rendered ""
    rw [String.empty_append] at plain
    refine List.forall_mem_singleton.mpr ⟨fun elements => ?_, ?_⟩
    · have opens : Leads elements ["", "<Segment>"] (.segment :: elements) :=
        .plain rfl (.opens rfl .nil)
      exact opens.followedBy (selfClosed_signatureBlock plain)
        |>.followedBy (selfClosed_parameterBlock signature rfl ofParameters)
        |>.append (leads_endSegment elements)
    · have opens : HasConstructorTags ["", "<Segment>"] := by decide
      have closes : HasConstructorTags ["</Segment>"] := by decide
      exact ((opens.append (hasConstructorTags_signatureBlock plain)).append
        (hasConstructorTags_parameterBlock signature ofParameters)).append closes

/-! ## Links and bindings -/

/-- Each line of an indented text starts with blanks, and so the text does. -/
theorem tag?_indented (text : String) : tag? (indented text) = none := by
  obtain ⟨first, rest, pieces⟩ :=
    List.exists_cons_of_ne_nil (List.splitOn_ne_nil '\n' text.toList)
  rw [indented, Text.split, Text.splitOn_eq, pieces, List.map_cons, List.map_cons,
    String.intercalate_cons_append]
  exact tag?_append_eq_none (by decide) _

theorem tag?_of_mem_linkLines {getters : List (Place × Declaration)} {link : Declaration}
    (compiled : linkLines unit getters link = .ok lines) : ∀ line ∈ lines, tag? line = none := by
  unfold linkLines at compiled
  split at compiled
  · cases compiled
  · obtain ⟨type, -, compiled⟩ := exists_of_bind_eq_ok compiled
    obtain ⟨description, -, compiled⟩ := exists_of_bind_eq_ok compiled
    cases compiled
    refine List.forall_mem_append.mpr ⟨List.forall_mem_cons.mpr ⟨?_, by decide⟩, ?_⟩
    · simp only [String.append_assoc]
      exact tag?_append_eq_none (by decide) _
    · intro line member
      obtain ⟨text, -, rfl⟩ := List.mem_map.mp member
      exact tag?_indented text

/-- Where links are shown, what is shown of each is indented, so that it cannot be a tag. -/
theorem closed_links (compiled : links unit = .ok sections) : Closed sections := by
  obtain ⟨link, -, compiled⟩ := exists_of_bind_eq_ok compiled
  split at compiled
  · dsimp only at compiled
    split at compiled
    · cases compiled
      exact closed_nil
    · obtain ⟨getters, -, compiled⟩ := exists_of_bind_eq_ok compiled
      obtain ⟨blocks, mapped, compiled⟩ := exists_of_bind_eq_ok compiled
      cases compiled
      have plain : ∀ line ∈ blocks.flatten, tag? line = none := by
        intro line member
        obtain ⟨block, isBlock, inBlock⟩ := List.mem_flatten.mp member
        obtain ⟨link, -, ofLink⟩ := exists_of_mem_of_mapM mapped isBlock
        exact tag?_of_mem_linkLines ofLink line inBlock
      refine .cons (fun elements => ?_) closed_nil
      have opens : Leads elements ["<Segment>", "<Section type=\"parameters\">"]
          (.block :: .segment :: elements) := .opens rfl (.opens rfl .nil)
      exact Leads.plain rfl opens |>.followedBy (.of_plain plain)
        |>.append (.closes rfl (.closes rfl .nil))
  · cases compiled
    exact closed_nil

theorem untagged_of_linkSignature? (untagged : unit.Untagged) {s : CallSignature}
    (found : linkSignature? unit = .ok (some s)) : s.Untagged := by
  obtain ⟨cls, isClass, found⟩ := exists_of_bind_eq_ok found
  obtain ⟨m, isMethod, first⟩ := List.exists_of_findSome?_eq_some (Except.ok.inj found)
  have ofClass := (untagged.requiredClass isClass).child (List.mem_of_mem_filter isMethod)
  split at first
  · rename_i signatures
    split at first
    · cases first
      exact ofClass.signature (signatures ▸ List.mem_cons_self)
    · cases first
  · cases first

theorem closed_bindings (untagged : unit.Untagged) (compiled : bindings unit = .ok sections) :
    Closed sections := by
  obtain ⟨included, -, compiled⟩ := exists_of_bind_eq_ok compiled
  obtain ⟨signature, found, compiled⟩ := exists_of_bind_eq_ok compiled
  split at compiled
  · split at compiled
    · obtain ⟨description, described, compiled⟩ := exists_of_bind_eq_ok compiled
      obtain ⟨examples, illustrated, compiled⟩ := exists_of_bind_eq_ok compiled
      cases compiled
      have documented := (untagged_of_linkSignature? untagged found).documented
      refine .cons (fun elements => ?_) closed_nil
      exact leads_segment elements
        |>.followedBy (documented.selfClosed_description described)
        |>.followedBy (.single rfl)
        |>.followedBy (documented.selfClosed_examples illustrated)
        |>.append (leads_endSegment elements)
    · cases compiled
      exact closed_nil
  · cases compiled
    exact closed_nil

end Section

end DocPress
