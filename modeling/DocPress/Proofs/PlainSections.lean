import DocPress.Proofs.NestedFields
import DocPress.Section.ClassGroups
import DocPress.Section.Groups

/-! # Sections without anchors

Only the sections of nested fields have anchors (`Section.anchors`). Introductions, functions, the
constructor, the methods, and the links and bindings of a class have none. -/

set_option autoImplicit false

namespace DocPress

namespace Section

/-- The anchors of the sections that have one, in order. -/
def anchors (sections : List Section) : List String := sections.filterMap Section.anchor

@[simp] theorem anchors_append (first rest : List Section) :
    anchors (first ++ rest) = anchors first ++ anchors rest := List.filterMap_append

theorem anchors_cons_of_none {s : Section} (noAnchor : s.anchor = none) (rest : List Section) :
    anchors (s :: rest) = anchors rest := List.filterMap_cons_none noAnchor

theorem anchors_eq_nil_iff {sections : List Section} :
    anchors sections = [] ↔ ∀ s ∈ sections, s.anchor = none := List.filterMap_eq_nil_iff

variable {unit : DocUnit} {sections : List Section}

theorem anchors_groupHeading (title : Option String) : anchors (groupHeading title) = [] := by
  unfold groupHeading
  split
  · rfl
  · split <;> rfl

theorem anchors_about {comment : DocComment} (compiled : about comment = .ok sections) :
    anchors sections = [] := by
  obtain ⟨summary, -, compiled⟩ := exists_of_bind_eq_ok compiled
  obtain ⟨examples, -, compiled⟩ := exists_of_bind_eq_ok compiled
  cases compiled
  rfl

/-! ## Functions and methods -/

theorem anchor_of_ofFunction {qualifier : String} {f : Declaration} {s : Section}
    (compiled : ofFunction unit qualifier f = .ok s) : s.anchor = none := by
  obtain ⟨signature, -, compiled⟩ := exists_of_bind_eq_ok compiled
  obtain ⟨shown, -, compiled⟩ := exists_of_bind_eq_ok compiled
  obtain ⟨parameters, -, compiled⟩ := exists_of_bind_eq_ok compiled
  obtain ⟨returns, -, compiled⟩ := exists_of_bind_eq_ok compiled
  obtain ⟨description, -, compiled⟩ := exists_of_bind_eq_ok compiled
  obtain ⟨examples, -, compiled⟩ := exists_of_bind_eq_ok compiled
  cases compiled
  rfl

theorem anchors_functionGroup {fs : List Declaration} {title within : Option String}
    (compiled : functionGroup unit fs title within = .ok sections) : anchors sections = [] := by
  unfold functionGroup at compiled
  split at compiled
  · cases compiled
    rfl
  · obtain ⟨functions, mapped, compiled⟩ := exists_of_bind_eq_ok compiled
    cases compiled
    rw [anchors_append, anchors_groupHeading, List.nil_append]
    refine anchors_eq_nil_iff.mpr fun s member => ?_
    obtain ⟨f, -, ofFunction⟩ := exists_of_mem_of_mapM mapped member
    exact anchor_of_ofFunction ofFunction

/-- A method that is given no anchor. -/
theorem anchors_of_ofMethod {method : Declaration} {title parametersTitle : String} {level : Int}
    {parent : Option String}
    (compiled : ofMethod unit method title level none parent parametersTitle = .ok sections) :
    anchors sections = [] := by
  by_cases isMethod : method.kind = .methodDecl
  · obtain ⟨s, type, body, -, -, rfl⟩ := exists_of_ofMethod isMethod compiled
    rfl
  · unfold ofMethod at compiled
    rw [if_pos isMethod] at compiled
    cases compiled
    rfl

theorem anchors_methods {builders : BuilderMethods}
    (compiled : methods unit builders = .ok sections) : anchors sections = [] := by
  obtain ⟨ms, -, compiled⟩ := exists_of_bind_eq_ok compiled
  split at compiled
  · cases compiled
    rfl
  · obtain ⟨groups, mapped, compiled⟩ := exists_of_bind_eq_ok compiled
    cases compiled
    rw [anchors_cons_of_none rfl]
    refine anchors_eq_nil_iff.mpr fun s member => ?_
    obtain ⟨group, isGroup, inGroup⟩ := List.mem_flatten.mp member
    obtain ⟨m, -, ofMethod⟩ := exists_of_mem_of_mapM mapped isGroup
    exact anchors_eq_nil_iff.mp (anchors_of_ofMethod ofMethod) s inGroup

theorem anchors_constructorSection (compiled : constructorSection unit = .ok sections) :
    anchors sections = [] := by
  obtain ⟨cls, -, compiled⟩ := exists_of_bind_eq_ok compiled
  split at compiled
  · cases compiled
  · obtain ⟨signature, -, compiled⟩ := exists_of_bind_eq_ok compiled
    obtain ⟨shown, -, compiled⟩ := exists_of_bind_eq_ok compiled
    obtain ⟨parameters, -, compiled⟩ := exists_of_bind_eq_ok compiled
    cases compiled
    rfl

/-! ## Links and bindings -/

theorem anchors_links (compiled : links unit = .ok sections) : anchors sections = [] := by
  obtain ⟨link, -, compiled⟩ := exists_of_bind_eq_ok compiled
  split at compiled
  · dsimp only at compiled
    split at compiled
    · cases compiled
      rfl
    · obtain ⟨getters, -, compiled⟩ := exists_of_bind_eq_ok compiled
      obtain ⟨lines, -, compiled⟩ := exists_of_bind_eq_ok compiled
      cases compiled
      rfl
  · cases compiled
    rfl

theorem anchors_bindings (compiled : bindings unit = .ok sections) : anchors sections = [] := by
  obtain ⟨included, -, compiled⟩ := exists_of_bind_eq_ok compiled
  obtain ⟨signature, -, compiled⟩ := exists_of_bind_eq_ok compiled
  split at compiled
  · split at compiled
    · obtain ⟨description, -, compiled⟩ := exists_of_bind_eq_ok compiled
      obtain ⟨examples, -, compiled⟩ := exists_of_bind_eq_ok compiled
      cases compiled
      rfl
    · cases compiled
      rfl
  · cases compiled
    rfl

end Section

end DocPress
