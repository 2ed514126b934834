import DocPress.Proofs.FieldTree
import DocPress.Proofs.NestedFields
import DocPress.Proofs.Tags
import DocPress.Section.Groups

/-! # The texts of comments

The summary and the examples of a comment are lines of the page as they are written. If none of them
is a tag, the tags of the page are those that sections have of their own.

* `DocUnit.comments`: the comments anywhere in a unit, in its declarations and in their types.
* `DocComment.Untagged`: a comment of whose lines none is a tag. A declaration, a type or a unit is
  untagged if all comments in it are, and then so is each of its parts. -/

set_option autoImplicit false

namespace DocPress

/-! ## Comments -/

mutual
/-- The comments in a type. -/
def TypeExpr.comments : TypeExpr → List DocComment
  | .primitive _ => []
  | .literal _ => []
  | .template _ spans => TypeExpr.commentsOfSpans spans
  | .union members => TypeExpr.commentsOfAll members
  | .array element => element.comments
  | .tuple elements => TypeExpr.commentsOfAll elements
  | .reference ref => ref.comments
  | .object fields => Declaration.commentsOfAll fields
  | .callable parameters result => Declaration.commentsOfAll parameters ++ result.comments
  | .other _ => []

def Reference.comments : Reference → List DocComment
  | ⟨_, _, _, arguments, _⟩ => TypeExpr.commentsOfAll arguments

def Declaration.comments : Declaration → List DocComment
  | ⟨_, _, _, comment, type, signatures, getter, children, _, _⟩ =>
    comment.toList ++ TypeExpr.commentsOfOptional type ++ CallSignature.commentsOfAll signatures
      ++ CallSignature.commentsOfOptional getter ++ Declaration.commentsOfAll children

def CallSignature.comments : CallSignature → List DocComment
  | ⟨_, parameters, result, comment⟩ =>
    comment.toList ++ Declaration.commentsOfAll parameters ++ TypeExpr.commentsOfOptional result

def TypeExpr.commentsOfAll : List TypeExpr → List DocComment
  | [] => []
  | t :: ts => t.comments ++ TypeExpr.commentsOfAll ts

def TypeExpr.commentsOfSpans : List (TypeExpr × Data) → List DocComment
  | [] => []
  | (t, _) :: spans => t.comments ++ TypeExpr.commentsOfSpans spans

def TypeExpr.commentsOfOptional : Option TypeExpr → List DocComment
  | none => []
  | some t => t.comments

def Declaration.commentsOfAll : List Declaration → List DocComment
  | [] => []
  | d :: ds => d.comments ++ Declaration.commentsOfAll ds

def CallSignature.commentsOfAll : List CallSignature → List DocComment
  | [] => []
  | s :: ss => s.comments ++ CallSignature.commentsOfAll ss

def CallSignature.commentsOfOptional : Option CallSignature → List DocComment
  | none => []
  | some s => s.comments
end

/-- The comment of a unit and those in its declarations. -/
def DocUnit.comments (u : DocUnit) : List DocComment :=
  u.comment.toList ++ u.declarations.flatMap Declaration.comments

theorem TypeExpr.commentsOfAll_eq (ts : List TypeExpr) :
    TypeExpr.commentsOfAll ts = ts.flatMap TypeExpr.comments := by
  induction ts with
  | nil => rfl
  | cons t ts inductionHypothesis => exact congrArg _ inductionHypothesis

theorem Declaration.commentsOfAll_eq (ds : List Declaration) :
    Declaration.commentsOfAll ds = ds.flatMap Declaration.comments := by
  induction ds with
  | nil => rfl
  | cons d ds inductionHypothesis => exact congrArg _ inductionHypothesis

theorem CallSignature.commentsOfAll_eq (ss : List CallSignature) :
    CallSignature.commentsOfAll ss = ss.flatMap CallSignature.comments := by
  induction ss with
  | nil => rfl
  | cons s ss inductionHypothesis => exact congrArg _ inductionHypothesis

/-! ## Comments without tags -/

/-- A comment of whose lines none is a tag: neither its summary nor one of its examples. -/
structure DocComment.Untagged (c : DocComment) : Prop where
  summary : ∀ text, c.summaryLine = .ok text → tag? text = none
  examples : ∀ b ∈ c.exampleTags, ∀ text, CommentPart.join b.content = .ok text → tag? text = none

theorem CommentPart.eq_textOf_of_join {parts : List CommentPart} {text : String}
    (joined : CommentPart.join parts = .ok text) : text = CommentPart.textOf parts := by
  unfold CommentPart.join at joined
  split at joined
  · cases joined
  · cases joined
    rfl

theorem DocComment.Untagged.of_texts {c : DocComment}
    (plain : ∀ text ∈ c.summaryText :: c.examples, tag? text = none) : c.Untagged := by
  rw [List.forall_mem_cons] at plain
  constructor
  · intro text joined
    rw [CommentPart.eq_textOf_of_join joined]
    exact plain.1
  · intro b isExample text joined
    rw [CommentPart.eq_textOf_of_join joined]
    exact plain.2 _ (List.mem_map_of_mem isExample)

def TypeExpr.Untagged (t : TypeExpr) : Prop := ∀ c ∈ t.comments, c.Untagged

def Declaration.Untagged (d : Declaration) : Prop := ∀ c ∈ d.comments, c.Untagged

def CallSignature.Untagged (s : CallSignature) : Prop := ∀ c ∈ s.comments, c.Untagged

def DocUnit.Untagged (u : DocUnit) : Prop := ∀ c ∈ u.comments, c.Untagged

namespace Declaration.Untagged

variable {d : Declaration}

theorem comment (untagged : d.Untagged) {c : DocComment} (isComment : d.comment = some c) :
    c.Untagged := by
  cases d
  cases isComment
  exact untagged c (by simp [Declaration.comments])

theorem type (untagged : d.Untagged) {t : TypeExpr} (isType : d.type = some t) : t.Untagged := by
  cases d
  cases isType
  exact fun c member => untagged c (by simp [Declaration.comments, TypeExpr.commentsOfOptional,
    member])

theorem signature (untagged : d.Untagged) {s : CallSignature} (member : s ∈ d.signatures) :
    s.Untagged := by
  cases d
  refine fun c inSignature => untagged c ?_
  simp only [Declaration.comments, CallSignature.commentsOfAll_eq, List.mem_append,
    List.mem_flatMap]
  exact .inl (.inl (.inr ⟨s, member, inSignature⟩))

theorem getter (untagged : d.Untagged) {s : CallSignature} (isGetter : d.getter = some s) :
    s.Untagged := by
  cases d
  cases isGetter
  exact fun c member => untagged c (by simp [Declaration.comments,
    CallSignature.commentsOfOptional, member])

theorem child (untagged : d.Untagged) {m : Declaration} (member : m ∈ d.children) :
    m.Untagged := by
  cases d
  refine fun c inChild => untagged c ?_
  simp only [Declaration.comments, Declaration.commentsOfAll_eq, List.mem_append,
    List.mem_flatMap]
  exact .inr ⟨m, member, inChild⟩

end Declaration.Untagged

namespace CallSignature.Untagged

variable {s : CallSignature}

theorem comment (untagged : s.Untagged) {c : DocComment} (isComment : s.comment = some c) :
    c.Untagged := by
  cases s
  cases isComment
  exact untagged c (by simp [CallSignature.comments])

theorem parameter (untagged : s.Untagged) {p : Declaration} (member : p ∈ s.parameters) :
    p.Untagged := by
  cases s
  refine fun c inParameter => untagged c ?_
  simp only [CallSignature.comments, Declaration.commentsOfAll_eq, List.mem_append,
    List.mem_flatMap]
  exact .inl (.inr ⟨p, member, inParameter⟩)

theorem result (untagged : s.Untagged) {t : TypeExpr} (isResult : s.result = some t) :
    t.Untagged := by
  cases s
  cases isResult
  exact fun c member => untagged c (by simp [CallSignature.comments, TypeExpr.commentsOfOptional,
    member])

end CallSignature.Untagged

namespace DocUnit.Untagged

variable {u : DocUnit}

theorem comment (untagged : u.Untagged) {c : DocComment} (isComment : u.comment = some c) :
    c.Untagged := untagged c (by simp [DocUnit.comments, isComment])

theorem declaration (untagged : u.Untagged) {d : Declaration} (member : d ∈ u.declarations) :
    d.Untagged := by
  refine fun c inDeclaration => untagged c ?_
  rw [DocUnit.comments, List.mem_append, List.mem_flatMap]
  exact .inr ⟨d, member, inDeclaration⟩

end DocUnit.Untagged

/-! ## Fields -/

theorem TypeExpr.untagged_object_iff {fields : List Declaration} :
    (TypeExpr.object fields).Untagged ↔ ∀ f ∈ fields, f.Untagged := by
  simp only [TypeExpr.Untagged, Declaration.Untagged, TypeExpr.comments,
    Declaration.commentsOfAll_eq, List.mem_flatMap]
  exact ⟨fun untagged f member c inField => untagged c ⟨f, member, inField⟩,
    fun untagged c ⟨f, member, inField⟩ => untagged f member c inField⟩

mutual
/-- The fields that a type shows are parts of the type. -/
theorem TypeExpr.Shows.untagged : ∀ {t : TypeExpr} {way : List Step} {d : Declaration},
    t.Shows way d → t.Untagged → d.Untagged
  | _, _, _, .member isMember shows, untagged => by
    refine shows.untagged fun c inMember => untagged c ?_
    rw [TypeExpr.comments, TypeExpr.commentsOfAll_eq, List.mem_flatMap]
    exact ⟨_, List.mem_of_getElem? isMember, inMember⟩
  | _, _, _, .element shows, untagged => by
    refine shows.untagged fun c inElement => untagged c ?_
    rwa [TypeExpr.comments]
  | _, _, _, @TypeExpr.Shows.argument ref _ _ _ _ isArgument shows, untagged => by
    refine shows.untagged fun c inArgument => untagged c ?_
    cases ref
    rw [TypeExpr.comments, Reference.comments, TypeExpr.commentsOfAll_eq, List.mem_flatMap]
    exact ⟨_, List.mem_of_getElem? isArgument, inArgument⟩
  | _, _, _, .field isField _, untagged =>
    TypeExpr.untagged_object_iff.mp untagged _ (List.mem_of_getElem? isField)
  | _, _, _, .nested isField _ nests, untagged =>
    nests.untagged (TypeExpr.untagged_object_iff.mp untagged _ (List.mem_of_getElem? isField))

theorem Declaration.Nests.untagged : ∀ {f : Declaration} {way : List Step} {d : Declaration},
    f.Nests way d → f.Untagged → d.Untagged
  | _, _, _, .property _ type shows, untagged => shows.untagged (untagged.type type)
  | _, _, _, .accessor _ getter result shows, untagged =>
    shows.untagged ((untagged.getter getter).result result)
end

/-! ## What documents a declaration -/

/-- What documents a declaration without tags. -/
structure Documented.Untagged (o : Documented) : Prop where
  comment : ∀ c, o.comment = some c → c.Untagged
  type : ∀ t, o.type = some t → t.Untagged

theorem CallSignature.Untagged.documented {s : CallSignature} (untagged : s.Untagged) :
    s.documented.Untagged := ⟨fun _ => untagged.comment, fun _ => untagged.result⟩

theorem Declaration.Untagged.documented {d : Declaration} (untagged : d.Untagged) :
    d.documented.Untagged := by
  refine ⟨fun _ => untagged.comment, fun t isType => ?_⟩
  simp only [Declaration.documented, Declaration.declaredType?] at isType
  split at isType
  · rename_i g _ isGetter
    exact (untagged.getter isGetter).result isType
  · exact untagged.type isType

theorem Declaration.Untagged.documentedNested {d : Declaration} (untagged : d.Untagged) :
    d.documentedNested.Untagged := by
  unfold Declaration.documentedNested
  split
  · rename_i isSignatures
    exact (untagged.signature (isSignatures ▸ List.mem_cons_self)).documented
  · exact (untagged.getter ‹_›).documented
  · exact untagged.documented

theorem DocComment.Untagged.tag?_of_mem_examples {c : DocComment} (untagged : c.Untagged)
    {lines : List String} (shown : c.exampleLines = .ok lines) :
    ∀ line ∈ lines, tag? line = none := by
  intro line member
  obtain ⟨b, isExample, isText⟩ := exists_of_mem_of_mapM shown member
  exact untagged.examples b isExample line isText

namespace Documented.Untagged

variable {o : Documented} {lines : List String}

theorem tag?_of_mem_description (untagged : o.Untagged) (shown : o.description = .ok lines) :
    ∀ line ∈ lines, tag? line = none := by
  unfold Documented.description at shown
  split at shown
  · cases shown
    simp
  · rename_i c isComment
    split at shown
    · cases shown
      simp
    · obtain ⟨text, isSummary, shown⟩ := exists_of_bind_eq_ok shown
      cases shown
      exact List.forall_mem_singleton.mpr ((untagged.comment c isComment).summary text isSummary)

theorem selfClosed_description (untagged : o.Untagged) (shown : o.description = .ok lines) :
    SelfClosed lines := .of_plain (untagged.tag?_of_mem_description shown)

theorem selfClosed_examples (untagged : o.Untagged) (shown : o.examples = .ok lines) :
    SelfClosed lines := by
  unfold Documented.examples at shown
  split at shown
  · cases shown
    exact .nil
  · rename_i c isComment
    exact .of_plain ((untagged.comment c isComment).tag?_of_mem_examples shown)

/-- The fields nested in an untagged type are untagged. -/
theorem field (untagged : o.Untagged) {place : Place} {name : String} {e : FieldEntry}
    (member : e ∈ Section.nestedFields place o name) : e.field.Untagged := by
  have listed : Listed (Section.nestedFields place o name) e.place e.field := ⟨e, member, rfl, rfl⟩
  obtain ⟨t, isType, way, -, shows⟩ := (TypeExpr.listed_fieldsOfOptional_iff ..).mp listed
  exact shows.untagged (untagged.type t isType)

end Documented.Untagged

end DocPress
