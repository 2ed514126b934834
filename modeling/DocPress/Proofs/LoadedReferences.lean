import DocPress.Proofs.LoadedParts
import DocPress.Proofs.NestedFields
import DocPress.Proofs.ReflectionIndex

/-! # The targets of loaded references

Every reference by a number is read with the one index of its document, wherever it stands. Its
target has the file of the description of that number if the index holds the description. There is
no target if the reader comes to the description only on a way that the index does not follow:
through the signature of a getter, a parameter or a type.

* `NumberedOnce`: no number belongs to two descriptions.
* `HostDocument`: a document whose index does not hold the getter of an accessor.
* `target_of_numbered_reference`: the targets of references by a number. -/

set_option autoImplicit false

namespace DocPress

variable {document d : Data}

/-! ## Numbers -/

/-- The descriptions of a document that a number can belong to: those of the index, and whatever is
visited except for types. -/
def Described (document r : Data) : Prop :=
  Indexed document r ∨ ∃ role, role ≠ .type ∧ Reads document role r

/-- A document that gives no number to two descriptions. -/
def NumberedOnce (document : Data) : Prop :=
  ∀ r r' n, Described document r → Described document r' →
    Index.number? r = some n → Index.number? r' = some n → r = r'

theorem Indexed.parts_subset (indexed : Indexed document d) : d.parts ⊆ document.parts := by
  induction indexed with
  | document => exact List.Subset.refl _
  | member _ isMembers isMember inside =>
    exact fun r isPart => inside (Data.mem_parts_of_elementsOrAt isMembers isMember isPart)
  | signature _ isSignatures isSignature inside =>
    exact fun r isPart => inside (Data.mem_parts_of_elementsOrAt isSignatures isSignature isPart)

theorem Reads.parts_subset {role : Role} (reads : Reads document role d) :
    d.parts ⊆ document.parts := by
  induction reads with
  | document => exact List.Subset.refl _
  | module isMembers isMember _ =>
    exact fun r isPart => Data.mem_parts_of_elementsOrAt isMembers isMember isPart
  | memberOfUnit _ isItems isItem inside | member _ _ isItems isItem inside
  | signature _ _ isItems isItem inside | parameter _ isItems isItem inside
  | item _ _ isItems isItem inside | argument _ _ isItems isItem inside
  | field _ _ isItems isItem inside =>
    exact fun r isPart => inside (Data.mem_parts_of_elementsOrAt isItems isItem isPart)
  | getter _ _ found inside | declared _ _ found inside | result _ found inside
  | literal _ _ found inside =>
    exact fun r isPart => inside (Data.mem_parts_of_present? found isPart)
  | element _ _ found inside =>
    exact fun r isPart => inside (Data.mem_parts_of_field? found isPart)
  | alternative _ _ found isItems isItem inside =>
    refine fun r isPart => inside (Data.mem_parts_of_field? found ?_)
    exact Data.mem_parts_of_elements isItems isItem isPart
  | span _ _ isSpans isSpan isParts inside =>
    refine fun r isPart => inside (Data.mem_parts_of_elementsOrAt isSpans isSpan ?_)
    unfold spanParts at isParts
    split at isParts
    · cases isParts
    · exact Data.mem_parts_of_elements isParts List.mem_cons_self isPart
  | call _ isSignatures inside =>
    refine fun r isPart => inside ?_
    exact Data.mem_parts_of_elementsOrAt isSignatures List.mem_cons_self isPart

/-- It is enough to look at all values of a document. -/
theorem numberedOnce_of_parts (once : ∀ r ∈ document.parts, ∀ r' ∈ document.parts,
    (Index.number? r).isSome → Index.number? r = Index.number? r' → r = r') :
    NumberedOnce document := by
  have isPart : ∀ r, Described document r → r ∈ document.parts := by
    rintro r (indexed | ⟨role, -, reads⟩)
    · exact indexed.parts_subset r.self_mem_parts
    · exact reads.parts_subset r.self_mem_parts
  intro r r' n described described' isNumber isNumber'
  refine once r (isPart r described) r' (isPart r' described') ?_ (isNumber.trans isNumber'.symm)
  rw [isNumber]
  rfl

/-! ## A getter that is not in the index -/

namespace HostDocument

/-- Where the accessor and its getter are declared. -/
def hostPath : Data := .text "platform/src/components/aws/host.ts"

def sources : Data := .list [.map [("fileName", hostPath)]]

def stringType : Data := .map [("type", .text "intrinsic"), ("name", .text "string")]

def getter : Data :=
  .map [("id", .int 6), ("name", .text "host"), ("sources", sources), ("type", stringType)]

def accessor : Data :=
  .map [("id", .int 5), ("kind", .int 262144), ("name", .text "host"), ("sources", sources),
    ("getSignature", getter)]

def reference (target : Int) : Data :=
  .map [("type", .text "reference"), ("name", .text "host"), ("target", .int target)]

/-- A variable whose type is a reference by a number. -/
def var (number target : Int) : Data :=
  .map [("id", .int number), ("kind", .int 32), ("name", .text "current"),
    ("type", reference target)]

/-- A document with an accessor and two variables, which refer to the accessor and to its getter. -/
def project : Data :=
  .map [("id", .int 0), ("children", .list [accessor, var 7 5, var 8 6])]

/-! ### The index -/

theorem collect_of_leaf {d : Data} (isMap : d.isMap = true)
    (noMembers : d.elementsAt "children" = .ok [])
    (noSignatures : d.elementsAt "signatures" = .ok []) :
    Index.collect d = .ok ((Index.number? d).toList.map fun n => (n, d)) := by
  rw [Index.collect_eq, if_pos isMap, noMembers, noSignatures]
  simp [Index.collectAll_eq_mapM, pure, Except.pure, bind, Except.bind]

/-- The getter is not in it. -/
def index : Index := [(0, project), (5, accessor), (7, var 7 5), (8, var 8 6)]

theorem elementsAt_project : project.elementsAt "children" = .ok [accessor, var 7 5, var 8 6] := rfl

theorem collect_project : Index.collect project = .ok index := by
  have ofAccessor : Index.collect accessor = .ok [(5, accessor)] := collect_of_leaf rfl rfl rfl
  have ofVar : ∀ number target, Index.collect (var number target) =
      .ok [(number, var number target)] := fun _ _ => collect_of_leaf rfl rfl rfl
  rw [Index.collect_eq, elementsAt_project]
  simp only [Index.collectAll_eq_mapM]
  show (do
    let below ← (do return (← [accessor, var 7 5, var 8 6].mapM Index.collect).flatten)
    _) = _
  simp only [List.mapM_cons, List.mapM_nil, ofAccessor, ofVar]
  rfl

/-! ### The unit -/

theorem decode_accessor : Declaration.decode? index none accessor =
    .ok (some { Declaration.bare "host" .accessorDecl none [] with
      getter := some ⟨.text "host", [], some (.primitive (.text "string")), none⟩
      sourcePath := some hostPath }) := by
  have ofString : TypeExpr.decode index stringType = .ok (.primitive (.text "string")) := by
    rw [TypeExpr.decode]
    rfl
  have noType : accessor.present? "type" = none := rfl
  have isGetter : accessor.present? "getSignature" = some getter := rfl
  have isResult : getter.present? "type" = some stringType := rfl
  rw [Declaration.decode?_eq]
  simp only [Declaration.decodeOf, CallSignature.decodeGetter_eq, CallSignature.decode_eq,
    TypeExpr.decodeAt_eq, Declaration.decodeAll_eq_mapM, noType, isGetter, isResult, ofString]
  rfl

theorem decode_reference {target : Int} {origin : Option Origin}
    (ofTarget : Origin.decode index (some (.int target)) = .ok origin) :
    Reference.decode index (reference target) = .ok ⟨.text "host", none, none, [], origin⟩ := by
  have isTarget : (reference target).field? "target" = some (.int target) := rfl
  rw [Reference.decode_eq, isTarget, ofTarget]
  rfl

theorem decode_var {number target : Int} {origin : Option Origin}
    (ofTarget : Origin.decode index (some (.int target)) = .ok origin) :
    Declaration.decode? index none (var number target) =
      .ok (some (.bare "current" .variableDecl
        (some (.reference ⟨.text "host", none, none, [], origin⟩)) [])) := by
  have ofReference : TypeExpr.decode index (reference target) =
      .ok (.reference ⟨.text "host", none, none, [], origin⟩) := by
    rw [TypeExpr.decode_reference rfl, decode_reference ofTarget]
    rfl
  have isType : (var number target).present? "type" = some (reference target) := rfl
  have noGetter : (var number target).present? "getSignature" = none := rfl
  rw [Declaration.decode?_eq]
  simp only [Declaration.decodeOf, CallSignature.decodeGetter_eq, TypeExpr.decodeAt_eq,
    Declaration.decodeAll_eq_mapM, isType, noGetter, ofReference]
  rfl

theorem decode_five : Origin.decode index (some (.int 5)) = .ok (some ⟨some hostPath⟩) := rfl

theorem decode_six : Origin.decode index (some (.int 6)) = .ok none := rfl

theorem exists_units : ∃ units, DocUnit.decodeAll project = .ok units := by
  have noModule : [accessor, var 7 5, var 8 6].filterM Data.isModule = .ok [] := rfl
  have ofMembers : ∃ declarations,
      Declaration.decodeAll index none [accessor, var 7 5, var 8 6] = .ok declarations := by
    rw [Declaration.decodeAll_eq_mapM]
    simp only [List.mapM_cons, List.mapM_nil, decode_accessor, decode_var decode_five,
      decode_var decode_six]
    exact ⟨_, rfl⟩
  obtain ⟨declarations, ofMembers⟩ := ofMembers
  refine ⟨[⟨.text "", declarations, none, none⟩], ?_⟩
  rw [DocUnit.decodeAll, collect_project]
  show DocUnit.decodeWith index project = _
  rw [DocUnit.decodeWith, elementsAt_project]
  show (do
    let modules ← [accessor, var 7 5, var 8 6].filterM Data.isModule
    _) = _
  rw [noModule]
  show (do return [← DocUnit.decode index project]) = _
  rw [DocUnit.decode, elementsAt_project]
  show (do return [← (do let declarations ← Declaration.decodeAll index none _; _)]) = _
  rw [ofMembers]
  rfl

/-! ### What is visited -/

theorem numberedOnce_project : NumberedOnce project :=
  numberedOnce_of_parts (by decide +kernel)

theorem indexed_accessor : Indexed project accessor :=
  .member .document elementsAt_project List.mem_cons_self

theorem not_indexed_getter : ¬ Indexed project getter := by
  intro indexed
  have inIndex : (6, getter) ∈ index := (Index.mem_collect_iff collect_project).mpr ⟨indexed, rfl⟩
  simp [index] at inIndex

theorem reads_project : Reads project .unit project :=
  .document elementsAt_project (by decide +kernel)

theorem reads_accessor : Reads project (.declaration none) accessor :=
  .memberOfUnit reads_project elementsAt_project List.mem_cons_self

theorem reads_getter : Reads project .signature getter :=
  .getter reads_accessor rfl rfl

theorem reads_reference {number target : Int}
    (isMember : var number target ∈ [accessor, var 7 5, var 8 6]) :
    Reads project .type (reference target) :=
  .declared (.memberOfUnit reads_project elementsAt_project isMember) rfl rfl

theorem reads_five : Reads project .type (reference 5) :=
  @reads_reference 7 5 (by simp)

theorem reads_six : Reads project .type (reference 6) :=
  @reads_reference 8 6 (by simp)

end HostDocument

/-! ## Targets -/

theorem target_of_decode {index : Index} {ref : Reference}
    (decoded : Reference.decode index d = .ok ref) :
    Origin.decode index (d.field? "target") = .ok ref.target := by
  rw [Reference.decode_eq] at decoded
  obtain ⟨arguments, -, decoded⟩ := exists_of_bind_eq_ok decoded
  obtain ⟨loaded, -, decoded⟩ := exists_of_bind_eq_ok decoded
  obtain ⟨target, ofTarget, decoded⟩ := exists_of_bind_eq_ok decoded
  cases decoded
  exact ofTarget

/-- A reference by the number of a description that the reader visits is loaded, wherever it stands.
Its target has the first source of the description if this is reached from the document along
members and signatures alone, and there is no target otherwise. -/
theorem target_of_numbered_reference {document r d : Data} {units : List DocUnit} {role : Role}
    {n : Int} (decoded : DocUnit.decodeAll document = .ok units) (once : NumberedOnce document)
    (visited : Reads document role r) (isReflection : role ≠ .type)
    (isNumber : Index.number? r = some n) (reads : Reads document .type d)
    (tag : d.field? "type" = some (.text "reference"))
    (target : d.field? "target" = some (.int n)) :
    ∃ index ref, Index.collect document = .ok index ∧ Reference.decode index d = .ok ref ∧
      Holds units (.type (.reference ref)) ∧
      (Indexed document r → ∃ path, r.sourcePath = .ok path ∧ ref.target = some ⟨path⟩) ∧
      (¬ Indexed document r → ref.target = none) := by
  -- the index is whole before anything is read with it
  obtain ⟨index, collected, decoded⟩ := exists_of_bind_eq_ok decoded
  obtain ⟨ref, ofReference, holds⟩ := (loads_of_reads decoded reads).reference tag
  have ofTarget := target_of_decode ofReference
  rw [target] at ofTarget
  -- nothing else in the index has the number of `r`, whether or not `r` is in the index
  have same : ∀ r', Indexed document r' → Index.number? r' = some n → r' = r :=
    fun r' indexed isNumber' => once r' r n (.inl indexed) (.inr ⟨role, isReflection, visited⟩)
      isNumber' isNumber
  refine ⟨index, ref, collected, ofReference, holds, fun indexed => ?_, fun notIndexed => ?_⟩
  · simp only [Origin.decode, Index.find?_of_indexed collected same indexed isNumber] at ofTarget
    obtain ⟨path, isPath, ofTarget⟩ := exists_of_bind_eq_ok ofTarget
    exact ⟨path, isPath, (Except.ok.inj ofTarget).symm⟩
  · simp only [Origin.decode, Index.find?_of_not_indexed collected same notIndexed] at ofTarget
    exact (Except.ok.inj ofTarget).symm

open HostDocument in
/-- The target of one variable is the accessor. The target of the other, its getter, is lost. -/
theorem target_of_numbered_reference_host : ∃ units ref ref',
    DocUnit.decodeAll project = .ok units ∧
      Reference.decode index (reference 5) = .ok ref ∧
      Holds units (.type (.reference ref)) ∧ ref.target = some ⟨some hostPath⟩ ∧
      Reference.decode index (reference 6) = .ok ref' ∧
      Holds units (.type (.reference ref')) ∧ ref'.target = none := by
  obtain ⟨units, decoded⟩ := exists_units
  obtain ⟨_, ref, collected, ofReference, held, target, -⟩ :=
    target_of_numbered_reference decoded numberedOnce_project reads_accessor
      (by decide) rfl reads_five rfl rfl
  obtain ⟨_, ref', collected', ofReference', held', -, noTarget⟩ :=
    target_of_numbered_reference decoded numberedOnce_project reads_getter
      (by decide) rfl reads_six rfl rfl
  cases collect_project.symm.trans collected
  cases collect_project.symm.trans collected'
  obtain ⟨path, isPath, isTarget⟩ := target indexed_accessor
  cases isPath
  exact ⟨units, ref, ref', decoded, ofReference, held, isTarget, ofReference', held',
    noTarget not_indexed_getter⟩

open HostDocument in
/-- What the reader visits need not be the target of a reference by its number. -/
theorem visited_target_missing : ¬ ∀ (document r d : Data) (units : List DocUnit) (role : Role)
    (n : Int), DocUnit.decodeAll document = .ok units → NumberedOnce document →
      Reads document role r → role ≠ .type → Index.number? r = some n →
      Reads document .type d → d.field? "type" = some (.text "reference") →
      d.field? "target" = some (.int n) →
      ∃ index ref path, Index.collect document = .ok index ∧
        Reference.decode index d = .ok ref ∧ r.sourcePath = .ok path ∧
        ref.target = some ⟨path⟩ := by
  intro targets
  obtain ⟨units, decoded⟩ := exists_units
  obtain ⟨_, _, path, collected, ofReference, -, isTarget⟩ :=
    targets project getter (reference 6) units .signature 6 decoded numberedOnce_project
      reads_getter (by decide) rfl reads_six rfl rfl
  cases collect_project.symm.trans collected
  cases (decode_reference decode_six).symm.trans ofReference
  cases isTarget

end DocPress
