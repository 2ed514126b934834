import DocPress.Proofs.DecodeSteps
import DocPress.Proofs.Descriptions
import DocPress.Proofs.RenderedTypes

/-! # Reading what is written

The description of a declaration is read as the declaration that it was written for, with all types,
signatures, comments and members that it holds.

* `mapM_map_eq_ok`: what several descriptions are read as, from what each of them is read as.
* `DocUnit.decodeAll_project`: the document of several units is read as these units.
* `Declaration.document_loads_back`: the same for one declaration, in any document. -/

set_option autoImplicit false

namespace DocPress

variable {index : Index} {d : Data}

/-! ## Values at a key -/

namespace Data

theorem present?_of_field? {key : String} {v : Data} (found : d.field? key = some v)
    (isTrue : v.isTrue = true) : d.present? key = some v := by
  rw [present?, found, Option.filter_some, if_pos isTrue]

theorem present?_of_absent {key : String} (absent : d.field? key = none) :
    d.present? key = none := by
  rw [present?, absent, Option.filter_none]

/-- A list without items does not count as present, and its items are none all the same. -/
theorem elementsOrAt_of_field? {fault : DecodeFault} {key : String} {items : List Data}
    (found : d.field? key = some (.list items)) : d.elementsOrAt fault key = .ok items := by
  cases items with
  | nil => rw [elementsOrAt, present?, found, Option.filter_some, if_neg (by simp [isTrue])]
  | cons item rest =>
    rw [elementsOrAt, present?_of_field? found rfl]
    rfl

theorem elementsAt_of_field? {key : String} {items : List Data}
    (found : d.field? key = some (.list items)) : d.elementsAt key = .ok items :=
  elementsOrAt_of_field? found

theorem elementsAt_of_absent {key : String} (absent : d.field? key = none) :
    d.elementsAt key = .ok [] := by
  rw [elementsAt, elementsOrAt, present?_of_absent absent]

theorem nameAt_of_field? {key absent : String} {v : Data} (found : d.field? key = some v) :
    d.nameAt key absent = v := by
  rw [nameAt, found, Option.getD_some]

theorem valueAt?_of_field? {key : String} {v : Option Data} (found : d.field? key = v)
    (notNull : v ≠ some .null) : d.valueAt? key = v := by
  rw [valueAt?, found]
  cases v with
  | none => rfl
  | some v =>
    rw [Option.filter_some, if_pos]
    simpa using notNull

theorem sourcePath_of_field? {path : Option Data}
    (found : d.field? "sources" = path.map sourcesOf) (notNull : path ≠ some .null) :
    d.sourcePath = .ok path := by
  cases path with
  | none => rw [sourcePath, present?_of_absent found]
  | some path =>
    have file : (Data.map [("fileName", path)]).valueAt? "fileName" = some path :=
      valueAt?_of_field? rfl notNull
    rw [sourcePath, present?_of_field? found rfl]
    show Except.ok ((Data.map [("fileName", path)]).valueAt? "fileName") = _
    rw [file]

end Data

theorem mapM_map_eq_ok {ε α β γ : Type} {f : β → Except ε γ} {write : α → β} {value : α → γ}
    {xs : List α} (reads : ∀ x ∈ xs, f (write x) = .ok (value x)) :
    (xs.map write).mapM f = .ok (xs.map value) := by
  induction xs with
  | nil => rfl
  | cons x xs inductionHypothesis =>
    obtain ⟨first, others⟩ := List.forall_mem_cons.mp reads
    rw [List.map_cons, List.mapM_cons, first, inductionHypothesis others]
    rfl

theorem mapM_map_eq_ok_self {ε α β : Type} {f : β → Except ε α} {write : α → β} {xs : List α}
    (reads : ∀ x ∈ xs, f (write x) = .ok x) : (xs.map write).mapM f = .ok xs := by
  simpa using mapM_map_eq_ok reads

/-! ## Comments, modifiers and literals -/

namespace TagSet

theorem insertTag_of_lt {t : String} {tags : List String} (below : ∀ u ∈ tags, t < u) :
    insertTag t tags = t :: tags := by
  cases tags with
  | nil => rfl
  | cons u tags => rw [insertTag, if_pos (below u List.mem_cons_self)]

theorem decodeItems_of_isPlain (items : List Data) (plain : isPlain d = true) :
    decodeItems (d :: items) = (do return (← decodeItems items).insertOther d plain) := by
  cases d with
  | text => cases plain
  | _ => exact dif_pos plain

/-- A list of different members that are no names is read as the set of these. -/
theorem decodeItems_others {others : List Data} (plain : ∀ d ∈ others, isPlain d = true)
    (distinct : others.Pairwise fun d e => same d e = false) :
    decodeItems others = .ok ⟨[], .nil, others, plain, distinct⟩ := by
  induction others with
  | nil => rfl
  | cons d others inductionHypothesis =>
    obtain ⟨first, different⟩ := List.pairwise_cons.mp distinct
    obtain ⟨firstPlain, plain⟩ := List.forall_mem_cons.mp plain
    have kept : (others.filter fun e => !same d e) = others :=
      List.filter_eq_self.mpr fun e member => by rw [first e member]; rfl
    rw [decodeItems_of_isPlain others firstPlain, inductionHypothesis plain different]
    simp only [bind, Except.bind, pure, Except.pure, insertOther, kept]

/-- Names in increasing order in front of other members are read as the set of them all. -/
theorem decodeItems_texts_append {tags : List String} {others : List Data}
    (sorted : tags.Pairwise (· < ·)) (plain : ∀ d ∈ others, isPlain d = true)
    (distinct : others.Pairwise fun d e => same d e = false) :
    decodeItems (tags.map .text ++ others) = .ok ⟨tags, sorted, others, plain, distinct⟩ := by
  induction tags with
  | nil => exact decodeItems_others plain distinct
  | cons t tags inductionHypothesis =>
    obtain ⟨below, sorted⟩ := List.pairwise_cons.mp sorted
    rw [List.map_cons, List.cons_append, decodeItems, inductionHypothesis sorted]
    simp only [bind, Except.bind, pure, Except.pure, insert, insertTag_of_lt below]

end TagSet

namespace CommentPart

theorem decode_document (p : CommentPart) : decode p.document = .ok p := rfl

theorem mapM_decode (parts : List CommentPart) :
    (parts.map document).mapM decode = .ok parts := by
  apply mapM_map_eq_ok_self
  intro p _
  exact decode_document p

end CommentPart

theorem BlockTag.decode_document (b : BlockTag) : decode b.document = .ok b := by
  have isMap : b.document.isMap = true := rfl
  have content : b.document.elementsAt "content" = .ok (b.content.map CommentPart.document) :=
    Data.elementsAt_of_field? rfl
  rw [decode, if_pos isMap, content]
  show (do
    let content ← (b.content.map CommentPart.document).mapM CommentPart.decode
    return (⟨b.tag, content⟩ : BlockTag)) = _
  rw [CommentPart.mapM_decode]
  rfl

namespace DocComment

/-- A list without modifier tags does not count as present. -/
theorem modifierTags_document (c : DocComment) :
    c.document.present? "modifierTags" = none ∧ c.modifierTags = TagSet.empty ∨
      ∃ tags, c.document.present? "modifierTags" = some tags ∧
        TagSet.decode tags = .ok c.modifierTags := by
  obtain ⟨summary, blockTags, tags, sorted, others, plain, distinct⟩ := c
  have read := TagSet.decodeItems_texts_append sorted plain distinct
  cases tags with
  | cons t tags => exact .inr ⟨_, rfl, read⟩
  | nil =>
    cases others with
    | nil => exact .inl ⟨rfl, rfl⟩
    | cons d others => exact .inr ⟨_, rfl, read⟩

theorem decode_document (c : DocComment) : decode c.document = .ok c := by
  have isMap : c.document.isMap = true := rfl
  have summary : c.document.elementsAt "summary" = .ok (c.summary.map CommentPart.document) :=
    Data.elementsAt_of_field? rfl
  have blockTags : c.document.elementsAt "blockTags" = .ok (c.blockTags.map BlockTag.document) :=
    Data.elementsAt_of_field? rfl
  have tags : (c.blockTags.map BlockTag.document).mapM BlockTag.decode = .ok c.blockTags :=
    mapM_map_eq_ok_self fun b _ => b.decode_document
  rw [decode, if_pos isMap]
  simp only [summary, blockTags, CommentPart.mapM_decode, tags, bind, Except.bind]
  obtain ⟨absent, isEmpty⟩ | ⟨marks, present, read⟩ := c.modifierTags_document
  · rw [absent, ← isEmpty]
    rfl
  · rw [present]
    simp only [read]
    rfl

theorem decodeAt_of_field? {c : Option DocComment}
    (found : d.field? "comment" = c.map document) : decodeAt d = .ok c := by
  cases c with
  | none => rw [decodeAt, Data.present?_of_absent found]
  | some c =>
    rw [decodeAt, Data.present?_of_field? found rfl]
    simp only [decode_document]
    rfl

end DocComment

/-- Modifiers of which none is set are described by a map without entries, which does not count as
present. -/
theorem Modifiers.decode_of_field? {m : Modifiers} (found : d.field? "flags" = some m.document) :
    decode d = .ok m := by
  rw [decode, Data.present?, found]
  obtain ⟨_ | _, _ | _, _ | _, _ | _, _ | _, _ | _⟩ := m <;> rfl

theorem Literal.decode_document (l : Literal) : decode l.document = .ok l := by
  cases l <;> rfl

/-! ## Types, signatures and declarations -/

namespace TypeExpr

/-- What a description that has no type or the description of one is read as. -/
theorem decodeAt_of_field? {t : Option TypeExpr} (found : d.field? "type" = t.map document)
    (reads : ∀ x ∈ t, decode index x.document = .ok x) : decodeAt index d = .ok t := by
  cases t with
  | none => rw [decodeAt_eq, Data.present?_of_absent found]
  | some t =>
    rw [decodeAt_eq, Data.present?_of_field? found t.isTrue_document]
    simp only [reads t rfl]
    rfl

theorem mapM_decode {ts : List TypeExpr} (reads : ∀ t ∈ ts, decode index t.document = .ok t) :
    (documents ts).mapM (decode index) = .ok ts := by
  rw [documents_eq_map]
  exact mapM_map_eq_ok_self reads

theorem decode_other {tag : String} (unknown : tag ∉ formTags) :
    decode index (other tag).document = .ok (.other tag) := by
  have isMap : (other tag).document.isMap = true := rfl
  have tagged : (other tag).document.field? "type" = some (.text tag) := rfl
  rw [decode, if_pos isMap, tagged]
  clear tagged
  split
  case h_9 =>
    rename_i isTag
    cases isTag
    rfl
  all_goals simp_all [formTags]

theorem decode_primitive (name : Data) :
    decode index (primitive name).document = .ok (.primitive name) := by
  have isMap : (primitive name).document.isMap = true := rfl
  rw [decode, if_pos isMap]
  rfl

theorem decode_literal (l : Literal) :
    decode index (literal l).document = .ok (.literal l) := by
  have tag : (literal l).document.field? "type" = some (.text "literal") := rfl
  have value : (literal l).document.field? "value" = some l.document := rfl
  rw [decode_literalType tag, value, Option.getD_some, Literal.decode_document]
  rfl

end TypeExpr

namespace Declaration

theorem decodeAll_documents {absent : Option DeclKind} {ds : List Declaration}
    (reads : ∀ d ∈ ds, decode? index absent d.document = .ok (some d)) :
    decodeAll index absent (documents ds) = .ok ds := by
  rw [decodeAll_eq_mapM, documents_eq_map, mapM_map_eq_ok reads]
  show Except.ok (ds.map some).reduceOption = _
  simp [List.reduceOption]

end Declaration

namespace CallSignature

theorem mapM_decode {ss : List CallSignature}
    (reads : ∀ s ∈ ss, decode index s.document = .ok s) :
    (documents ss).mapM (decode index) = .ok ss := by
  rw [documents_eq_map]
  exact mapM_map_eq_ok_self reads

theorem decodeGetter_of_field? {g : Option CallSignature}
    (found : d.field? "getSignature" = g.map document)
    (reads : ∀ s ∈ g, decode index s.document = .ok s) : decodeGetter index d = .ok g := by
  cases g with
  | none => rw [decodeGetter_eq, Data.present?_of_absent found]
  | some g =>
    obtain ⟨name, parameters, result, comment⟩ := g
    rw [decodeGetter_eq, Data.present?_of_field? found rfl]
    simp only [reads _ rfl]
    rfl

end CallSignature

theorem CallSignature.decode_of_fields {s : CallSignature}
    (name : d.field? "name" = some s.name)
    (parameters : d.field? "parameters" = some (.list (Declaration.documents s.parameters)))
    (result : d.field? "type" = s.result.map TypeExpr.document)
    (comment : d.field? "comment" = s.comment.map DocComment.document)
    (readsParameters : ∀ p ∈ s.parameters,
      Declaration.decode? index (some .parameterDecl) p.document = .ok (some p))
    (readsResult : ∀ t ∈ s.result, TypeExpr.decode index t.document = .ok t) :
    CallSignature.decode index d = .ok s := by
  rw [decode_eq, if_pos (Data.isMap_of_field? name), Data.elementsOrAt_of_field? parameters]
  simp only [Declaration.decodeAll_documents readsParameters, bind, Except.bind,
    TypeExpr.decodeAt_of_field? result readsResult, DocComment.decodeAt_of_field? comment,
    Data.nameAt_of_field? name]
  cases s
  rfl

theorem Origin.decode_document {target : Option Origin}
    (known : ∀ o ∈ target, ∃ path : String, o.sourcePath = some (.text path)) :
    decode index (target.map document) = .ok target := by
  cases target with
  | none => rfl
  | some o =>
    obtain ⟨path, isPath⟩ := known o rfl
    obtain ⟨sourcePath⟩ := o
    cases isPath
    rfl

theorem Reference.decode_document {r : Reference} (package : r.package ≠ some .null)
    (qualifiedName : r.qualifiedName ≠ some .null)
    (target : ∀ o ∈ r.target, ∃ path : String, o.sourcePath = some (.text path))
    (reads : ∀ t ∈ r.arguments, TypeExpr.decode index t.document = .ok t) :
    Reference.decode index r.document = .ok r := by
  obtain ⟨-, name, atPackage, atQualifiedName, arguments, atTarget⟩ := r.fields_document
  rw [decode_eq, Data.elementsAt_of_field? arguments, Data.nameAt_of_field? name,
    Data.valueAt?_of_field? atPackage package, atTarget,
    Data.valueAt?_of_field? atQualifiedName qualifiedName]
  simp only [TypeExpr.mapM_decode reads, Origin.decode_document target, bind, Except.bind]
  cases r
  rfl

theorem Declaration.decode?_document {d : Declaration} (absent : Option DeclKind)
    (type : ∀ t ∈ d.type, TypeExpr.decode index t.document = .ok t)
    (signatures : ∀ s ∈ d.signatures, CallSignature.decode index s.document = .ok s)
    (getter : ∀ g ∈ d.getter, CallSignature.decode index g.document = .ok g)
    (children : ∀ c ∈ d.children, decode? index none c.document = .ok (some c))
    (sourcePath : d.sourcePath ≠ some .null) (defaultValue : d.defaultValue ≠ some .null) :
    decode? index absent d.document = .ok (some d) := by
  obtain ⟨name, kind, flags, comment, atType, atSignatures, atGetter, atChildren, sources,
    atDefault⟩ := d.fields_document
  have isKind : DeclKind.decode? absent d.document = some d.kind := by
    rw [DeclKind.decode?, kind]
    exact DeclKind.ofCode?_code d.kind
  rw [decode?_eq, if_pos (Data.isMap_of_field? name), isKind]
  simp only [decodeOf, Modifiers.decode_of_field? flags, DocComment.decodeAt_of_field? comment,
    TypeExpr.decodeAt_of_field? atType type, Data.elementsAt_of_field? atSignatures,
    CallSignature.mapM_decode signatures, CallSignature.decodeGetter_of_field? atGetter getter,
    Data.elementsAt_of_field? atChildren, decodeAll_documents children,
    Data.sourcePath_of_field? sources sourcePath, Data.nameAt_of_field? name,
    Data.valueAt?_of_field? atDefault defaultValue, bind, Except.bind]
  cases d
  rfl

/-! ### The forms of types -/

namespace TypeExpr

theorem decode_document_union {members : List TypeExpr}
    (reads : ∀ t ∈ members, decode index t.document = .ok t) :
    decode index (union members).document = .ok (.union members) := by
  rw [decode_union rfl]
  show (do return TypeExpr.union (← (documents members).mapM (decode index))) = _
  rw [mapM_decode reads]
  rfl

theorem decode_document_array {element : TypeExpr}
    (reads : decode index element.document = .ok element) :
    decode index (array element).document = .ok (.array element) := by
  rw [decode_array rfl]
  show (do return TypeExpr.array (← decode index element.document)) = _
  rw [reads]
  rfl

theorem decode_document_tuple {elements : List TypeExpr}
    (reads : ∀ t ∈ elements, decode index t.document = .ok t) :
    decode index (tuple elements).document = .ok (.tuple elements) := by
  have items : (tuple elements).document.elementsAt "elements" = .ok (documents elements) :=
    Data.elementsAt_of_field? rfl
  rw [decode_tuple rfl, items]
  show (do return TypeExpr.tuple (← (documents elements).mapM (decode index))) = _
  rw [mapM_decode reads]
  rfl

theorem decode_document_template {head : Data} {spans : List (TypeExpr × Data)}
    (reads : ∀ t s, (t, s) ∈ spans → decode index t.document = .ok t) :
    decode index (template head spans).document = .ok (.template head spans) := by
  have items : (template head spans).document.elementsAt "tail" = .ok (spanDocuments spans) :=
    Data.elementsAt_of_field? rfl
  have read : (spanDocuments spans).mapM (decodeSpan index) = .ok spans := by
    rw [spanDocuments_eq_map]
    apply mapM_map_eq_ok_self
    intro span isSpan
    show (do return (← decode index span.1.document, span.2)) = _
    rw [reads span.1 span.2 isSpan]
    rfl
  rw [decode_template rfl, items]
  show (do return TypeExpr.template head (← decodeSpans index (spanDocuments spans))) = _
  rw [decodeSpans_eq_mapM, read]
  rfl

theorem decode_document_object {fields : List Declaration}
    (reads : ∀ f ∈ fields, Declaration.decode? index none f.document = .ok (some f)) :
    decode index (object fields).document = .ok (.object fields) := by
  -- a declaration without signatures is one of members, even if it has none
  let declaration : Data := .map [("children", .list (Declaration.documents fields))]
  have isMap : declaration.isMap = true := rfl
  have noSignature :
      declaration.elementsOrAt (signaturesFault declaration) "signatures" = .ok [] := rfl
  have children : declaration.elementsAt "children" = .ok (Declaration.documents fields) :=
    Data.elementsAt_of_field? rfl
  rw [decode_reflection rfl]
  show decodeLiteral index declaration = _
  rw [decodeLiteral_eq, if_pos isMap, noSignature]
  show (do
    return TypeExpr.object
      (← Declaration.decodeAll index none (← declaration.elementsAt "children"))) = _
  rw [children]
  show (do
    return TypeExpr.object (← Declaration.decodeAll index none (Declaration.documents fields))) = _
  rw [Declaration.decodeAll_documents reads]
  rfl

theorem decode_document_callable {parameters : List Declaration} {result : TypeExpr}
    (readsParameters : ∀ p ∈ parameters,
      Declaration.decode? index (some .parameterDecl) p.document = .ok (some p))
    (readsResult : decode index result.document = .ok result) :
    decode index (callable parameters result).document = .ok (.callable parameters result) := by
  let signature : Data :=
    .map [("name", "__type"), ("parameters", .list (Declaration.documents parameters)),
      ("type", result.document)]
  let declaration : Data := .map [("signatures", .list [signature])]
  have isMap : declaration.isMap = true := rfl
  have signatures :
      declaration.elementsOrAt (signaturesFault declaration) "signatures" = .ok [signature] := rfl
  have read : CallSignature.decode index signature =
      .ok ⟨.text "__type", parameters, some result, none⟩ := by
    apply CallSignature.decode_of_fields rfl rfl rfl rfl readsParameters
    intro t isResult
    cases isResult
    exact readsResult
  rw [decode_reflection rfl]
  show decodeLiteral index declaration = _
  rw [decodeLiteral_eq, if_pos isMap, signatures]
  simp only [read, bind, Except.bind]
  rfl

theorem decode_document_reference {r : Reference}
    (reads : Reference.decode index r.document = .ok r) :
    decode index (reference r).document = .ok (.reference r) := by
  rw [document, decode_reference r.fields_document.1, reads]
  rfl

end TypeExpr

/-! ### Any depth -/

mutual
theorem TypeExpr.Describable.decode_document {t : TypeExpr} (describable : t.Describable) :
    TypeExpr.decode index t.document = .ok t := by
  cases describable with
  | primitive => exact TypeExpr.decode_primitive _
  | literal => exact TypeExpr.decode_literal _
  | template holes =>
    -- the holes stand in pairs with texts, so their size is not found without help
    apply TypeExpr.decode_document_template
    intro t s isSpan
    have smaller := TypeExpr.sizeOf_lt_of_mem_spans isSpan
    exact (holes t s isSpan).decode_document
  | union each =>
    apply TypeExpr.decode_document_union
    intro t isMember
    exact (each t isMember).decode_document
  | array inner => exact TypeExpr.decode_document_array inner.decode_document
  | tuple each =>
    apply TypeExpr.decode_document_tuple
    intro t isElement
    exact (each t isElement).decode_document
  | reference inner => exact TypeExpr.decode_document_reference inner.decode_document
  | object each =>
    apply TypeExpr.decode_document_object
    intro f isField
    exact (each f isField).decode?_document none
  | callable each inner =>
    apply TypeExpr.decode_document_callable
    · intro p isParameter
      exact (each p isParameter).decode?_document (some .parameterDecl)
    · exact inner.decode_document
  | other unknown => exact TypeExpr.decode_other unknown
termination_by sizeOf t

theorem Reference.Describable.decode_document {r : Reference} (describable : r.Describable) :
    Reference.decode index r.document = .ok r := by
  obtain ⟨package, qualifiedName, each, target⟩ := describable
  apply Reference.decode_document package qualifiedName target
  intro t isArgument
  have smaller := Reference.sizeOf_lt_of_mem_arguments isArgument
  exact (each t isArgument).decode_document
termination_by sizeOf r

theorem Declaration.Describable.decode?_document {d : Declaration} (describable : d.Describable)
    (absent : Option DeclKind) : Declaration.decode? index absent d.document = .ok (some d) := by
  obtain ⟨type, signatures, getter, children, sourcePath, defaultValue⟩ := describable
  apply Declaration.decode?_document absent _ _ _ _ sourcePath defaultValue
  · intro t isType
    have smaller := Declaration.sizeOf_type_lt isType
    exact (type t isType).decode_document
  · intro s isSignature
    have smaller := Declaration.sizeOf_signature_lt isSignature
    exact (signatures s isSignature).decode_document
  · intro g isGetter
    have smaller := Declaration.sizeOf_getter_lt isGetter
    exact (getter g isGetter).decode_document
  · intro c isChild
    have smaller := Declaration.sizeOf_child_lt isChild
    exact (children c isChild).decode?_document none
termination_by sizeOf d

theorem CallSignature.Describable.decode_document {s : CallSignature}
    (describable : s.Describable) : CallSignature.decode index s.document = .ok s := by
  obtain ⟨parameters, result⟩ := describable
  obtain ⟨name, atParameters, type, comment⟩ := s.fields_document
  apply CallSignature.decode_of_fields name atParameters type comment
  · intro p isParameter
    have smaller := CallSignature.sizeOf_parameter_lt isParameter
    exact (parameters p isParameter).decode?_document (some .parameterDecl)
  · intro t isResult
    have smaller := CallSignature.sizeOf_result_lt isResult
    exact (result t isResult).decode_document
termination_by sizeOf s
end

/-! ## Documents of units -/

namespace DocUnit

theorem Describable.decode_document {u : DocUnit} (describable : u.Describable) :
    DocUnit.decode index u.document = .ok u := by
  obtain ⟨name, -, comment, children, sources⟩ := u.fields_document
  have declarations :
      Declaration.decodeAll index none (Declaration.documents u.declarations) =
        .ok u.declarations := by
    apply Declaration.decodeAll_documents
    intro d isDeclaration
    exact (describable.declarations d isDeclaration).decode?_document none
  simp only [DocUnit.decode, Data.elementsAt_of_field? children, declarations,
    Data.sourcePath_of_field? sources describable.sourcePath,
    DocComment.decodeAt_of_field? comment, Data.nameAt_of_field? name, bind, Except.bind]
  rfl

end DocUnit

/-! A written description has no number, so that the index of a written document is empty. -/

namespace Index

theorem collectAll_map_eq_ok {α : Type} {write : α → Data} {xs : List α}
    (unnumbered : ∀ x ∈ xs, collect (write x) = .ok []) : collectAll (xs.map write) = .ok [] := by
  rw [collectAll_eq_mapM, mapM_map_eq_ok unnumbered]
  show Except.ok (xs.map fun _ => ([] : Index)).flatten = _
  simp

theorem collect_eq_ok_nil {children signatures : List Data} (isMap : d.isMap = true)
    (noNumber : d.field? "id" = none) (atChildren : d.elementsAt "children" = .ok children)
    (atSignatures : d.elementsAt "signatures" = .ok signatures)
    (below : collectAll children = .ok []) (beside : collectAll signatures = .ok []) :
    collect d = .ok [] := by
  rw [collect_eq, if_pos isMap, atChildren, atSignatures, number?, noNumber]
  simp only [below, beside, bind, Except.bind]
  rfl

theorem collect_signature (s : CallSignature) : collect s.document = .ok [] := by
  obtain ⟨name, -⟩ := s.fields_document
  have absent : s.document.field? "id" = none ∧ s.document.field? "children" = none ∧
      s.document.field? "signatures" = none := by
    simp [CallSignature.document_eq]
  obtain ⟨noNumber, noChildren, noSignatures⟩ := absent
  exact collect_eq_ok_nil (Data.isMap_of_field? name) noNumber
    (Data.elementsAt_of_absent noChildren) (Data.elementsAt_of_absent noSignatures)
    (by rw [collectAll]) (by rw [collectAll])

theorem collect_declaration (d : Declaration) : collect d.document = .ok [] := by
  obtain ⟨name, -, -, -, -, signatures, -, children, -⟩ := d.fields_document
  have noNumber : d.document.field? "id" = none := by
    simp [Declaration.document_eq]
  apply collect_eq_ok_nil (Data.isMap_of_field? name) noNumber
    (Data.elementsAt_of_field? children) (Data.elementsAt_of_field? signatures)
  · rw [Declaration.documents_eq_map]
    apply collectAll_map_eq_ok
    intro c isChild
    have smaller := Declaration.sizeOf_child_lt isChild
    exact collect_declaration c
  · rw [CallSignature.documents_eq_map]
    apply collectAll_map_eq_ok
    intro s _
    exact collect_signature s
termination_by sizeOf d

theorem collect_unit (u : DocUnit) : collect u.document = .ok [] := by
  obtain ⟨name, -, -, children, -⟩ := u.fields_document
  have absent : u.document.field? "id" = none ∧ u.document.field? "signatures" = none := by
    simp [DocUnit.document]
  apply collect_eq_ok_nil (Data.isMap_of_field? name) absent.1
    (Data.elementsAt_of_field? children) (Data.elementsAt_of_absent absent.2)
  · rw [Declaration.documents_eq_map]
    apply collectAll_map_eq_ok
    intro d _
    exact collect_declaration d
  · rw [collectAll]

end Index

theorem filterM_eq_self {ε α : Type} {p : α → Except ε Bool} {xs : List α}
    (accepts : ∀ x ∈ xs, p x = .ok true) : xs.filterM p = .ok xs := by
  have keeps (acc : List α) : List.filterAuxM p xs acc = .ok (xs.reverse ++ acc) := by
    induction xs generalizing acc with
    | nil => rfl
    | cons x xs inductionHypothesis =>
      obtain ⟨first, others⟩ := List.forall_mem_cons.mp accepts
      rw [List.filterAuxM, first]
      show List.filterAuxM p xs (x :: acc) = _
      rw [inductionHypothesis others, List.reverse_cons, List.append_assoc]
      rfl
  rw [List.filterM, keeps]
  show Except.ok (xs.reverse ++ []).reverse = _
  rw [List.append_nil, List.reverse_reverse]

namespace DocUnit

theorem isModule_document (u : DocUnit) : u.document.isModule = .ok true := by
  obtain ⟨name, kind, -⟩ := u.fields_document
  rw [Data.isModule, if_pos (Data.isMap_of_field? name), kind]
  rfl

/-- Units that are written as a document are the units that the document is read as. -/
theorem decodeAll_project {units : List DocUnit} (nonempty : units ≠ [])
    (describable : ∀ u ∈ units, u.Describable) : decodeAll (project units) = .ok units := by
  have children : (project units).elementsAt "children" = .ok (units.map document) :=
    Data.elementsAt_of_field? rfl
  have noSignatures : (project units).elementsAt "signatures" = .ok [] :=
    Data.elementsAt_of_absent rfl
  -- nothing is numbered, so the references are read without an index
  have indexed : Index.collect (project units) = .ok [] := by
    apply Index.collect_eq_ok_nil rfl rfl children noSignatures
    · apply Index.collectAll_map_eq_ok
      intro u _
      exact Index.collect_unit u
    · rw [Index.collectAll]
  have modules : (units.map document).filterM Data.isModule = .ok (units.map document) := by
    apply filterM_eq_self
    intro m isModule
    obtain ⟨u, -, rfl⟩ := List.mem_map.mp isModule
    exact u.isModule_document
  have isNonempty : (units.map document).isEmpty = false := by simpa using nonempty
  have read : (units.map document).mapM (DocUnit.decode []) = .ok units :=
    mapM_map_eq_ok_self fun u isUnit => (describable u isUnit).decode_document
  rw [decodeAll, indexed]
  show decodeWith [] (project units) = _
  rw [decodeWith, children]
  simp only [modules, isNonempty, read, bind, Except.bind]
  simp

end DocUnit

/-- A declaration is read back from its description, whatever else the document holds and whether
its kind may be left out, and the document of a unit that declares it is read back as that unit. -/
theorem Declaration.document_loads_back {d : Declaration} (describable : d.Describable) :
    (∀ (index : Index) (absent : Option DeclKind),
      Declaration.decode? index absent d.document = .ok (some d)) ∧
      ∀ (name : Data) (comment : Option DocComment) (path : String),
        DocUnit.decodeAll (DocUnit.project [⟨name, [d], some (.text path), comment⟩]) =
          .ok [⟨name, [d], some (.text path), comment⟩] := by
  constructor
  · intro index absent
    exact describable.decode?_document absent
  · intro name comment path
    apply DocUnit.decodeAll_project (List.cons_ne_nil _ _)
    intro u isUnit
    obtain rfl := List.mem_singleton.mp isUnit
    constructor
    · intro e isDeclaration
      obtain rfl := List.mem_singleton.mp isDeclaration
      exact describable
    · simp

/-- An accessor to functions that are notified of an event, with a template text and a reference
into another package at the bottom. -/
def Declaration.listeners : Declaration where
  name := "listeners"
  kind := .accessorDecl
  modifiers := { isStatic := true }
  comment := some ⟨[⟨"text", "Who is told."⟩], [], TagSet.ofList ["@internal"]⟩
  type := none
  signatures := []
  getter := some ⟨"listeners", [], some (.array (.callable
    [⟨"event", .parameterDecl, {}, none, some (.union
      [.template "bucket:" [(.primitive "string", "")], .other "conditional"]), [], none, [],
      none, some "\"created\""⟩]
    (.reference ⟨"Output", some "@pulumi/pulumi", none, [.tuple [.literal (.int 1), .object []]],
      some ⟨some "node_modules/@pulumi/pulumi/output.d.ts"⟩⟩))), none⟩
  children := []
  sourcePath := some "platform/src/components/aws/bucket.ts"
  defaultValue := none

theorem Declaration.listeners_loads_back : listeners.Describable ∧
    ∀ index absent, decode? index absent listeners.document = .ok (some listeners) := by
  have event : (TypeExpr.union
      [.template "bucket:" [(.primitive "string", "")], .other "conditional"]).Describable := by
    apply TypeExpr.Describable.union
    simp only [List.mem_cons, List.not_mem_nil, or_false, forall_eq_or_imp, forall_eq]
    refine ⟨.template ?_, .other (by decide)⟩
    intro t s isSpan
    obtain ⟨rfl, rfl⟩ := Prod.mk.inj (List.mem_singleton.mp isSpan)
    exact .primitive
  have outputs : (TypeExpr.tuple [.literal (.int 1), .object []]).Describable := by
    apply TypeExpr.Describable.tuple
    simp only [List.mem_cons, List.not_mem_nil, or_false, forall_eq_or_imp, forall_eq]
    exact ⟨.literal, .object (by simp)⟩
  have describable : listeners.Describable := by
    refine .mk (by simp [listeners]) (by simp [listeners]) ?_ (by simp [listeners])
      (by simp [listeners]) (by simp [listeners])
    intro g getter
    cases getter
    refine .mk (by simp) ?_
    intro t result
    cases result
    apply TypeExpr.Describable.array
    apply TypeExpr.Describable.callable
    · simp only [List.mem_singleton, forall_eq]
      exact .mk (by simpa using event) (by simp) (by simp) (by simp) (by simp) (by simp)
    · apply TypeExpr.Describable.reference
      exact .mk (by simp) (by simp) (by simpa using outputs) (by simp)
  exact ⟨describable, (document_loads_back describable).1⟩

end DocPress
