import DocPress.Proofs.DecodeSteps

/-! # What the reader of a document loads

The reader goes through a document along more ways than the index does: also through the signature
of a getter, parameters, and the descriptions that stand in a type. Whatever it comes to is read
with one and the same index, and what it is read as is a part of the units.

* `Reads`: what the reader visits, and as what.
* `Holds`: the declarations and types that loaded units are made of.
* `Loads`: what is visited is read, and held by the units. There is one lemma for each way down, and
  `loads_of_reads` for all of them. -/

set_option autoImplicit false

namespace DocPress

/-! ## What is visited -/

/-- What a description is read as. -/
inductive Role where
  | unit
  | declaration (absent : Option DeclKind)
  | signature
  | type
  | literal
deriving DecidableEq

/-- The descriptions of a document that its units are read from. A declaration of a kind that is not
documented is looked at, and not what it holds. -/
inductive Reads (document : Data) : Role → Data → Prop
  | document {members : List Data} : document.elementsAt "children" = .ok members →
      (∀ c ∈ members, c.isModule = .ok false) → Reads document .unit document
  | module {m : Data} {members : List Data} : document.elementsAt "children" = .ok members →
      m ∈ members → m.isModule = .ok true → Reads document .unit m
  | memberOfUnit {d c : Data} {members : List Data} : Reads document .unit d →
      d.elementsAt "children" = .ok members → c ∈ members → Reads document (.declaration none) c
  | member {d c : Data} {absent : Option DeclKind} {kind : DeclKind} {members : List Data} :
      Reads document (.declaration absent) d → DeclKind.decode? absent d = some kind →
      d.elementsAt "children" = .ok members → c ∈ members → Reads document (.declaration none) c
  | signature {d s : Data} {absent : Option DeclKind} {kind : DeclKind} {signatures : List Data} :
      Reads document (.declaration absent) d → DeclKind.decode? absent d = some kind →
      d.elementsAt "signatures" = .ok signatures → s ∈ signatures → Reads document .signature s
  | getter {d s : Data} {absent : Option DeclKind} {kind : DeclKind} :
      Reads document (.declaration absent) d → DeclKind.decode? absent d = some kind →
      d.present? "getSignature" = some s → Reads document .signature s
  | declared {d t : Data} {absent : Option DeclKind} {kind : DeclKind} :
      Reads document (.declaration absent) d → DeclKind.decode? absent d = some kind →
      d.present? "type" = some t → Reads document .type t
  | parameter {s p : Data} {parameters : List Data} : Reads document .signature s →
      s.elementsOrAt .parameterExpected "parameters" = .ok parameters → p ∈ parameters →
      Reads document (.declaration (some .parameterDecl)) p
  | result {s t : Data} : Reads document .signature s → s.present? "type" = some t →
      Reads document .type t
  | span {d span t : Data} {spans rest : List Data} : Reads document .type d →
      d.field? "type" = some (.text "templateLiteral") → d.elementsAt "tail" = .ok spans →
      span ∈ spans → spanParts span = .ok (t :: rest) → Reads document .type t
  | alternative {d types t : Data} {members : List Data} : Reads document .type d →
      d.field? "type" = some (.text "union") → d.field? "types" = some types →
      types.elements .objectExpected = .ok members → t ∈ members → Reads document .type t
  | element {d t : Data} : Reads document .type d → d.field? "type" = some (.text "array") →
      d.field? "elementType" = some t → Reads document .type t
  | item {d t : Data} {elements : List Data} : Reads document .type d →
      d.field? "type" = some (.text "tuple") → d.elementsAt "elements" = .ok elements →
      t ∈ elements → Reads document .type t
  | argument {d t : Data} {arguments : List Data} : Reads document .type d →
      d.field? "type" = some (.text "reference") → d.elementsAt "typeArguments" = .ok arguments →
      t ∈ arguments → Reads document .type t
  | literal {d l : Data} : Reads document .type d → d.field? "type" = some (.text "reflection") →
      d.present? "declaration" = some l → Reads document .literal l
  | call {l s : Data} {rest : List Data} : Reads document .literal l →
      l.elementsOrAt (signaturesFault l) "signatures" = .ok (s :: rest) →
      Reads document .signature s
  | field {l c : Data} {members : List Data} : Reads document .literal l →
      l.elementsOrAt (signaturesFault l) "signatures" = .ok [] →
      l.elementsAt "children" = .ok members → c ∈ members → Reads document (.declaration none) c

/-! ## What units are made of -/

inductive Part where
  | declaration (d : Declaration)
  | type (t : TypeExpr)

/-- The declarations and types that units are made of, at any depth. -/
inductive Holds (units : List DocUnit) : Part → Prop
  | declaration {u : DocUnit} {d : Declaration} : u ∈ units → d ∈ u.declarations →
      Holds units (.declaration d)
  | member {d c : Declaration} : Holds units (.declaration d) → c ∈ d.children →
      Holds units (.declaration c)
  | declared {d : Declaration} {t : TypeExpr} : Holds units (.declaration d) → d.type = some t →
      Holds units (.type t)
  | parameter {d p : Declaration} {s : CallSignature} : Holds units (.declaration d) →
      s ∈ d.signatures ∨ d.getter = some s → p ∈ s.parameters → Holds units (.declaration p)
  | result {d : Declaration} {s : CallSignature} {t : TypeExpr} : Holds units (.declaration d) →
      s ∈ d.signatures ∨ d.getter = some s → s.result = some t → Holds units (.type t)
  | span {head text : Data} {spans : List (TypeExpr × Data)} {t : TypeExpr} :
      Holds units (.type (.template head spans)) → (t, text) ∈ spans → Holds units (.type t)
  | alternative {members : List TypeExpr} {t : TypeExpr} : Holds units (.type (.union members)) →
      t ∈ members → Holds units (.type t)
  | element {t : TypeExpr} : Holds units (.type (.array t)) → Holds units (.type t)
  | item {elements : List TypeExpr} {t : TypeExpr} : Holds units (.type (.tuple elements)) →
      t ∈ elements → Holds units (.type t)
  | argument {ref : Reference} {t : TypeExpr} : Holds units (.type (.reference ref)) →
      t ∈ ref.arguments → Holds units (.type t)
  | field {fields : List Declaration} {f : Declaration} : Holds units (.type (.object fields)) →
      f ∈ fields → Holds units (.declaration f)
  | callParameter {parameters : List Declaration} {result : TypeExpr} {p : Declaration} :
      Holds units (.type (.callable parameters result)) → p ∈ parameters →
      Holds units (.declaration p)
  | callResult {parameters : List Declaration} {result : TypeExpr} :
      Holds units (.type (.callable parameters result)) → Holds units (.type result)

/-- What a visited description is loaded as, with an index, into units. A signature is no part of
its own, as one of an anonymous declaration becomes a type. -/
def Loads (index : Index) (units : List DocUnit) : Role → Data → Prop
  | .unit, d => ∃ u ∈ units, DocUnit.decode index d = .ok u
  | .declaration absent, d => ∃ loaded, Declaration.decode? index absent d = .ok loaded ∧
      ∀ decl, loaded = some decl → Holds units (.declaration decl)
  | .signature, d => ∃ s, CallSignature.decode index d = .ok s ∧
      (∀ p ∈ s.parameters, Holds units (.declaration p)) ∧
      ∀ t, s.result = some t → Holds units (.type t)
  | .type, d => ∃ t, TypeExpr.decode index d = .ok t ∧ Holds units (.type t)
  | .literal, d => ∃ t, TypeExpr.decodeLiteral index d = .ok t ∧ Holds units (.type t)

/-! ## What a reader has read -/

variable {index : Index} {d : Data} {units : List DocUnit}

theorem exists_decode?_of_decodeAll {absent : Option DeclKind} {ds : List Data}
    {loaded : List Declaration} (decoded : Declaration.decodeAll index absent ds = .ok loaded)
    (member : d ∈ ds) : ∃ first, Declaration.decode? index absent d = .ok first ∧
      ∀ decl, first = some decl → decl ∈ loaded := by
  rw [Declaration.decodeAll_eq_mapM] at decoded
  obtain ⟨parts, each, decoded⟩ := exists_of_bind_eq_ok decoded
  cases decoded
  obtain ⟨first, isPart, decodedFirst⟩ := exists_mem_of_mapM each member
  refine ⟨first, decodedFirst, ?_⟩
  rintro decl rfl
  exact List.reduceOption_mem_iff.mpr isPart

theorem exists_decodeOf_of_decode? {absent : Option DeclKind} {kind : DeclKind}
    {loaded : Option Declaration} (isKind : DeclKind.decode? absent d = some kind)
    (decoded : Declaration.decode? index absent d = .ok loaded) :
    ∃ decl, loaded = some decl ∧ Declaration.decodeOf index kind d = .ok decl := by
  rw [Declaration.decode?_eq] at decoded
  split at decoded
  · rw [isKind] at decoded
    obtain ⟨decl, decodedOf, decoded⟩ := exists_of_bind_eq_ok decoded
    cases decoded
    exact ⟨decl, rfl, decodedOf⟩
  · cases decoded

/-- The steps in which a declaration of a kind is read. -/
structure DecodedOf (index : Index) (d : Data) (decl : Declaration) : Prop where
  type : TypeExpr.decodeAt index d = .ok decl.type
  signatures : ∃ signatures, d.elementsAt "signatures" = .ok signatures ∧
    signatures.mapM (CallSignature.decode index) = .ok decl.signatures
  getter : CallSignature.decodeGetter index d = .ok decl.getter
  children : ∃ members, d.elementsAt "children" = .ok members ∧
    Declaration.decodeAll index none members = .ok decl.children

theorem decodedOf_of_decodeOf {kind : DeclKind} {decl : Declaration}
    (decoded : Declaration.decodeOf index kind d = .ok decl) : DecodedOf index d decl := by
  obtain ⟨modifiers, -, decoded⟩ := exists_of_bind_eq_ok decoded
  obtain ⟨comment, -, decoded⟩ := exists_of_bind_eq_ok decoded
  obtain ⟨type, ofType, decoded⟩ := exists_of_bind_eq_ok decoded
  obtain ⟨signatures, isSignatures, decoded⟩ := exists_of_bind_eq_ok decoded
  obtain ⟨loaded, ofSignatures, decoded⟩ := exists_of_bind_eq_ok decoded
  obtain ⟨getter, ofGetter, decoded⟩ := exists_of_bind_eq_ok decoded
  obtain ⟨members, isMembers, decoded⟩ := exists_of_bind_eq_ok decoded
  obtain ⟨children, ofChildren, decoded⟩ := exists_of_bind_eq_ok decoded
  obtain ⟨sourcePath, -, decoded⟩ := exists_of_bind_eq_ok decoded
  cases decoded
  exact ⟨ofType, ⟨_, isSignatures, ofSignatures⟩, ofGetter, ⟨_, isMembers, ofChildren⟩⟩

theorem exists_decodedOf {absent : Option DeclKind} {kind : DeclKind}
    (loads : Loads index units (.declaration absent) d)
    (isKind : DeclKind.decode? absent d = some kind) :
    ∃ decl, DecodedOf index d decl ∧ Holds units (.declaration decl) := by
  obtain ⟨loaded, decoded, holds⟩ := loads
  obtain ⟨decl, isLoaded, decodedOf⟩ := exists_decodeOf_of_decode? isKind decoded
  exact ⟨decl, decodedOf_of_decodeOf decodedOf, holds decl isLoaded⟩

theorem exists_of_decodeAt {t : Data} {loaded : Option TypeExpr}
    (isType : d.present? "type" = some t) (decoded : TypeExpr.decodeAt index d = .ok loaded) :
    ∃ type, loaded = some type ∧ TypeExpr.decode index t = .ok type := by
  rw [TypeExpr.decodeAt_eq, isType] at decoded
  obtain ⟨type, ofType, decoded⟩ := exists_of_bind_eq_ok decoded
  cases decoded
  exact ⟨type, rfl, ofType⟩

theorem exists_of_decodeSignature {s : CallSignature}
    (decoded : CallSignature.decode index d = .ok s) :
    (∃ parameters, d.elementsOrAt .parameterExpected "parameters" = .ok parameters ∧
      Declaration.decodeAll index (some .parameterDecl) parameters = .ok s.parameters) ∧
    TypeExpr.decodeAt index d = .ok s.result := by
  rw [CallSignature.decode_eq] at decoded
  split at decoded
  · obtain ⟨parameters, isParameters, decoded⟩ := exists_of_bind_eq_ok decoded
    obtain ⟨loaded, ofParameters, decoded⟩ := exists_of_bind_eq_ok decoded
    obtain ⟨result, ofResult, decoded⟩ := exists_of_bind_eq_ok decoded
    obtain ⟨comment, -, decoded⟩ := exists_of_bind_eq_ok decoded
    cases decoded
    exact ⟨⟨_, isParameters, ofParameters⟩, ofResult⟩
  · cases decoded

/-- The units of a document are read from its modules, or from the document if it has none. -/
theorem exists_of_decodeWith {document : Data}
    (decoded : DocUnit.decodeWith index document = .ok units) :
    ∃ members modules, document.elementsAt "children" = .ok members ∧
      (∀ m, m ∈ modules ↔ m ∈ members ∧ m.isModule = .ok true) ∧
      (modules = [] ∧ (∃ u, DocUnit.decode index document = .ok u ∧ units = [u]) ∨
        modules ≠ [] ∧ modules.mapM (DocUnit.decode index) = .ok units) := by
  obtain ⟨members, isMembers, decoded⟩ := exists_of_bind_eq_ok decoded
  obtain ⟨modules, filtered, decoded⟩ := exists_of_bind_eq_ok decoded
  refine ⟨members, modules, isMembers, fun m => mem_filterM_iff filtered, ?_⟩
  split at decoded
  · rename_i isEmpty
    obtain ⟨u, ofDocument, decoded⟩ := exists_of_bind_eq_ok decoded
    cases decoded
    exact .inl ⟨List.isEmpty_iff.mp isEmpty, u, ofDocument, rfl⟩
  · rename_i nonempty
    exact .inr ⟨fun isEmpty => nonempty (List.isEmpty_iff.mpr isEmpty), decoded⟩

/-! ## One step down

What is visited from a description is loaded if the description is. There is one lemma for each way
down, and each finds the reader of the part in the steps of the reader of the whole. -/

namespace Loads

variable {c l p s t : Data} {absent : Option DeclKind} {kind : DeclKind} {members : List Data}

theorem memberOfUnit (loads : Loads index units .unit d)
    (isMembers : d.elementsAt "children" = .ok members) (isMember : c ∈ members) :
    Loads index units (.declaration none) c := by
  obtain ⟨u, isUnit, ofUnit⟩ := loads
  obtain ⟨members', isMembers', ofUnit⟩ := exists_of_bind_eq_ok ofUnit
  obtain ⟨declarations, ofMembers, ofUnit⟩ := exists_of_bind_eq_ok ofUnit
  obtain ⟨sourcePath, -, ofUnit⟩ := exists_of_bind_eq_ok ofUnit
  obtain ⟨comment, -, ofUnit⟩ := exists_of_bind_eq_ok ofUnit
  cases ofUnit
  cases isMembers.symm.trans isMembers'
  obtain ⟨first, ofFirst, contained⟩ := exists_decode?_of_decodeAll ofMembers isMember
  exact ⟨first, ofFirst, fun decl isFirst => .declaration isUnit (contained decl isFirst)⟩

theorem member (loads : Loads index units (.declaration absent) d)
    (isKind : DeclKind.decode? absent d = some kind)
    (isMembers : d.elementsAt "children" = .ok members) (isMember : c ∈ members) :
    Loads index units (.declaration none) c := by
  obtain ⟨decl, steps, holds⟩ := exists_decodedOf loads isKind
  obtain ⟨members', isMembers', ofMembers⟩ := steps.children
  cases isMembers.symm.trans isMembers'
  obtain ⟨first, ofFirst, contained⟩ := exists_decode?_of_decodeAll ofMembers isMember
  exact ⟨first, ofFirst, fun c isFirst => holds.member (contained c isFirst)⟩

theorem signature {signatures : List Data} (loads : Loads index units (.declaration absent) d)
    (isKind : DeclKind.decode? absent d = some kind)
    (isSignatures : d.elementsAt "signatures" = .ok signatures) (isSignature : s ∈ signatures) :
    Loads index units .signature s := by
  obtain ⟨decl, steps, holds⟩ := exists_decodedOf loads isKind
  obtain ⟨signatures', isSignatures', ofSignatures⟩ := steps.signatures
  cases isSignatures.symm.trans isSignatures'
  obtain ⟨loaded, isLoaded, ofSignature⟩ := exists_mem_of_mapM ofSignatures isSignature
  exact ⟨loaded, ofSignature, fun p => holds.parameter (.inl isLoaded),
    fun t => holds.result (.inl isLoaded)⟩

theorem getter (loads : Loads index units (.declaration absent) d)
    (isKind : DeclKind.decode? absent d = some kind)
    (isGetter : d.present? "getSignature" = some s) : Loads index units .signature s := by
  obtain ⟨decl, steps, holds⟩ := exists_decodedOf loads isKind
  have ofGetter := steps.getter
  rw [CallSignature.decodeGetter_eq, isGetter] at ofGetter
  obtain ⟨loaded, ofSignature, ofGetter⟩ := exists_of_bind_eq_ok ofGetter
  have isLoaded : decl.getter = some loaded := (Except.ok.inj ofGetter).symm
  exact ⟨loaded, ofSignature, fun p => holds.parameter (.inr isLoaded),
    fun t => holds.result (.inr isLoaded)⟩

theorem declared (loads : Loads index units (.declaration absent) d)
    (isKind : DeclKind.decode? absent d = some kind) (isType : d.present? "type" = some t) :
    Loads index units .type t := by
  obtain ⟨decl, steps, holds⟩ := exists_decodedOf loads isKind
  obtain ⟨type, isLoaded, ofType⟩ := exists_of_decodeAt isType steps.type
  exact ⟨type, ofType, holds.declared isLoaded⟩

theorem parameter {parameters : List Data} (loads : Loads index units .signature s)
    (isParameters : s.elementsOrAt .parameterExpected "parameters" = .ok parameters)
    (isParameter : p ∈ parameters) :
    Loads index units (.declaration (some .parameterDecl)) p := by
  obtain ⟨loaded, ofSignature, parametersHeld, -⟩ := loads
  obtain ⟨⟨parameters', isParameters', ofParameters⟩, -⟩ := exists_of_decodeSignature ofSignature
  cases isParameters.symm.trans isParameters'
  obtain ⟨first, ofFirst, contained⟩ := exists_decode?_of_decodeAll ofParameters isParameter
  exact ⟨first, ofFirst, fun p isFirst => parametersHeld p (contained p isFirst)⟩

theorem result (loads : Loads index units .signature s) (isType : s.present? "type" = some t) :
    Loads index units .type t := by
  obtain ⟨loaded, ofSignature, -, resultHeld⟩ := loads
  obtain ⟨type, isLoaded, ofType⟩ :=
    exists_of_decodeAt isType (exists_of_decodeSignature ofSignature).2
  exact ⟨type, ofType, resultHeld type isLoaded⟩

theorem span {span : Data} {spans rest : List Data} (loads : Loads index units .type d)
    (tag : d.field? "type" = some (.text "templateLiteral"))
    (isSpans : d.elementsAt "tail" = .ok spans) (isSpan : span ∈ spans)
    (isParts : spanParts span = .ok (t :: rest)) : Loads index units .type t := by
  obtain ⟨type, ofType, holds⟩ := loads
  rw [TypeExpr.decode_template tag] at ofType
  obtain ⟨spans', isSpans', ofType⟩ := exists_of_bind_eq_ok ofType
  obtain ⟨loaded, ofSpans, ofType⟩ := exists_of_bind_eq_ok ofType
  cases ofType
  cases isSpans.symm.trans isSpans'
  rw [TypeExpr.decodeSpans_eq_mapM] at ofSpans
  obtain ⟨pair, isPair, ofSpan⟩ := exists_mem_of_mapM ofSpans isSpan
  obtain ⟨parts, isParts', ofSpan⟩ := exists_of_bind_eq_ok ofSpan
  cases isParts.symm.trans isParts'
  obtain ⟨first, ofFirst, ofSpan⟩ := exists_of_bind_eq_ok ofSpan
  cases rest with
  | nil => cases ofSpan
  | cons text _ =>
    cases ofSpan
    exact ⟨first, ofFirst, holds.span isPair⟩

theorem alternative {types : Data} (loads : Loads index units .type d)
    (tag : d.field? "type" = some (.text "union")) (isTypes : d.field? "types" = some types)
    (isMembers : types.elements .objectExpected = .ok members) (isMember : t ∈ members) :
    Loads index units .type t := by
  obtain ⟨type, ofType, holds⟩ := loads
  rw [TypeExpr.decode_union tag, isTypes] at ofType
  obtain ⟨members', isMembers', ofType⟩ := exists_of_bind_eq_ok ofType
  obtain ⟨loaded, ofMembers, ofType⟩ := exists_of_bind_eq_ok ofType
  cases ofType
  cases isMembers.symm.trans isMembers'
  obtain ⟨first, isLoaded, ofFirst⟩ := exists_mem_of_mapM ofMembers isMember
  exact ⟨first, ofFirst, holds.alternative isLoaded⟩

theorem element (loads : Loads index units .type d)
    (tag : d.field? "type" = some (.text "array"))
    (isElement : d.field? "elementType" = some t) : Loads index units .type t := by
  obtain ⟨type, ofType, holds⟩ := loads
  rw [TypeExpr.decode_array tag, isElement] at ofType
  obtain ⟨element, ofElement, ofType⟩ := exists_of_bind_eq_ok ofType
  cases ofType
  exact ⟨element, ofElement, holds.element⟩

theorem item {elements : List Data} (loads : Loads index units .type d)
    (tag : d.field? "type" = some (.text "tuple"))
    (isElements : d.elementsAt "elements" = .ok elements) (isElement : t ∈ elements) :
    Loads index units .type t := by
  obtain ⟨type, ofType, holds⟩ := loads
  rw [TypeExpr.decode_tuple tag] at ofType
  obtain ⟨elements', isElements', ofType⟩ := exists_of_bind_eq_ok ofType
  obtain ⟨loaded, ofElements, ofType⟩ := exists_of_bind_eq_ok ofType
  cases ofType
  cases isElements.symm.trans isElements'
  obtain ⟨first, isLoaded, ofFirst⟩ := exists_mem_of_mapM ofElements isElement
  exact ⟨first, ofFirst, holds.item isLoaded⟩

theorem reference (loads : Loads index units .type d)
    (tag : d.field? "type" = some (.text "reference")) :
    ∃ ref, Reference.decode index d = .ok ref ∧ Holds units (.type (.reference ref)) := by
  obtain ⟨type, ofType, holds⟩ := loads
  rw [TypeExpr.decode_reference tag] at ofType
  obtain ⟨ref, ofReference, ofType⟩ := exists_of_bind_eq_ok ofType
  cases ofType
  exact ⟨ref, ofReference, holds⟩

theorem argument {arguments : List Data} (loads : Loads index units .type d)
    (tag : d.field? "type" = some (.text "reference"))
    (isArguments : d.elementsAt "typeArguments" = .ok arguments) (isArgument : t ∈ arguments) :
    Loads index units .type t := by
  obtain ⟨ref, ofReference, holds⟩ := loads.reference tag
  rw [Reference.decode_eq] at ofReference
  obtain ⟨arguments', isArguments', ofReference⟩ := exists_of_bind_eq_ok ofReference
  obtain ⟨loaded, ofArguments, ofReference⟩ := exists_of_bind_eq_ok ofReference
  obtain ⟨target, -, ofReference⟩ := exists_of_bind_eq_ok ofReference
  cases ofReference
  cases isArguments.symm.trans isArguments'
  obtain ⟨first, isLoaded, ofFirst⟩ := exists_mem_of_mapM ofArguments isArgument
  exact ⟨first, ofFirst, holds.argument isLoaded⟩

theorem literal (loads : Loads index units .type d)
    (tag : d.field? "type" = some (.text "reflection"))
    (isLiteral : d.present? "declaration" = some l) : Loads index units .literal l := by
  obtain ⟨type, ofType, holds⟩ := loads
  rw [TypeExpr.decode_reflection tag, isLiteral] at ofType
  exact ⟨type, ofType, holds⟩

theorem call {rest : List Data} (loads : Loads index units .literal l)
    (isSignatures : l.elementsOrAt (signaturesFault l) "signatures" = .ok (s :: rest)) :
    Loads index units .signature s := by
  obtain ⟨type, ofType, holds⟩ := loads
  rw [TypeExpr.decodeLiteral_eq] at ofType
  split at ofType
  · obtain ⟨signatures, isSignatures', ofType⟩ := exists_of_bind_eq_ok ofType
    cases isSignatures.symm.trans isSignatures'
    obtain ⟨loaded, ofSignature, ofType⟩ := exists_of_bind_eq_ok ofType
    cases ofType
    refine ⟨loaded, ofSignature, fun p => holds.callParameter, fun t isResult => ?_⟩
    -- a signature without a result stands for a call that gives nothing, but this one has a result
    have resultHeld := holds.callResult
    rw [isResult] at resultHeld
    exact resultHeld
  · cases ofType

theorem field (loads : Loads index units .literal l)
    (isSignatures : l.elementsOrAt (signaturesFault l) "signatures" = .ok [])
    (isMembers : l.elementsAt "children" = .ok members) (isMember : c ∈ members) :
    Loads index units (.declaration none) c := by
  obtain ⟨type, ofType, holds⟩ := loads
  rw [TypeExpr.decodeLiteral_eq] at ofType
  split at ofType
  · obtain ⟨signatures, isSignatures', ofType⟩ := exists_of_bind_eq_ok ofType
    cases isSignatures.symm.trans isSignatures'
    obtain ⟨members', isMembers', ofType⟩ := exists_of_bind_eq_ok ofType
    obtain ⟨fields, ofFields, ofType⟩ := exists_of_bind_eq_ok ofType
    cases ofType
    cases isMembers.symm.trans isMembers'
    obtain ⟨first, ofFirst, contained⟩ := exists_decode?_of_decodeAll ofFields isMember
    exact ⟨first, ofFirst, fun f isFirst => holds.field (contained f isFirst)⟩
  · cases ofType

end Loads

/-! ## All steps -/

variable {document : Data}

theorem loads_of_document (decoded : DocUnit.decodeWith index document = .ok units)
    {members : List Data} (isMembers : document.elementsAt "children" = .ok members)
    (noModule : ∀ c ∈ members, c.isModule = .ok false) : Loads index units .unit document := by
  obtain ⟨members', modules, isMembers', modulesOf, one | several⟩ := exists_of_decodeWith decoded
  · obtain ⟨-, u, ofDocument, rfl⟩ := one
    exact ⟨u, List.mem_cons_self, ofDocument⟩
  · cases isMembers.symm.trans isMembers'
    obtain ⟨m, isModule⟩ := List.exists_mem_of_ne_nil modules several.1
    obtain ⟨isMember, isTrue⟩ := (modulesOf m).mp isModule
    cases isTrue.symm.trans (noModule m isMember)

theorem loads_of_module (decoded : DocUnit.decodeWith index document = .ok units) {m : Data}
    {members : List Data} (isMembers : document.elementsAt "children" = .ok members)
    (isMember : m ∈ members) (isModule : m.isModule = .ok true) : Loads index units .unit m := by
  obtain ⟨members', modules, isMembers', modulesOf, outcome⟩ := exists_of_decodeWith decoded
  cases isMembers.symm.trans isMembers'
  have inModules := (modulesOf m).mpr ⟨isMember, isModule⟩
  rcases outcome with one | several
  · rw [one.1] at inModules
    contradiction
  · exact exists_mem_of_mapM several.2 inModules

/-- Whatever is visited is read with the index, and what it is read as is a part of the units. -/
theorem loads_of_reads (decoded : DocUnit.decodeWith index document = .ok units) {role : Role}
    (reads : Reads document role d) : Loads index units role d := by
  induction reads with
  | document isMembers noModule => exact loads_of_document decoded isMembers noModule
  | module isMembers isMember isModule => exact loads_of_module decoded isMembers isMember isModule
  | memberOfUnit _ isMembers isMember loads => exact loads.memberOfUnit isMembers isMember
  | member _ isKind isMembers isMember loads => exact loads.member isKind isMembers isMember
  | signature _ isKind isSignatures isSignature loads =>
    exact loads.signature isKind isSignatures isSignature
  | getter _ isKind isGetter loads => exact loads.getter isKind isGetter
  | declared _ isKind isType loads => exact loads.declared isKind isType
  | parameter _ isParameters isParameter loads => exact loads.parameter isParameters isParameter
  | result _ isType loads => exact loads.result isType
  | span _ tag isSpans isSpan isParts loads => exact loads.span tag isSpans isSpan isParts
  | alternative _ tag isTypes isMembers isMember loads =>
    exact loads.alternative tag isTypes isMembers isMember
  | element _ tag isElement loads => exact loads.element tag isElement
  | item _ tag isElements isElement loads => exact loads.item tag isElements isElement
  | argument _ tag isArguments isArgument loads => exact loads.argument tag isArguments isArgument
  | literal _ tag isLiteral loads => exact loads.literal tag isLiteral
  | call _ isSignatures loads => exact loads.call isSignatures
  | field _ isSignatures isMembers isMember loads =>
    exact loads.field isSignatures isMembers isMember

end DocPress
