import DocPress.Declaration.Decode
import DocPress.Proofs.Compile
import Mathlib.Data.List.ReduceOption

/-! # The steps of reading a document

The definitions that read declarations and types carry the reasons for which they end. The
equations in this module leave them out: each reader is a sequence of steps that may fail, and a
reader of several values reads them one after another. -/

set_option autoImplicit false

namespace DocPress

variable {index : Index} {d : Data}

/-! ## Values -/

namespace Data

theorem isMap_of_field? {key : String} {v : Data} (found : d.field? key = some v) :
    d.isMap = true := by
  cases d <;> first | rfl | cases found

mutual
/-- A value and all values that it holds, at any depth. -/
def parts : Data → List Data
  | list items => list items :: partsOfItems items
  | map entries => map entries :: partsOfEntries entries
  | d => [d]

def partsOfItems : List Data → List Data
  | [] => []
  | d :: ds => parts d ++ partsOfItems ds

def partsOfEntries : List (String × Data) → List Data
  | [] => []
  | (_, d) :: es => parts d ++ partsOfEntries es
end

theorem self_mem_parts (d : Data) : d ∈ d.parts := by
  cases d <;> exact List.mem_cons_self

theorem mem_partsOfItems {items : List Data} {x r : Data} (isItem : x ∈ items)
    (isPart : r ∈ x.parts) : r ∈ partsOfItems items := by
  induction items with
  | nil => contradiction
  | cons d ds inductionHypothesis =>
    rw [partsOfItems, List.mem_append]
    rcases List.mem_cons.mp isItem with rfl | isOther
    · exact .inl isPart
    · exact .inr (inductionHypothesis isOther)

theorem mem_partsOfEntries {key : String} {entries : List (String × Data)} {v r : Data}
    (found : entries.lookup key = some v) (isPart : r ∈ v.parts) : r ∈ partsOfEntries entries := by
  induction entries with
  | nil => contradiction
  | cons e es inductionHypothesis =>
    obtain ⟨k, d⟩ := e
    rw [partsOfEntries, List.mem_append]
    rw [List.lookup_cons] at found
    split at found
    · cases found
      exact .inl isPart
    · exact .inr (inductionHypothesis found)

theorem mem_parts_of_field? {key : String} {v r : Data} (found : d.field? key = some v)
    (isPart : r ∈ v.parts) : r ∈ d.parts := by
  cases d with
  | map entries => exact List.mem_cons_of_mem _ (mem_partsOfEntries found isPart)
  | _ => cases found

theorem mem_parts_of_present? {key : String} {v r : Data} (found : d.present? key = some v)
    (isPart : r ∈ v.parts) : r ∈ d.parts :=
  mem_parts_of_field? (Option.filter_eq_some_iff.mp found).1 isPart

theorem mem_parts_of_elements {fault : DecodeFault} {x r : Data} {xs : List Data}
    (isElements : d.elements fault = .ok xs) (isItem : x ∈ xs) (isPart : r ∈ x.parts) :
    r ∈ d.parts := by
  unfold elements at isElements
  split at isElements
  · cases isElements
    exact List.mem_cons_of_mem _ (mem_partsOfItems isItem isPart)
  · split at isElements <;> cases isElements
    contradiction
  · split at isElements <;> cases isElements
    contradiction
  · cases isElements

theorem mem_parts_of_elementsOrAt {fault : DecodeFault} {key : String} {x r : Data}
    {xs : List Data} (isElements : d.elementsOrAt fault key = .ok xs) (isItem : x ∈ xs)
    (isPart : r ∈ x.parts) : r ∈ d.parts := by
  unfold elementsOrAt at isElements
  split at isElements
  · cases isElements
    contradiction
  · rename_i v found
    exact mem_parts_of_present? found (mem_parts_of_elements isElements isItem isPart)

end Data

/-! ## Filters that may fail -/

theorem mem_filterAuxM_iff {ε α : Type} {p : α → Except ε Bool} {xs acc ys : List α}
    (filtered : List.filterAuxM p xs acc = .ok ys) {x : α} :
    x ∈ ys ↔ x ∈ acc ∨ x ∈ xs ∧ p x = .ok true := by
  -- the items kept so far stand in `acc`, which every kept item makes longer
  induction xs generalizing acc with
  | nil =>
    cases filtered
    simp
  | cons y xs inductionHypothesis =>
    obtain ⟨isKept, decided, filtered⟩ := exists_of_bind_eq_ok filtered
    rw [inductionHypothesis filtered]
    cases isKept with
    | true =>
      show x ∈ y :: acc ∨ _ ↔ _
      grind
    | false =>
      show x ∈ acc ∨ _ ↔ _
      grind

theorem mem_filterM_iff {ε α : Type} {p : α → Except ε Bool} {xs ys : List α}
    (filtered : xs.filterM p = .ok ys) {x : α} : x ∈ ys ↔ x ∈ xs ∧ p x = .ok true := by
  obtain ⟨reversed, kept, filtered⟩ := exists_of_bind_eq_ok filtered
  cases filtered
  rw [List.mem_reverse, mem_filterAuxM_iff kept]
  simp

/-! ## The index -/

namespace Index

theorem collect_eq (d : Data) : collect d =
    if d.isMap then do
      let below ← collectAll (← d.elementsAt "children")
      let beside ← collectAll (← d.elementsAt "signatures")
      return (number? d).toList.map (fun n => (n, d)) ++ below ++ beside
    else throw .objectExpected := by
  rw [collect]
  split
  · cases d.elementsAt "children" with
    | error e => rfl
    | ok children =>
      simp only [bind, Except.bind]
      cases collectAll children with
      | error e => rfl
      | ok below =>
        cases d.elementsAt "signatures" with
        | error e => rfl
        | ok signatures =>
          simp only
          cases collectAll signatures <;> rfl
  · rfl

theorem collectAll_eq_mapM (ds : List Data) :
    collectAll ds = do return (← ds.mapM collect).flatten := by
  induction ds with
  | nil =>
    rw [collectAll]
    rfl
  | cons d ds inductionHypothesis =>
    rw [collectAll, inductionHypothesis, List.mapM_cons]
    cases collect d with
    | error e => rfl
    | ok first => cases ds.mapM collect <;> rfl

end Index

/-! ## Types -/

namespace TypeExpr

theorem decodeAll_eq_mapM (ds : List Data) : decodeAll index ds = ds.mapM (decode index) := by
  induction ds with
  | nil =>
    rw [decodeAll]
    rfl
  | cons d ds inductionHypothesis =>
    rw [decodeAll, inductionHypothesis, List.mapM_cons]
    cases decode index d with
    | error e => rfl
    | ok first => cases ds.mapM (decode index) <;> rfl

theorem decodeAt_eq (d : Data) : decodeAt index d =
    match d.present? "type" with
    | none => .ok none
    | some type => do return some (← decode index type) := by
  rw [decodeAt]
  cases d.present? "type" with
  | none => rfl
  | some type =>
    simp only
    cases decode index type <;> rfl

theorem decode_literalType (tag : d.field? "type" = some (.text "literal")) : decode index d = do
    return .literal (← Literal.decode ((d.field? "value").getD .null)) := by
  rw [decode, if_pos (Data.isMap_of_field? tag), tag]
  simp only

theorem decode_union (tag : d.field? "type" = some (.text "union")) : decode index d = do
    let members ← match d.field? "types" with
      | none => .ok []
      | some v => v.elements .objectExpected
    return .union (← members.mapM (decode index)) := by
  rw [decode, if_pos (Data.isMap_of_field? tag), tag]
  simp only
  cases d.field? "types" with
  | none => rfl
  | some v =>
    simp only [decodeAll_eq_mapM]
    cases v.elements .objectExpected with
    | error e => rfl
    | ok members =>
      simp only [bind, Except.bind]
      cases members.mapM (decode index) <;> rfl

theorem decode_array (tag : d.field? "type" = some (.text "array")) : decode index d =
    match d.field? "elementType" with
    | none => throw .elementTypeMissing
    | some element => do return .array (← decode index element) := by
  rw [decode, if_pos (Data.isMap_of_field? tag), tag]
  simp only
  cases d.field? "elementType" with
  | none => rfl
  | some element =>
    simp only
    cases decode index element <;> rfl

theorem decode_tuple (tag : d.field? "type" = some (.text "tuple")) : decode index d = do
    return .tuple (← (← d.elementsAt "elements").mapM (decode index)) := by
  rw [decode, if_pos (Data.isMap_of_field? tag), tag]
  simp only [decodeAll_eq_mapM]
  cases d.elementsAt "elements" with
  | error e => rfl
  | ok elements =>
    simp only [bind, Except.bind]
    cases elements.mapM (decode index) <;> rfl

theorem decode_template (tag : d.field? "type" = some (.text "templateLiteral")) :
    decode index d = do
      return .template (d.nameAt "head" "") (← decodeSpans index (← d.elementsAt "tail")) := by
  rw [decode, if_pos (Data.isMap_of_field? tag), tag]
  simp only
  cases d.elementsAt "tail" with
  | error e => rfl
  | ok spans =>
    simp only [bind, Except.bind]
    cases decodeSpans index spans <;> rfl

theorem decode_reference (tag : d.field? "type" = some (.text "reference")) :
    decode index d = do return .reference (← Reference.decode index d) := by
  rw [decode, if_pos (Data.isMap_of_field? tag), tag]
  simp only
  cases Reference.decode index d <;> rfl

theorem decode_reflection (tag : d.field? "type" = some (.text "reflection")) :
    decode index d =
      match d.present? "declaration" with
      | none => .ok (.object [])
      | some declaration => decodeLiteral index declaration := by
  rw [decode, if_pos (Data.isMap_of_field? tag), tag]
  simp only
  cases d.present? "declaration" <;> rfl

/-- The type and the text of a span. -/
def decodeSpan (index : Index) (d : Data) : Except DecodeFault (TypeExpr × Data) := do
  match ← spanParts d with
  | [] => throw .spanTooShort
  | type :: rest =>
    let t ← decode index type
    match rest with
    | [] => throw .spanTooShort
    | s :: _ => return (t, s)

theorem decodeSpans_eq_mapM (ds : List Data) :
    decodeSpans index ds = ds.mapM (decodeSpan index) := by
  induction ds with
  | nil =>
    rw [decodeSpans]
    rfl
  | cons d ds inductionHypothesis =>
    rw [decodeSpans, inductionHypothesis, List.mapM_cons]
    split
    · rename_i fault isParts
      rw [decodeSpan, isParts]
      rfl
    · rename_i isParts
      rw [decodeSpan, isParts]
      rfl
    · rename_i type rest isParts
      -- the rest of the span is looked at together with a proof of where it is from
      have first : decodeSpan index d = do
          let t ← decode index type
          match rest with
          | [] => throw .spanTooShort
          | s :: _ => return (t, s) := by
        rw [decodeSpan, isParts]
        rfl
      rw [first]
      cases decode index type with
      | error e => rfl
      | ok t =>
        cases rest with
        | nil => rfl
        | cons s _ =>
          simp only [bind, Except.bind, pure, Except.pure]
          cases ds.mapM (decodeSpan index) <;> rfl

theorem decodeLiteral_eq (d : Data) : decodeLiteral index d =
    if d.isMap then do
      match ← d.elementsOrAt (signaturesFault d) "signatures" with
      | signature :: _ =>
        let s ← CallSignature.decode index signature
        return .callable s.parameters (s.result.getD (.primitive (.text "void")))
      | [] => return .object (← Declaration.decodeAll index none (← d.elementsAt "children"))
    else throw .objectExpected := by
  rw [decodeLiteral]
  split
  · cases d.elementsOrAt (signaturesFault d) "signatures" with
    | error e => rfl
    | ok signatures =>
      cases signatures with
      | cons signature _ =>
        simp only [bind, Except.bind]
        cases CallSignature.decode index signature <;> rfl
      | nil =>
        simp only [bind, Except.bind]
        cases d.elementsAt "children" with
        | error e => rfl
        | ok children =>
          simp only
          cases Declaration.decodeAll index none children <;> rfl
  · rfl

end TypeExpr

theorem Reference.decode_eq (d : Data) : Reference.decode index d = do
    let arguments ← (← d.elementsAt "typeArguments").mapM (TypeExpr.decode index)
    let target ← Origin.decode index (d.field? "target")
    return ⟨d.nameAt "name" "", d.valueAt? "package", d.valueAt? "qualifiedName", arguments,
      target⟩ := by
  rw [decode]
  cases d.elementsAt "typeArguments" with
  | error e => rfl
  | ok arguments =>
    simp only [TypeExpr.decodeAll_eq_mapM, bind, Except.bind]
    cases arguments.mapM (TypeExpr.decode index) <;> rfl

/-! ## Signatures and declarations -/

namespace CallSignature

theorem decode_eq (d : Data) : decode index d =
    if d.isMap then do
      let parameters ← Declaration.decodeAll index (some .parameterDecl)
        (← d.elementsOrAt .parameterExpected "parameters")
      let result ← TypeExpr.decodeAt index d
      let comment ← DocComment.decodeAt d
      return ⟨d.nameAt "name" "", parameters, result, comment⟩
    else throw .objectExpected := by
  rw [decode]
  split
  · cases d.elementsOrAt .parameterExpected "parameters" with
    | error e => rfl
    | ok parameters =>
      simp only [bind, Except.bind]
      cases Declaration.decodeAll index (some .parameterDecl) parameters with
      | error e => rfl
      | ok parameters =>
        simp only
        cases TypeExpr.decodeAt index d <;> rfl
  · rfl

theorem decodeAll_eq_mapM (ds : List Data) : decodeAll index ds = ds.mapM (decode index) := by
  induction ds with
  | nil =>
    rw [decodeAll]
    rfl
  | cons d ds inductionHypothesis =>
    rw [decodeAll, inductionHypothesis, List.mapM_cons]
    cases decode index d with
    | error e => rfl
    | ok first => cases ds.mapM (decode index) <;> rfl

theorem decodeGetter_eq (d : Data) : decodeGetter index d =
    match d.present? "getSignature" with
    | none => .ok none
    | some getter => do return some (← decode index getter) := by
  rw [decodeGetter]
  cases d.present? "getSignature" with
  | none => rfl
  | some getter =>
    simp only
    cases decode index getter <;> rfl

end CallSignature

namespace Declaration

theorem decodeAll_eq_mapM (absent : Option DeclKind) (ds : List Data) :
    decodeAll index absent ds = do return (← ds.mapM (decode? index absent)).reduceOption := by
  induction ds with
  | nil =>
    rw [decodeAll]
    rfl
  | cons d ds inductionHypothesis =>
    rw [decodeAll, inductionHypothesis, List.mapM_cons]
    cases decode? index absent d with
    | error e => rfl
    | ok first =>
      cases ds.mapM (decode? index absent) with
      | error e => rfl
      | ok rest => cases first <;> rfl

/-- Reads a declaration of a kind. -/
def decodeOf (index : Index) (kind : DeclKind) (d : Data) : Except DecodeFault Declaration := do
  let modifiers ← Modifiers.decode d
  let comment ← DocComment.decodeAt d
  let type ← TypeExpr.decodeAt index d
  let signatures ← (← d.elementsAt "signatures").mapM (CallSignature.decode index)
  let getter ← CallSignature.decodeGetter index d
  let children ← decodeAll index none (← d.elementsAt "children")
  let sourcePath ← d.sourcePath
  return ⟨d.nameAt "name" "", kind, modifiers, comment, type, signatures, getter, children,
    sourcePath, d.valueAt? "defaultValue"⟩

theorem decode?_eq (absent : Option DeclKind) (d : Data) : decode? index absent d =
    if d.isMap then
      match DeclKind.decode? absent d with
      | none => .ok none
      | some kind => do return some (← decodeOf index kind d)
    else throw (if absent.isSome then .parameterExpected else .objectExpected) := by
  rw [decode?]
  split
  · cases DeclKind.decode? absent d with
    | none => rfl
    | some kind =>
      simp only [decodeOf, bind, Except.bind]
      -- each step ends the reading on both sides or leaves the next step on both
      cases Modifiers.decode d with
      | error e => rfl
      | ok modifiers =>
        simp only
        cases DocComment.decodeAt d with
        | error e => rfl
        | ok comment =>
          simp only
          cases TypeExpr.decodeAt index d with
          | error e => rfl
          | ok type =>
            simp only
            cases d.elementsAt "signatures" with
            | error e => rfl
            | ok signatures =>
              simp only [CallSignature.decodeAll_eq_mapM]
              cases signatures.mapM (CallSignature.decode index) with
              | error e => rfl
              | ok signatures =>
                simp only
                cases CallSignature.decodeGetter index d with
                | error e => rfl
                | ok getter =>
                  simp only
                  cases d.elementsAt "children" with
                  | error e => rfl
                  | ok children =>
                    simp only
                    cases decodeAll index none children with
                    | error e => rfl
                    | ok children =>
                      simp only
                      cases d.sourcePath <;> rfl
  · rfl

end Declaration

end DocPress
