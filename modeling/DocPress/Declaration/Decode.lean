import DocPress.Data.Size
import DocPress.Declaration

/-! # Reading declarations from documents

A reflection document is a tree of objects, each the description of a declaration, a signature or a
type. This module reads units, declarations, signatures and types from it.

* `Index`: the descriptions that carry a number, by that number. A reference names its target by
  such a number or by the file that declares it.
* `DecodeFault`: why a description cannot be read.
* `DocUnit.decodeAll`: the units of a document: its modules, or the document as one unit when it
  has none.

Descriptions of kinds that are not documented are passed over. A value that does not count as
present (`Data.isTrue`) is read like an absent one wherever an object or a list is expected. -/

set_option autoImplicit false

namespace DocPress

/-- Why a description cannot be read. -/
inductive DecodeFault where
  | objectExpected
  | listExpected
  /-- An object stands where the first item of a list is needed. -/
  | firstItemMissing
  | parameterExpected
  | tagExpected
  | elementTypeMissing
  /-- A span of a template text has fewer than two items. -/
  | spanTooShort
  | notANumeral
deriving DecidableEq

def DecodeFault.message : DecodeFault → String
  | objectExpected => "An object is expected in the reflection document."
  | listExpected => "A list is expected in the reflection document."
  | firstItemMissing => "A list is expected in the reflection document, and not an object."
  | parameterExpected => "A parameter is expected in the reflection document."
  | tagExpected => "A tag is expected in the reflection document."
  | elementTypeMissing => "An array type has no element type."
  | spanTooShort => "A span of a template text has fewer than two items."
  | notANumeral => "The digits of a large whole number are no numeral."

namespace Data

/-- The items of a list. The items of a text are its characters and those of a map its keys; no
description is a text, so `notDescription` is the fault of the first of them. -/
def elements (notDescription : DecodeFault) : Data → Except DecodeFault (List Data)
  | list xs => .ok xs
  | text s => if s = "" then .ok [] else .error notDescription
  | map es => if es.isEmpty then .ok [] else .error notDescription
  | _ => .error .listExpected

def isMap : Data → Bool
  | map _ => true
  | _ => false

def elementsOrAt (notDescription : DecodeFault) (key : String) (d : Data) :
    Except DecodeFault (List Data) :=
  match d.present? key with
  | none => .ok []
  | some v => v.elements notDescription

def elementsAt (key : String) (d : Data) : Except DecodeFault (List Data) :=
  d.elementsOrAt .objectExpected key

/-- The value at a key, or the text `absent` if the object does not have the key. -/
def nameAt (key absent : String) (d : Data) : Data := (d.field? key).getD (.text absent)

def valueAt? (key : String) (d : Data) : Option Data := (d.field? key).filter fun v => v ≠ null

def flagAt (key : String) (d : Data) : Bool := (d.present? key).isSome

/-! ## The items of a list are smaller than the value that holds it -/

theorem sizeOf_elements {notDescription : DecodeFault} {d : Data} {xs : List Data}
    (h : d.elements notDescription = .ok xs) : sizeOf xs ≤ sizeOf d := by
  cases d with
  | list ys =>
    simp only [elements, Except.ok.injEq] at h
    subst h
    simp
  | text s =>
    simp only [elements] at h
    split at h
    · cases h
      simp
    · cases h
  | map es =>
    simp only [elements] at h
    split at h
    · cases h
      simp
    · cases h
  | _ => simp [elements] at h

theorem sizeOf_elementsOrAt {notDescription : DecodeFault} {key : String} {d : Data}
    {xs : List Data} (h : d.elementsOrAt notDescription key = .ok xs) : sizeOf xs ≤ sizeOf d := by
  unfold elementsOrAt at h
  split at h
  · cases h
    cases d <;> simp
  · rename_i v hv
    exact Nat.le_trans (sizeOf_elements h) (Nat.le_of_lt (sizeOf_present? hv))

theorem sizeOf_elementsAt {key : String} {d : Data} {xs : List Data}
    (h : d.elementsAt key = .ok xs) : sizeOf xs ≤ sizeOf d :=
  sizeOf_elementsOrAt h

end Data

/-! ## Parts without types -/

def Data.sourcePath (d : Data) : Except DecodeFault (Option Data) :=
  match d.present? "sources" with
  | none => .ok none
  | some (.list (s :: _)) =>
    if s.isMap then .ok (s.valueAt? "fileName") else .error .objectExpected
  | some (.list []) => .ok none
  | some (.text _) => .error .objectExpected
  | some (.map _) => .error .firstItemMissing
  | some _ => .error .listExpected

/-- Reads the modifiers of a declaration; without a description it has none. -/
def Modifiers.decode (d : Data) : Except DecodeFault Modifiers :=
  match d.present? "flags" with
  | none => .ok {}
  | some flags =>
    if flags.isMap then
      .ok
        { isOptional := flags.flagAt "isOptional"
          isStatic := flags.flagAt "isStatic"
          isPublic := flags.flagAt "isPublic"
          isPrivate := flags.flagAt "isPrivate"
          isProtected := flags.flagAt "isProtected"
          isExternal := flags.flagAt "isExternal" }
    else .error .objectExpected

def CommentPart.decode (d : Data) : Except DecodeFault CommentPart :=
  if d.isMap then .ok ⟨d.nameAt "kind" "text", d.nameAt "text" ""⟩
  else .error .objectExpected

def BlockTag.decode (d : Data) : Except DecodeFault BlockTag :=
  if d.isMap then do
    return ⟨d.nameAt "tag" "", ← (← d.elementsAt "content").mapM CommentPart.decode⟩
  else .error .objectExpected

/-- Reads the items of a list of tags. Lists and maps cannot be members of a set. -/
def TagSet.decodeItems : List Data → Except DecodeFault TagSet
  | [] => .ok TagSet.empty
  | .text t :: items => do return (← TagSet.decodeItems items).insert t
  | d :: items =>
    if plain : isPlain d then do return (← TagSet.decodeItems items).insertOther d plain
    else .error .tagExpected

/-- Reads modifier tags: the items of a list, the characters of a text or the keys of a map. -/
def TagSet.decode : Data → Except DecodeFault TagSet
  | .list items => TagSet.decodeItems items
  | .text s => .ok (TagSet.ofList (s.toList.map String.singleton))
  | .map es => .ok (TagSet.ofList (es.map Prod.fst))
  | _ => .error .listExpected

def DocComment.decode (d : Data) : Except DecodeFault DocComment :=
  if d.isMap then do
    return {
      summary := ← (← d.elementsAt "summary").mapM CommentPart.decode
      blockTags := ← (← d.elementsAt "blockTags").mapM BlockTag.decode
      modifierTags :=
        ← match d.present? "modifierTags" with
          | none => .ok TagSet.empty
          | some tags => TagSet.decode tags }
  else .error .objectExpected

def DocComment.decodeAt (d : Data) : Except DecodeFault (Option DocComment) :=
  match d.present? "comment" with
  | none => .ok none
  | some c => do return some (← DocComment.decode c)

/-- Reads the value of a literal type. A whole number too large for a floating-point number is
described by its digits and whether it is negative. -/
def Literal.decode : Data → Except DecodeFault Literal
  | .null => .ok .null
  | .bool b => .ok (.bool b)
  | .int n => .ok (.int n)
  | .float x => .ok (.float x)
  | .text s => .ok (.text s)
  | d =>
    match d.field? "value" with
    | some (.text digits) =>
      match Numeral.read? digits with
      | some n => .ok (.int (if d.flagAt "negative" then -n else n))
      | none => .error .notANumeral
    | _ => .ok (.text d.display)

/-! ## The index -/

/-- The numbered descriptions of a document, in the order in which they stand in it. -/
abbrev Index := List (Int × Data)

namespace Index

def number? (d : Data) : Option Int :=
  match d.field? "id" with
  | some (.int n) => some n
  | some (.bool b) => some (if b then 1 else 0)
  | _ => none

mutual
/-- The numbered descriptions among a description, its members and its signatures, at any depth. -/
def collect (d : Data) : Except DecodeFault Index :=
  if d.isMap then
    let own : Index := (number? d).toList.map fun n => (n, d)
    match _ : d.elementsAt "children" with
    | .error e => .error e
    | .ok children =>
      match collectAll children with
      | .error e => .error e
      | .ok below =>
        match _ : d.elementsAt "signatures" with
        | .error e => .error e
        | .ok signatures =>
          match collectAll signatures with
          | .error e => .error e
          | .ok beside => .ok (own ++ below ++ beside)
  else .error .objectExpected
termination_by (sizeOf d, 1)
decreasing_by
  · have := Data.sizeOf_elementsAt ‹_›
    omega
  · have := Data.sizeOf_elementsAt ‹_›
    omega

def collectAll (ds : List Data) : Except DecodeFault Index :=
  match ds with
  | [] => .ok []
  | d :: ds =>
    match collect d with
    | .error e => .error e
    | .ok first =>
      match collectAll ds with
      | .error e => .error e
      | .ok rest => .ok (first ++ rest)
termination_by (sizeOf ds, 0)
decreasing_by
  · simp_wf
    omega
  · simp_wf
    omega
end

/-- The description with a number; of several the last. -/
def find? (index : Index) (n : Int) : Option Data :=
  (index.reverse.find? fun entry => entry.1 = n).map Prod.snd

end Index

/-- Reads the target of a reference: the number of a description of the document, or an object that
names the declaring file. -/
def Origin.decode (index : Index) (target : Option Data) : Except DecodeFault (Option Origin) :=
  let named (d : Data) : Option Origin :=
    match d.field? "sourceFileName" with
    | some (.text path) => some ⟨some (.text path)⟩
    | _ => none
  let numbered (n : Int) : Except DecodeFault (Option Origin) :=
    match index.find? n with
    | some d => do return some ⟨← d.sourcePath⟩
    | none => .ok none
  match target with
  | some (.int n) => numbered n
  | some (.bool b) => numbered (if b then 1 else 0)
  | some d => .ok (named d)
  | none => .ok none

/-! ## Types, signatures and declarations -/

/-- What is wrong with the signatures of an anonymous declaration that are no list. -/
def signaturesFault (d : Data) : DecodeFault :=
  if ((d.field? "signatures").any Data.isMap) then .firstItemMissing else .objectExpected

def spanParts : Data → Except DecodeFault (List Data)
  | .map _ => .error .firstItemMissing
  | d => d.elements .objectExpected

theorem sizeOf_spanParts {d : Data} {xs : List Data} (h : spanParts d = .ok xs) :
    sizeOf xs ≤ sizeOf d := by
  unfold spanParts at h
  split at h
  · cases h
  · exact Data.sizeOf_elements h

/-- The kind of a described declaration, if it is a documented one; a description that does not
name a kind has the kind `absent`. -/
def DeclKind.decode? (absent : Option DeclKind) (d : Data) : Option DeclKind :=
  match d.field? "kind" with
  | none => absent
  | some k => k.toInt?.bind DeclKind.ofCode?

mutual
def TypeExpr.decode (index : Index) (d : Data) : Except DecodeFault TypeExpr :=
  if d.isMap then
    match d.field? "type" with
    | some (.text "intrinsic") => .ok (.primitive (d.nameAt "name" ""))
    | some (.text "literal") => do
      return .literal (← Literal.decode ((d.field? "value").getD .null))
    | some (.text "templateLiteral") =>
      match _ : d.elementsAt "tail" with
      | .error e => .error e
      | .ok spans =>
        match TypeExpr.decodeSpans index spans with
        | .error e => .error e
        | .ok spans => .ok (.template (d.nameAt "head" "") spans)
    | some (.text "union") =>
      match _ : d.field? "types" with
      | none => .ok (.union [])
      | some v =>
        match _ : v.elements .objectExpected with
        | .error e => .error e
        | .ok members =>
          match TypeExpr.decodeAll index members with
          | .error e => .error e
          | .ok members => .ok (.union members)
    | some (.text "array") =>
      match _ : d.field? "elementType" with
      | none => .error .elementTypeMissing
      | some element =>
        match TypeExpr.decode index element with
        | .error e => .error e
        | .ok element => .ok (.array element)
    | some (.text "tuple") =>
      match _ : d.elementsAt "elements" with
      | .error e => .error e
      | .ok elements =>
        match TypeExpr.decodeAll index elements with
        | .error e => .error e
        | .ok elements => .ok (.tuple elements)
    | some (.text "reference") =>
      match Reference.decode index d with
      | .error e => .error e
      | .ok ref => .ok (.reference ref)
    | some (.text "reflection") =>
      match _ : d.present? "declaration" with
      | none => .ok (.object [])
      | some declaration => TypeExpr.decodeLiteral index declaration
    | some tag => .ok (.other tag.display)
    | none => .ok (.other (Data.null).display)
  else .error .objectExpected
termination_by (sizeOf d, 2)
decreasing_by
  · have := Data.sizeOf_elementsAt ‹_›
    omega
  · have := Data.sizeOf_field? ‹_›
    have := Data.sizeOf_elements ‹_›
    omega
  · have := Data.sizeOf_field? ‹_›
    omega
  · have := Data.sizeOf_elementsAt ‹_›
    omega
  · exact Prod.Lex.right _ (by decide)
  · have := Data.sizeOf_present? ‹_›
    omega

def Reference.decode (index : Index) (d : Data) : Except DecodeFault Reference :=
  match _ : d.elementsAt "typeArguments" with
  | .error e => .error e
  | .ok arguments =>
    match TypeExpr.decodeAll index arguments with
    | .error e => .error e
    | .ok arguments => do
      return {
        name := d.nameAt "name" ""
        package := d.valueAt? "package"
        qualifiedName := d.valueAt? "qualifiedName"
        arguments := arguments
        target := ← Origin.decode index (d.field? "target") }
termination_by (sizeOf d, 1)
decreasing_by
  have := Data.sizeOf_elementsAt ‹_›
  omega

/-- Reads the type that the description of an anonymous declaration gives: a function type if it
has a signature, an object type if not. -/
def TypeExpr.decodeLiteral (index : Index) (d : Data) : Except DecodeFault TypeExpr :=
  if d.isMap then
    match _ : d.elementsOrAt (signaturesFault d) "signatures" with
    | .error e => .error e
    | .ok (signature :: _) =>
      match CallSignature.decode index signature with
      | .error e => .error e
      | .ok s => .ok (.callable s.parameters (s.result.getD (.primitive (.text "void"))))
    | .ok [] =>
      match _ : d.elementsAt "children" with
      | .error e => .error e
      | .ok fields =>
        match Declaration.decodeAll index none fields with
        | .error e => .error e
        | .ok fields => .ok (.object fields)
  else .error .objectExpected
termination_by (sizeOf d, 1)
decreasing_by
  · have := Data.sizeOf_elementsOrAt ‹_›
    simp at this
    omega
  · have := Data.sizeOf_elementsAt ‹_›
    omega

def TypeExpr.decodeAt (index : Index) (d : Data) : Except DecodeFault (Option TypeExpr) :=
  match _ : d.present? "type" with
  | none => .ok none
  | some type =>
    match TypeExpr.decode index type with
    | .error e => .error e
    | .ok type => .ok (some type)
termination_by (sizeOf d, 0)
decreasing_by
  have := Data.sizeOf_present? ‹_›
  omega

def TypeExpr.decodeAll (index : Index) (ds : List Data) : Except DecodeFault (List TypeExpr) :=
  match ds with
  | [] => .ok []
  | d :: ds =>
    match TypeExpr.decode index d with
    | .error e => .error e
    | .ok t =>
      match TypeExpr.decodeAll index ds with
      | .error e => .error e
      | .ok ts => .ok (t :: ts)
termination_by (sizeOf ds, 0)
decreasing_by
  · simp_wf
    omega
  · simp_wf
    omega

def TypeExpr.decodeSpans (index : Index) (ds : List Data) :
    Except DecodeFault (List (TypeExpr × Data)) :=
  match ds with
  | [] => .ok []
  | d :: ds =>
    match _ : spanParts d with
    | .error e => .error e
    | .ok [] => .error .spanTooShort
    | .ok (type :: rest) =>
      match TypeExpr.decode index type with
      | .error e => .error e
      | .ok type =>
        match rest with
        | [] => .error .spanTooShort
        | s :: _ =>
          match TypeExpr.decodeSpans index ds with
          | .error e => .error e
          | .ok spans => .ok ((type, s) :: spans)
termination_by (sizeOf ds, 0)
decreasing_by
  · have := sizeOf_spanParts ‹_›
    simp_wf
    simp at this
    omega
  · simp_wf
    omega

def CallSignature.decode (index : Index) (d : Data) : Except DecodeFault CallSignature :=
  if d.isMap then
    match _ : d.elementsOrAt .parameterExpected "parameters" with
    | .error e => .error e
    | .ok parameters =>
      match Declaration.decodeAll index (some .parameterDecl) parameters with
      | .error e => .error e
      | .ok parameters =>
        match TypeExpr.decodeAt index d with
        | .error e => .error e
        | .ok result => do
          return {
            name := d.nameAt "name" ""
            parameters := parameters
            result := result
            comment := ← DocComment.decodeAt d }
  else .error .objectExpected
termination_by (sizeOf d, 1)
decreasing_by
  · have := Data.sizeOf_elementsOrAt ‹_›
    omega
  · exact Prod.Lex.right _ (by decide)

def CallSignature.decodeAll (index : Index) (ds : List Data) :
    Except DecodeFault (List CallSignature) :=
  match ds with
  | [] => .ok []
  | d :: ds =>
    match CallSignature.decode index d with
    | .error e => .error e
    | .ok s =>
      match CallSignature.decodeAll index ds with
      | .error e => .error e
      | .ok ss => .ok (s :: ss)
termination_by (sizeOf ds, 0)
decreasing_by
  · simp_wf
    omega
  · simp_wf
    omega

/-- Reads a declaration; nothing if its kind is not documented. -/
def Declaration.decode? (index : Index) (absent : Option DeclKind) (d : Data) :
    Except DecodeFault (Option Declaration) :=
  if d.isMap then
    match DeclKind.decode? absent d with
    | none => .ok none
    | some kind => do
      let modifiers ← Modifiers.decode d
      let comment ← DocComment.decodeAt d
      match TypeExpr.decodeAt index d with
      | .error e => .error e
      | .ok type =>
        match _ : d.elementsAt "signatures" with
        | .error e => .error e
        | .ok signatures =>
          match CallSignature.decodeAll index signatures with
          | .error e => .error e
          | .ok signatures =>
            match CallSignature.decodeGetter index d with
            | .error e => .error e
            | .ok getter =>
              match _ : d.elementsAt "children" with
              | .error e => .error e
              | .ok children =>
                match Declaration.decodeAll index none children with
                | .error e => .error e
                | .ok children => do
                  return some {
                    name := d.nameAt "name" ""
                    kind := kind
                    modifiers := modifiers
                    comment := comment
                    type := type
                    signatures := signatures
                    getter := getter
                    children := children
                    sourcePath := ← d.sourcePath
                    defaultValue := d.valueAt? "defaultValue" }
  else .error (if absent.isSome then .parameterExpected else .objectExpected)
termination_by (sizeOf d, 1)
decreasing_by
  · exact Prod.Lex.right _ (by decide)
  · have := Data.sizeOf_elementsAt ‹_›
    omega
  · exact Prod.Lex.right _ (by decide)
  · have := Data.sizeOf_elementsAt ‹_›
    omega

def CallSignature.decodeGetter (index : Index) (d : Data) :
    Except DecodeFault (Option CallSignature) :=
  match _ : d.present? "getSignature" with
  | none => .ok none
  | some getter =>
    match CallSignature.decode index getter with
    | .error e => .error e
    | .ok s => .ok (some s)
termination_by (sizeOf d, 0)
decreasing_by
  have := Data.sizeOf_present? ‹_›
  omega

def Declaration.decodeAll (index : Index) (absent : Option DeclKind) (ds : List Data) :
    Except DecodeFault (List Declaration) :=
  match ds with
  | [] => .ok []
  | d :: ds =>
    match Declaration.decode? index absent d with
    | .error e => .error e
    | .ok first =>
      match Declaration.decodeAll index absent ds with
      | .error e => .error e
      | .ok rest => .ok (first.toList ++ rest)
termination_by (sizeOf ds, 0)
decreasing_by
  · simp_wf
    omega
  · simp_wf
    omega
end

/-! ## Units -/

def DocUnit.decode (index : Index) (d : Data) : Except DecodeFault DocUnit := do
  let declarations ← Declaration.decodeAll index none (← d.elementsAt "children")
  return {
    name := d.nameAt "name" ""
    declarations := declarations
    sourcePath := ← d.sourcePath
    comment := ← DocComment.decodeAt d }

def Data.isModule (d : Data) : Except DecodeFault Bool :=
  if d.isMap then .ok ((d.field? "kind").bind Data.toInt? = some 2)
  else .error .objectExpected

def DocUnit.decodeWith (index : Index) (document : Data) :
    Except DecodeFault (List DocUnit) := do
  let modules ← (← document.elementsAt "children").filterM Data.isModule
  if modules.isEmpty then return [← DocUnit.decode index document]
  else modules.mapM (DocUnit.decode index)

/-- The units of a document: its modules, or the document as one unit when it has none. -/
def DocUnit.decodeAll (document : Data) : Except DecodeFault (List DocUnit) := do
  DocUnit.decodeWith (← Index.collect document) document

end DocPress
