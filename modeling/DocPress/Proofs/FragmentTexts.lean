import DocPress.Proofs.PlainTexts
import DocPress.Proofs.RenderedTypes
import DocPress.Proofs.TransparentWrappers

/-! # Texts of fragments

The fragment of a type is put together from plain texts of the program and from texts of the type,
which stand side by side or between code tags. So a property of texts that is kept by putting texts
together holds of a fragment if it holds of the texts that the type and all types shown by it put
there.

* `TypeExpr.Names`, `TypeExpr.Puts`: the texts of a type, as they are and as they are put there.
* `Framed`: the properties that are kept.
* `TypeExpr.framed_render`: such a property holds of fragments. -/

set_option autoImplicit false

namespace DocPress

open Markup (code typeLink quoted unionSeparator generic)

/-! ## The texts of a type -/

/-- The link that a comment gives in place of a type: its label and its address. -/
def DocComment.seeLink? (comment : Option DocComment) : Option (String × String) :=
  (DocComment.seeText? comment).bind fun d => d.text?.bind DocComment.readClientLink

theorem DocComment.exists_seeLink {comment : Option DocComment} {shown : String}
    (gives : typeLink? comment = .ok (some shown)) :
    ∃ link, seeLink? comment = some link ∧ shown = typeLink link.1 link.2 := by
  rw [typeLink?_eq] at gives
  split at gives
  · cases gives
  · rename_i s sees
    obtain ⟨link, read, isShown⟩ := Option.map_eq_some_iff.mp (Except.ok.inj gives)
    refine ⟨link, ?_, isShown.symm⟩
    rw [seeLink?, sees]
    exact read
  · cases gives

theorem DocComment.not_givesTypeLink {comment : Option DocComment}
    (noLink : typeLink? comment = .ok none) : ¬ GivesTypeLink comment := by
  rcases typeLink?_cases comment with ⟨-, link, isLink⟩ | ⟨notGiven, -⟩ | ⟨-, fault, fails⟩
  · cases noLink.symm.trans isLink
  · exact notGiven
  · cases noLink.symm.trans fails

/-- The names, labels and addresses that the fragment of a type shows, those of the types in it left
out. -/
inductive TypeExpr.Names (unit : DocUnit) : TypeExpr → String → Prop
  | primitive {name : Data} : Names unit (.primitive name) name.display
  | hole {head hole tail : Data} :
      Names unit (.template head [(.primitive hole, tail)]) hole.display
  | reference {ref : Reference} : Names unit (.reference ref) ref.name.display
  | address {ref : Reference} {target : LinkTarget}
      (isLink : ReferenceForm.of ref.package ref.name = .link)
      (resolved : Link.resolve unit ref = .ok target) : Names unit (.reference ref) target.href
  | parameter {parameters : List Declaration} {result : TypeExpr} {d : Declaration}
      (isParameter : d ∈ parameters) : Names unit (.callable parameters result) d.name.display
  | seeLabel {parameters : List Declaration} {result : TypeExpr} {d : Declaration}
      {link : String × String} (isParameter : d ∈ parameters)
      (sees : DocComment.seeLink? d.comment = some link) :
      Names unit (.callable parameters result) link.1
  | seeAddress {parameters : List Declaration} {result : TypeExpr} {d : Declaration}
      {link : String × String} (isParameter : d ∈ parameters)
      (sees : DocComment.seeLink? d.comment = some link) :
      Names unit (.callable parameters result) link.2

/-- The texts that a type puts into its fragment, those of the types in it left out: names as they
are, and the texts of literal and template types with their marks escaped. -/
inductive TypeExpr.Puts (unit : DocUnit) : TypeExpr → String → Prop
  | name {t : TypeExpr} {text : String} (names : t.Names unit text) : Puts unit t text
  | literal {text : String} : Puts unit (.literal (.text text)) (Text.escapeMarkdown text)
  | head {head tail : String} {hole : Data} :
      Puts unit (.template (.text head) [(.primitive hole, .text tail)]) (Text.escapeBraces head)
  | tail {head tail : String} {hole : Data} :
      Puts unit (.template (.text head) [(.primitive hole, .text tail)]) (Text.escapeBraces tail)

/-! ## Properties of texts that are kept -/

/-- A property of texts that plain texts have, and that is kept by putting texts side by side or
between code tags. The braces around the hole of a template text have it too. -/
structure Framed (P : String → Prop) : Prop where
  plain {s : String} (isPlain : IsPlain s) : P s
  append {s s' : String} (first : P s) (second : P s') : P (s ++ s')
  code {style s : String} (isStyle : style ∈ Markup.styles) (inside : P s) : P (code style s)
  opening : P "$\\\x7b"
  closing : P "\\\x7d"

namespace Framed

variable {P : String → Prop} (framed : Framed P)

include framed

theorem intercalate {separator : String} {parts : List String} (between : P separator)
    (each : ∀ s ∈ parts, P s) : P (separator.intercalate parts) := by
  induction parts with
  | nil =>
    have isPlain : IsPlain (separator.intercalate []) := by simp [IsPlain]
    exact framed.plain isPlain
  | cons first rest inductionHypothesis =>
    obtain ⟨ofFirst, ofRest⟩ := List.forall_mem_cons.mp each
    cases rest with
    | nil => simpa using ofFirst
    | cons second rest =>
      rw [String.intercalate_cons_cons]
      exact framed.append (framed.append ofFirst between) (inductionHypothesis ofRest)

theorem plainCode {style s : String} (isStyle : style ∈ Markup.styles) (isPlain : IsPlain s) :
    P (Markup.code style s) :=
  framed.code isStyle (framed.plain isPlain)

theorem separator : P unionSeparator := framed.plainCode (by decide) (by decide)

theorem quoted {s : String} (inside : P s) : P (Markup.quoted s) :=
  framed.append (framed.append (framed.plainCode (by decide) (by decide))
    (framed.code (by decide) inside)) (framed.plainCode (by decide) (by decide))

theorem typeLink {label address : String} (ofLabel : P label) (ofAddress : P address) :
    P (Markup.typeLink label address) := by
  have linked := framed.code (show "type" ∈ Markup.styles by decide) ofLabel
  exact framed.append (framed.append (framed.append (framed.append (framed.plain (by decide))
    linked) (framed.plain (by decide))) ofAddress) (framed.plain (by decide))

theorem generic {label payload : String} (ofLabel : P label) (inside : P payload) :
    P (Markup.generic label payload) :=
  framed.append (framed.append (framed.append (framed.code (by decide) ofLabel)
    (framed.plainCode (by decide) (by decide))) inside) (framed.plainCode (by decide) (by decide))

theorem arrayOf {element : String} (isUnion : Bool) (inside : P element) :
    P (TypeExpr.arrayOf isUnion element) := by
  cases isUnion with
  | true =>
    exact framed.append (framed.append (framed.plainCode (by decide) (by decide)) inside)
      (framed.plainCode (by decide) (by decide))
  | false => exact framed.append inside (framed.plainCode (by decide) (by decide))

theorem thenCode {before style s : String} (first : P before) (isStyle : style ∈ Markup.styles)
    (isPlain : IsPlain s) : P (before ++ Markup.code style s) :=
  framed.append first (framed.plainCode isStyle isPlain)

theorem transformOf {payload : String} (inside : P payload) : P (TypeExpr.transformOf payload) := by
  have options : P (Markup.typeLink "ComponentResourceOptions" Link.resourceOptionsUrl) :=
    framed.typeLink (framed.plain (by decide)) (framed.plain (by decide))
  unfold TypeExpr.transformOf
  -- from the end to the front, past the link and the payload, which stands there twice
  iterate 7 refine framed.thenCode ?_ (by decide) (by decide)
  refine framed.append ?_ options
  iterate 3 refine framed.thenCode ?_ (by decide) (by decide)
  refine framed.append ?_ inside
  iterate 3 refine framed.thenCode ?_ (by decide) (by decide)
  exact framed.append inside framed.separator

theorem around {s : String} {form : ReferenceForm} (unwrap : Bool) (isPlain : form.IsPlain)
    (inside : P s) : P (form.around unwrap s) := by
  cases form with
  | transform => exact framed.transformOf inside
  | later label =>
    cases unwrap with
    | true => exact inside
    | false => exact framed.generic (framed.plain isPlain) inside
  | input label => exact framed.generic (framed.plain isPlain) inside
  | languageGeneric | passThrough | fixed | link | misnamed => exact inside

theorem parameterName {d : Declaration} {shown : String} (isShown : d.parameterName = .ok shown)
    (name : P d.name.display) : P shown := by
  unfold Declaration.parameterName at isShown
  dsimp only at isShown
  split at isShown
  · cases isShown
  · cases isShown
    apply framed.append (framed.append _ name)
    · split <;> exact framed.plain (by decide)
    · split <;> exact framed.plain (by decide)

theorem literalFragment {l : Literal} (texts : ∀ s, l = .text s → P (Text.escapeMarkdown s)) :
    P (TypeExpr.literalFragment l) := by
  cases l with
  | null => exact framed.quoted (framed.plain (by decide))
  | bool b => cases b <;> exact framed.plainCode (by decide) (by decide)
  | int n => exact framed.quoted (framed.plain (isPlain_ofInt n))
  | float x => exact framed.quoted (framed.plain x.isPlain_text)
  | text s => exact framed.quoted (texts s rfl)

theorem quotedTemplate {head hole tail : String} (before : P (Text.escapeBraces head))
    (inside : P hole) (after : P (Text.escapeBraces tail)) :
    P (TypeExpr.quotedTemplate head hole tail) := by
  apply framed.quoted
  exact framed.append (framed.append (framed.append (framed.append before framed.opening) inside)
    framed.closing) after

end Framed

/-! ## Fragments -/

section

variable {P : String → Prop} {unit : DocUnit} {unwrap : Bool} {shown : String}

theorem TypeExpr.renderAll_eq_mapM (ts : List TypeExpr) :
    TypeExpr.renderAll unit unwrap ts = ts.mapM (TypeExpr.render unit unwrap) := by
  induction ts with
  | nil => rfl
  | cons t ts inductionHypothesis =>
    rw [TypeExpr.renderAll, inductionHypothesis, List.mapM_cons]

theorem Declaration.renderParameters_eq_mapM (ds : List Declaration) :
    Declaration.renderParameters unit unwrap ds = ds.mapM fun d => do
      let name ← d.parameterName
      let type ← d.renderType unit unwrap
      return name ++ ": " ++ type := by
  induction ds with
  | nil => rfl
  | cons d ds inductionHypothesis =>
    rw [Declaration.renderParameters, inductionHypothesis, List.mapM_cons]
    simp

theorem Declaration.framed_renderType (framed : Framed P) {d : Declaration}
    (rendered : d.renderType unit unwrap = .ok shown)
    (links : ∀ link, DocComment.seeLink? d.comment = some link → P link.1 ∧ P link.2)
    (inner : ∀ t text, ¬ DocComment.GivesTypeLink d.comment → d.declaredType? = some t →
      t.render unit unwrap = .ok text → P text) : P shown := by
  rw [Declaration.renderType_eq] at rendered
  split at rendered
  · cases rendered
  · rename_i given gives
    cases rendered
    obtain ⟨link, sees, rfl⟩ := DocComment.exists_seeLink gives
    obtain ⟨label, address⟩ := links link sees
    exact framed.typeLink label address
  · rename_i noLink
    cases type : d.declaredType? with
    | none =>
      rw [type] at rendered
      cases rendered
    | some t =>
      rw [type] at rendered
      exact inner t shown (DocComment.not_givesTypeLink noLink) type rendered

theorem Reference.framed_render (framed : Framed P) {ref : Reference}
    (rendered : ref.render unit unwrap = .ok shown)
    (puts : ∀ text, (TypeExpr.reference ref).Puts unit text → P text)
    (inner : ∀ t text, (TypeExpr.reference ref).Displays t → t.render unit unwrap = .ok text →
      P text) : P shown := by
  have isPlain := ReferenceForm.isPlain_of ref.package ref.name
  have named : P ref.name.display := puts _ (.name .reference)
  obtain ⟨name, package, qualifiedName, arguments, target⟩ := ref
  rcases form_cases ⟨name, package, qualifiedName, arguments, target⟩ with ⟨language, form⟩ |
    ⟨-, -, value, form⟩ | ⟨notLanguage, -, wrapper, payload⟩ | ⟨-, -, -, -, style, text, form⟩ |
    ⟨-, -, -, -, form⟩
  · unfold Reference.render at rendered
    simp only [form] at rendered
    split at rendered
    · cases rendered
      exact framed.code (by decide) named
    · obtain ⟨parts, mapped, isShown⟩ := exists_of_bind_eq_ok rendered
      cases isShown
      rw [TypeExpr.renderAll_eq_mapM] at mapped
      apply framed.generic named
      apply framed.intercalate (framed.plain (by decide))
      intro part isPart
      obtain ⟨t, isArgument, ofArgument⟩ := exists_of_mem_of_mapM mapped isPart
      exact inner t part (.argument language isArgument) ofArgument
  · exact absurd ⟨shown, rendered⟩ (not_succeeds_render_of_misnamed unit unwrap form)
  · cases arguments with
    | nil =>
      have succeeds := (succeeds_render_of_showsPayload unit unwrap payload).mp ⟨shown, rendered⟩
      simp [TypeExpr.renderFirst] at succeeds
    | cons t rest =>
      have around : Reference.render unit unwrap ⟨name, package, qualifiedName, t :: rest, target⟩ =
          (t.render unit unwrap).map ((ReferenceForm.of package name).around unwrap) :=
        render_wrapper unit unwrap payload t rest
      obtain ⟨part, ofFirst, rfl⟩ := exists_of_map_eq_ok (around.symm.trans rendered)
      exact framed.around unwrap isPlain
        (inner t part (.payload notLanguage wrapper rfl) ofFirst)
  · rw [render_of_fixed unit unwrap form] at rendered
    cases rendered
    rw [form] at isPlain
    exact framed.plainCode isPlain.1 isPlain.2
  · rw [render_of_link unit unwrap form, TypeExpr.renderLink] at rendered
    split at rendered
    · rename_i target' resolved
      cases rendered
      apply framed.typeLink _ (puts _ (.name (.address form resolved)))
      cases isLabel : target'.label? with
      | none => exact named
      | some label => exact framed.plain (isPlain_of_label resolved isLabel)
    · cases rendered

theorem TypeExpr.eq_literalFragment {l : Literal}
    (rendered : (TypeExpr.literal l).render unit unwrap = .ok shown) :
    shown = TypeExpr.literalFragment l := by
  rw [TypeExpr.render, TypeExpr.renderLiteral] at rendered
  split at rendered
  · cases rendered
    rfl
  · cases rendered

/-- A property that is kept holds of the fragment of a type, if it holds of the texts of the type
and of the fragments of the types that it displays. -/
theorem TypeExpr.framed_of_displays (framed : Framed P) {t : TypeExpr}
    (rendered : t.render unit unwrap = .ok shown) (puts : ∀ text, t.Puts unit text → P text)
    (inner : ∀ s text, t.Displays s → s.render unit unwrap = .ok text → P text) : P shown := by
  cases t with
  | primitive name =>
    cases rendered
    exact framed.code (by decide) (puts _ (.name .primitive))
  | literal l =>
    rw [TypeExpr.eq_literalFragment rendered]
    apply framed.literalFragment
    rintro s rfl
    exact puts _ .literal
  | template head spans =>
    unfold TypeExpr.render at rendered
    split at rendered
    · rename_i hole tail
      obtain ⟨before, isHead, rendered⟩ := exists_of_bind_eq_ok rendered
      obtain ⟨after, isTail, isShown⟩ := exists_of_bind_eq_ok rendered
      cases isShown
      cases Link.eq_text_of_required isHead
      cases Link.eq_text_of_required isTail
      exact framed.quotedTemplate (puts _ .head) (puts _ (.name .hole)) (puts _ .tail)
    · cases rendered
  | union members =>
    obtain ⟨parts, mapped, isShown⟩ := exists_of_bind_eq_ok rendered
    cases isShown
    rw [TypeExpr.renderAll_eq_mapM] at mapped
    apply framed.intercalate framed.separator
    intro part isPart
    obtain ⟨s, isMember, ofMember⟩ := exists_of_mem_of_mapM mapped isPart
    exact inner s part (.member isMember) ofMember
  | array element =>
    obtain ⟨part, ofElement, isShown⟩ := exists_of_bind_eq_ok rendered
    cases isShown
    exact framed.arrayOf _ (inner _ part .element ofElement)
  | tuple elements =>
    cases elements with
    | nil => cases rendered
    | cons first rest =>
      obtain ⟨part, ofFirst, isShown⟩ := exists_of_bind_eq_ok rendered
      cases isShown
      exact framed.arrayOf _ (inner _ part .first ofFirst)
  | reference ref =>
    rw [TypeExpr.render] at rendered
    exact Reference.framed_render framed rendered puts inner
  | object fields =>
    cases fields with
    | nil => cases rendered
    | cons field rest =>
      cases rendered
      exact framed.plainCode (by decide) (by decide)
  | callable parameters result =>
    obtain ⟨parts, mapped, rendered⟩ := exists_of_bind_eq_ok rendered
    obtain ⟨last, ofResult, isShown⟩ := exists_of_bind_eq_ok rendered
    cases isShown
    rw [Declaration.renderParameters_eq_mapM] at mapped
    have listed : P (", ".intercalate parts) := by
      apply framed.intercalate (framed.plain (by decide))
      intro part isPart
      obtain ⟨d, isParameter, ofParameter⟩ := exists_of_mem_of_mapM mapped isPart
      obtain ⟨name, isName, ofParameter⟩ := exists_of_bind_eq_ok ofParameter
      obtain ⟨type, ofType, isShown⟩ := exists_of_bind_eq_ok ofParameter
      cases isShown
      apply framed.append (framed.append _ (framed.plain (by decide)))
      · apply Declaration.framed_renderType framed ofType
        · intro link sees
          exact ⟨puts _ (.name (.seeLabel isParameter sees)),
            puts _ (.name (.seeAddress isParameter sees))⟩
        · intro s text noLink type ofDeclared
          exact inner s text (.parameter isParameter noLink type) ofDeclared
      · exact framed.parameterName isName (puts _ (.name (.parameter isParameter)))
    apply framed.code (by decide)
    exact framed.append (framed.append (framed.append (framed.plain (by decide)) listed)
      (framed.plain (by decide))) (inner result last .result ofResult)
  | other tag => cases rendered

/-- A property that is kept holds of the fragment of a type, if it holds of the texts of all types
that the fragment shows. -/
theorem TypeExpr.framed_render (framed : Framed P) {t : TypeExpr} {shown : String}
    (rendered : t.render unit unwrap = .ok shown)
    (puts : ∀ s text, t.Rendered s → s.Puts unit text → P text) : P shown := by
  apply TypeExpr.framed_of_displays framed rendered (fun text => puts t text .refl)
  intro s text displays ofShown
  have smaller := displays.sizeOf_lt
  apply TypeExpr.framed_render framed ofShown
  intro s' text' rendered'
  exact puts s' text' (.head displays rendered')
termination_by sizeOf t

end

/-! ## Fragments inside fragments -/

/-- A text that stands somewhere in another. -/
def Within (inner outer : String) : Prop := ∃ before after, outer = before ++ inner ++ after

namespace Within

variable {inner outer : String}

theorem refl (s : String) : Within s s := ⟨"", "", by simp⟩

theorem appendLeft (before : String) (within : Within inner outer) :
    Within inner (before ++ outer) := by
  obtain ⟨front, back, rfl⟩ := within
  exact ⟨before ++ front, back, by simp only [String.append_assoc]⟩

theorem appendRight (within : Within inner outer) (after : String) :
    Within inner (outer ++ after) := by
  obtain ⟨front, back, rfl⟩ := within
  exact ⟨front, back ++ after, by simp only [String.append_assoc]⟩

theorem trans {middle : String} (first : Within inner middle) (second : Within middle outer) :
    Within inner outer := by
  obtain ⟨before, after, rfl⟩ := second
  exact (first.appendLeft before).appendRight after

theorem code (style : String) (within : Within inner outer) : Within inner (code style outer) :=
  (within.appendLeft _).appendRight _

theorem intercalate (separator : String) {parts : List String} (isPart : inner ∈ parts) :
    Within inner (separator.intercalate parts) := by
  induction parts with
  | nil => cases isPart
  | cons first rest inductionHypothesis =>
    cases rest with
    | nil =>
      obtain rfl := List.mem_singleton.mp isPart
      rw [String.intercalate_singleton]
      exact refl inner
    | cons second rest =>
      rw [String.intercalate_cons_cons]
      cases List.mem_cons.mp isPart with
      | inl isFirst =>
        rw [isFirst]
        exact ((refl first).appendRight _).appendRight _
      | inr isLater => exact (inductionHypothesis isLater).appendLeft _

theorem generic (label : String) (within : Within inner outer) :
    Within inner (generic label outer) :=
  (within.appendLeft _).appendRight _

theorem arrayOf (isUnion : Bool) (within : Within inner outer) :
    Within inner (TypeExpr.arrayOf isUnion outer) := by
  cases isUnion with
  | true => exact (within.appendLeft _).appendRight _
  | false => exact within.appendRight _

theorem around (form : ReferenceForm) (unwrap : Bool) (s : String) :
    Within s (form.around unwrap s) := by
  cases form with
  | transform =>
    show Within s (TypeExpr.transformOf s)
    unfold TypeExpr.transformOf
    iterate 16 apply Within.appendRight
    exact refl s
  | later label =>
    cases unwrap with
    | true => exact refl s
    | false => exact (refl s).generic label
  | input label => exact (refl s).generic label
  | languageGeneric | passThrough | fixed | link | misnamed => exact refl s

end Within

theorem Declaration.render_of_renderType {unit : DocUnit} {unwrap : Bool} {d : Declaration}
    {t : TypeExpr} {shown : String} (noLink : ¬ DocComment.GivesTypeLink d.comment)
    (type : d.declaredType? = some t) (rendered : d.renderType unit unwrap = .ok shown) :
    t.render unit unwrap = .ok shown := by
  rw [Declaration.renderType_eq, type] at rendered
  rcases DocComment.typeLink?_cases d.comment with ⟨gives, -⟩ | ⟨-, -, isNone⟩ | ⟨-, fault, fails⟩
  · exact absurd gives noLink
  · rw [isNone] at rendered
    exact rendered
  · rw [fails] at rendered
    cases rendered

/-- The fragment of a type holds those of the types that it displays. -/
theorem TypeExpr.within_of_displays {unit : DocUnit} {unwrap : Bool} {t s : TypeExpr}
    {shown : String} (displays : t.Displays s) (rendered : t.render unit unwrap = .ok shown) :
    ∃ inner, s.render unit unwrap = .ok inner ∧ Within inner shown := by
  cases displays with
  | member isMember =>
    obtain ⟨parts, mapped, isShown⟩ := exists_of_bind_eq_ok rendered
    cases isShown
    rw [TypeExpr.renderAll_eq_mapM] at mapped
    obtain ⟨part, isPart, ofMember⟩ := exists_mem_of_mapM mapped isMember
    exact ⟨part, ofMember, .intercalate _ isPart⟩
  | element =>
    obtain ⟨part, ofElement, isShown⟩ := exists_of_bind_eq_ok rendered
    cases isShown
    exact ⟨part, ofElement, (Within.refl part).arrayOf _⟩
  | first =>
    obtain ⟨part, ofFirst, isShown⟩ := exists_of_bind_eq_ok rendered
    cases isShown
    exact ⟨part, ofFirst, (Within.refl part).arrayOf false⟩
  | @argument ref _ language isArgument =>
    obtain ⟨name, package, qualifiedName, arguments, target⟩ := ref
    obtain ⟨front, back, rfl⟩ := List.append_of_mem isArgument
    have around := Reference.render_language unit unwrap language front s back
    obtain ⟨parts, mapped, rfl⟩ := exists_of_map_eq_ok (around.symm.trans rendered)
    rw [TypeExpr.renderAll_eq_mapM] at mapped
    obtain ⟨part, isPart, ofArgument⟩ := exists_mem_of_mapM mapped isArgument
    exact ⟨part, ofArgument, (Within.intercalate _ isPart).generic _⟩
  | @payload ref _ notLanguage wrapper isFirst =>
    obtain ⟨name, package, qualifiedName, arguments, target⟩ := ref
    obtain ⟨rest, rfl⟩ := List.head?_eq_some_iff.mp isFirst
    have fits : ¬ Reference.Misfits ⟨name, package, qualifiedName, s :: rest, target⟩ := by
      intro misfits
      obtain ⟨value, form⟩ := Reference.of_eq_misnamed notLanguage misfits
      exact Reference.not_succeeds_render_of_misnamed unit unwrap form ⟨shown, rendered⟩
    have payload := Reference.showsPayload_of_isWrapper notLanguage fits wrapper
    have around := Reference.render_wrapper unit unwrap payload s rest
    obtain ⟨part, ofFirst, rfl⟩ := exists_of_map_eq_ok (around.symm.trans rendered)
    exact ⟨part, ofFirst, .around _ unwrap part⟩
  | parameter isParameter noLink type =>
    obtain ⟨parts, mapped, rendered⟩ := exists_of_bind_eq_ok rendered
    obtain ⟨last, ofResult, isShown⟩ := exists_of_bind_eq_ok rendered
    cases isShown
    rw [Declaration.renderParameters_eq_mapM] at mapped
    obtain ⟨part, isPart, ofParameter⟩ := exists_mem_of_mapM mapped isParameter
    obtain ⟨name, -, ofParameter⟩ := exists_of_bind_eq_ok ofParameter
    obtain ⟨inner, ofType, isShown⟩ := exists_of_bind_eq_ok ofParameter
    cases isShown
    have listed := ((Within.refl inner).appendLeft _).trans (.intercalate ", " isPart)
    exact ⟨inner, Declaration.render_of_renderType noLink type ofType,
      (((listed.appendLeft _).appendRight _).appendRight _).code _⟩
  | result =>
    obtain ⟨parts, -, rendered⟩ := exists_of_bind_eq_ok rendered
    obtain ⟨last, ofResult, isShown⟩ := exists_of_bind_eq_ok rendered
    cases isShown
    exact ⟨last, ofResult, ((Within.refl last).appendLeft _).code _⟩

/-- The fragment of a type holds those of all types that it shows. -/
theorem TypeExpr.Rendered.within {unit : DocUnit} {unwrap : Bool} {t s : TypeExpr} {shown : String}
    (shows : t.Rendered s) (rendered : t.render unit unwrap = .ok shown) :
    ∃ inner, s.render unit unwrap = .ok inner ∧ Within inner shown := by
  induction shows with
  | refl => exact ⟨shown, rendered, .refl shown⟩
  | tail _ displays inductionHypothesis =>
    obtain ⟨middle, ofMiddle, outer⟩ := inductionHypothesis
    obtain ⟨inner, ofInner, within⟩ := TypeExpr.within_of_displays displays ofMiddle
    exact ⟨inner, ofInner, within.trans outer⟩

end DocPress
