import DocPress.TypeExpr.Render

/-! # Links in place of types

A comment may give a link that is shown in place of a type: its first `@see` tag, if it holds one
part and that part is a link to a type of a service client.

* `DocComment.IsClientLink`: the texts that are such a link.
* `DocComment.isSome_readClientLink_iff`: these are the texts that the reader accepts.
* `DocComment.typeLink?_cases`: what becomes of a comment. -/

set_option autoImplicit false

namespace DocPress.DocComment

/-- The text of a link to a type of a service client, by the end of its name and its address. -/
def clientLink (name address : String) : String :=
  "[" ++ "@aws-sdk/client-" ++ name ++ "](" ++ address ++ ")"

/-- A text that is a link to a type of a service client on one line, which may end in a line
feed. -/
def IsClientLink (s : String) : Prop :=
  ∃ name address : String, (name ≠ "" ∧ '\n' ∉ name.toList) ∧
    (address ≠ "" ∧ '\n' ∉ address.toList) ∧
    (s = clientLink name address ∨ s = clientLink name address ++ "\n")

theorem toList_clientLink (name address : String) : (clientLink name address).toList =
    "[".toList ++ ("@aws-sdk/client-".toList ++
      (name.toList ++ ("](".toList ++ (address.toList ++ ")".toList)))) := by
  simp only [clientLink, String.toList_append, List.append_assoc]

theorem dropFinalLineFeed_clientLink {s name address : String}
    (isLink : s = clientLink name address ∨ s = clientLink name address ++ "\n") :
    Text.dropFinalLineFeed s.toList = (clientLink name address).toList := by
  rcases isLink with rfl | rfl
  · rw [clientLink, String.toList_append]
    exact Text.dropFinalLineFeed_append_ne _ (by decide)
  · rw [String.toList_append]
    exact Text.dropFinalLineFeed_append_lineFeed _

theorem toList_ne_nil {s : String} (nonempty : s ≠ "") : s.toList ≠ [] := by
  intro isEmpty
  exact nonempty (String.toList_inj.mp isEmpty)

theorem isSome_readClientLink {s : String} (isLink : IsClientLink s) :
    (readClientLink s).isSome := by
  obtain ⟨name, address, ⟨named, nameInLine⟩, ⟨addressed, addressInLine⟩, isLink⟩ := isLink
  obtain ⟨first, label, name_eq⟩ := List.exists_cons_of_ne_nil (toList_ne_nil named)
  obtain ⟨front, last, address_eq⟩ := List.eq_nil_or_concat address.toList |>.resolve_left
    (toList_ne_nil addressed)
  rw [readClientLink, dropFinalLineFeed_clientLink isLink, toList_clientLink]
  simp only [Text.dropWord?_append]
  generalize isRest : name.toList ++ ("](".toList ++ (address.toList ++ ")".toList)) = rest
  have oneLine : rest.contains '\n' = false := by
    rw [← isRest]
    simp [nameInLine, addressInLine]
  have regrouped : rest = ((first :: (label ++ ("](".toList ++ front))) ++ [last]) ++ [')'] := by
    rw [← isRest]
    simp [name_eq, address_eq]
  have closed : rest.getLast? = some ')' := by
    rw [regrouped, List.getLast?_concat]
  obtain ⟨cut, isCut⟩ := Text.exists_cutLast?_append "](".toList label front
  simp only [oneLine, closed, ne_eq, not_true_eq_false, decide_false, Bool.or_self,
    Bool.false_eq_true, ↓reduceIte]
  rw [regrouped, List.dropLast_concat, List.cons_append]
  simp only [List.dropLast_concat, List.getLast?_concat, isCut, Option.isSome_some]

/-- What is read from a link: its label and its address. -/
theorem clientLink_of_read {s : String} {link : String × String}
    (read : readClientLink s = some link) :
    ∃ name address : String, link = ("@aws-sdk/client-" ++ name, address) ∧
      (name ≠ "" ∧ '\n' ∉ name.toList) ∧ (address ≠ "" ∧ '\n' ∉ address.toList) ∧
      (s = clientLink name address ∨ s = clientLink name address ++ "\n") := by
  unfold readClientLink at read
  split at read
  · cases read
  rename_i inner bracket
  split at read
  · cases read
  rename_i rest scope
  split at read
  · cases read
  rename_i oneLine
  split at read
  · cases read
  rename_i first label firstOfRest
  split at read
  · rename_i name address last isCut isLast
    cases read
    simp only [Bool.or_eq_true, decide_eq_true_eq, ne_eq, not_or, Decidable.not_not,
      List.contains_iff_mem] at oneLine
    obtain ⟨inLine, isClosed⟩ := oneLine
    obtain ⟨front, rfl⟩ := List.getLast?_eq_some_iff.mp isClosed
    obtain ⟨front', rfl⟩ := List.getLast?_eq_some_iff.mp isLast
    rw [List.dropLast_concat] at firstOfRest isCut
    have label_eq := Text.eq_append_of_cutLast? isCut
    subst label_eq firstOfRest
    have chars : Text.dropFinalLineFeed s.toList =
        (clientLink (String.ofList (first :: name))
          (String.ofList (address ++ [last]))).toList := by
      rw [Text.eq_append_of_dropWord? bracket, Text.eq_append_of_dropWord? scope, toList_clientLink]
      simp
    refine ⟨String.ofList (first :: name), String.ofList (address ++ [last]), rfl, ?_, ?_, ?_⟩
    · simp_all
    · simp_all
    · rcases Text.eq_or_eq_append_dropFinalLineFeed s.toList with isLink | isLink
      · exact .inl (String.toList_inj.mp (isLink.trans chars))
      · refine .inr (String.toList_inj.mp ?_)
        rw [String.toList_append, ← chars]
        exact isLink
  · cases read

theorem isClientLink_of_isSome {s : String} (isSome : (readClientLink s).isSome) :
    IsClientLink s := by
  obtain ⟨link, read⟩ := Option.isSome_iff_exists.mp isSome
  obtain ⟨name, address, -, isLink⟩ := clientLink_of_read read
  exact ⟨name, address, isLink⟩

/-- The reader accepts the links to types of service clients, and no other text. -/
theorem isSome_readClientLink_iff (s : String) : (readClientLink s).isSome ↔ IsClientLink s :=
  ⟨isClientLink_of_isSome, isSome_readClientLink⟩

/-- The text of the first `@see` tag of a comment, if the tag holds one part. -/
def seeText? (comment : Option DocComment) : Option Data :=
  match comment.bind fun c => c.findTag? "@see" with
  | some ⟨_, [part]⟩ => some part.text
  | _ => none

/-- A comment that gives a link in place of a type. -/
def GivesTypeLink (comment : Option DocComment) : Prop :=
  ∃ s, seeText? comment = some (.text s) ∧ IsClientLink s

/-- A comment of a malformed document, which has something other than a text where a link is looked
for. -/
def SeesNoText (comment : Option DocComment) : Prop :=
  ∃ d, seeText? comment = some d ∧ ∀ s, d ≠ .text s

theorem typeLink?_eq (comment : Option DocComment) : typeLink? comment =
    match seeText? comment with
    | none => .ok none
    | some (.text s) => .ok ((readClientLink s).map fun link => Markup.typeLink link.1 link.2)
    | some d => .error (.notText d .searched) := by
  unfold typeLink? seeText?
  rcases comment.bind fun c => c.findTag? "@see" with _ | ⟨tag, _ | ⟨⟨kind, text⟩, _ | _⟩⟩
  · rfl
  · rfl
  · cases text <;> rfl
  · rfl

theorem GivesTypeLink.not_seesNoText {comment : Option DocComment}
    (gives : GivesTypeLink comment) : ¬ SeesNoText comment := by
  obtain ⟨s, sees, -⟩ := gives
  rintro ⟨d, sees', noText⟩
  rw [sees] at sees'
  exact noText s (Option.some.inj sees').symm

/-- A comment gives a link, or it gives none, or the document is malformed. -/
theorem typeLink?_cases (comment : Option DocComment) :
    (GivesTypeLink comment ∧ ∃ link, typeLink? comment = .ok (some link)) ∨
    (¬ GivesTypeLink comment ∧ ¬ SeesNoText comment ∧ typeLink? comment = .ok none) ∨
    (SeesNoText comment ∧ ∃ fault, typeLink? comment = .error fault) := by
  rw [typeLink?_eq]
  cases sees : seeText? comment with
  | none =>
    right; left
    simp [GivesTypeLink, SeesNoText, sees]
  | some d =>
    by_cases isText : ∃ s, d = .text s
    · obtain ⟨s, rfl⟩ := isText
      have isSome_iff := isSome_readClientLink_iff s
      cases read : readClientLink s with
      | some link =>
        left
        rw [read] at isSome_iff
        exact ⟨⟨s, sees, isSome_iff.mp rfl⟩, Markup.typeLink link.1 link.2, by simp [read]⟩
      | none =>
        right; left
        rw [read] at isSome_iff
        have noLink : ¬ IsClientLink s := by simpa using isSome_iff
        simp [GivesTypeLink, SeesNoText, sees, noLink, read]
    · right; right
      have noText : ∀ s, d ≠ .text s := by simpa using isText
      refine ⟨⟨d, sees, noText⟩, .notText d .searched, ?_⟩
      cases d with
      | text s => exact absurd rfl (noText s)
      | _ => rfl

end DocPress.DocComment
