import DocPress.Json.Printer
import DocPress.Proofs.RunOutcomes

/-! # Documents of commands

What it takes for a document to describe a tree of commands, and the tree that it describes, both
without the order in which a reader looks at the parts of the document.

* `Command.WellFormed`: a document that describes a command, at any depth.
* `Command.Mirrors`: a command has just what a document says of it.
* `Document.commands_loaded_iff_wellFormed`: a document is read if and only if it is well-formed, as
  the tree that mirrors it. -/

set_option autoImplicit false

namespace DocPress

theorem mapM_eq_ok_iff {ε α β : Type} {f : α → Except ε β} {xs : List α} {ys : List β} :
    xs.mapM f = .ok ys ↔ List.Forall₂ (fun x y => f x = .ok y) xs ys := by
  constructor
  · exact forall₂_of_mapM_eq_ok
  · intro results
    induction results with
    | nil => rfl
    | cons first _ inductionHypothesis =>
      rw [List.mapM_cons, first, inductionHypothesis]
      rfl

theorem exists_of_forall₂ {α β : Type} {related : α → β → Prop} {xs : List α} {ys : List β}
    (all : List.Forall₂ related xs ys) {x : α} (member : x ∈ xs) : ∃ y, related x y := by
  induction all with
  | nil => contradiction
  | cons first _ inductionHypothesis =>
    rcases List.mem_cons.mp member with rfl | member
    · exact ⟨_, first⟩
    · exact inductionHypothesis member

/-- Relations that agree on the elements of a list relate it to the same lists. -/
theorem forall₂_congr_of_mem {α β : Type} {related related' : α → β → Prop} {xs : List α}
    (agree : ∀ x ∈ xs, ∀ y, related x y ↔ related' x y) (ys : List β) :
    List.Forall₂ related xs ys ↔ List.Forall₂ related' xs ys := by
  induction xs generalizing ys with
  | nil => simp
  | cons x xs inductionHypothesis =>
    obtain ⟨first, others⟩ := List.forall_mem_cons.mp agree
    simp only [List.forall₂_cons_left_iff, first, inductionHypothesis others]

/-! ## Values at a key -/

namespace Data

variable {key : String} {d : Data}

/-- The items at a key: those of the list that stands there, or none if nothing stands there that
counts as present. -/
def Lists (key : String) (d : Data) (items : List Data) : Prop :=
  d.field? key = some (.list items) ∨ items = [] ∧ ∀ v, d.field? key = some v → v.isTrue = false

/-- A value that counts as present stands at a key. -/
def Sets (key : String) (d : Data) : Prop := ∃ v, d.field? key = some v ∧ v.isTrue = true

theorem textAt?_eq_some_iff {s : String} :
    d.textAt? key = some s ↔ d.field? key = some (.text s) := by
  unfold textAt?
  split
  next t found => simp [found]
  next notText =>
    simp only [reduceCtorEq, false_iff]
    exact notText s

theorem textAt?_eq_none_iff :
    d.textAt? key = none ↔ ∀ s, d.field? key ≠ some (.text s) := by
  simp only [Option.eq_none_iff_forall_ne_some, ne_eq, textAt?_eq_some_iff]

theorem isSome_present?_iff : (d.present? key).isSome = true ↔ d.Sets key := by
  rw [present?, Option.isSome_filter, Option.any_eq_true]
  rfl

theorem present?_eq_none_iff :
    d.present? key = none ↔ ∀ v, d.field? key = some v → v.isTrue = false := by
  simp [present?, Option.filter_eq_none_iff]

theorem listAt?_eq_some_iff {items : List Data} :
    d.listAt? key = some items ↔ d.Lists key items := by
  unfold listAt? Lists
  split
  next absent =>
    have notSet := present?_eq_none_iff.mp absent
    constructor
    · intro same
      exact .inr ⟨(Option.some.inj same).symm, notSet⟩
    · rintro (found | ⟨rfl, -⟩)
      · -- a list that does not count as present has no items
        have noItems : items.isEmpty = true := by simpa [isTrue] using notSet _ found
        rw [List.isEmpty_iff.mp noItems]
      · rfl
  next present =>
    obtain ⟨found, isTrue⟩ := Option.filter_eq_some_iff.mp present
    rw [found]
    constructor
    · intro same
      exact .inl (congrArg (some ∘ list) (Option.some.inj same))
    · rintro (same | ⟨-, notSet⟩)
      · cases same
        rfl
      · rw [notSet _ rfl] at isTrue
        cases isTrue
  next v notList present =>
    obtain ⟨found, isTrue⟩ := Option.filter_eq_some_iff.mp present
    rw [found]
    constructor
    · intro same
      cases same
    · rintro (same | ⟨-, notSet⟩)
      · cases same
        exact absurd rfl (notList items)
      · rw [notSet _ rfl] at isTrue
        cases isTrue

theorem sizeOf_lt_of_lists {items : List Data} (lists : d.Lists key items) {x : Data}
    (member : x ∈ items) : sizeOf x < sizeOf d := by
  rcases lists with found | ⟨rfl, -⟩
  · have inItems := List.sizeOf_lt_of_mem member
    have inObject := sizeOf_field? found
    simp only [list.sizeOf_spec] at inObject
    omega
  · contradiction

end Data

namespace Command

variable {place text : String} {d : Data}

/-! ## What documents say -/

/-- The description that an object has: the long one if that is a text, or else the short one. -/
def Describes (d : Data) (text : String) : Prop :=
  ∃ description, d.field? "description" = some description ∧
    (description.field? "long" = some (.text text) ∨
      (∀ other, description.field? "long" ≠ some (.text other)) ∧
        description.field? "short" = some (.text text))

structure MirrorsArgument (d : Data) (a : Argument) : Prop where
  name : d.field? "name" = some (.text a.name)
  description : Describes d a.description
  isRequired : a.isRequired = true ↔ d.Sets "required"

structure MirrorsFlag (d : Data) (f : Flag) : Prop where
  name : d.field? "name" = some (.text f.name)
  type : d.field? "type" = some (.text f.type)
  description : Describes d f.description

/-- What a command has is what a document says of it: all arguments, flags and subcommands are there
in the order of the document, the hidden ones among them. -/
inductive Mirrors : Data → Command → Prop
  | intro {d : Data} {c : Command} {arguments flags children : List Data}
      (name : d.field? "name" = some (.text c.name))
      (description : Describes d c.description)
      (listsArguments : d.Lists "args" arguments)
      (mirrorsArguments : List.Forall₂ MirrorsArgument arguments c.arguments)
      (listsFlags : d.Lists "flags" flags)
      (mirrorsFlags : List.Forall₂ MirrorsFlag flags c.flags)
      (listsChildren : d.Lists "children" children)
      (mirrorsChildren : List.Forall₂ Mirrors children c.children)
      (isHidden : c.isHidden = true ↔ d.Sets "hidden") : Mirrors d c

/-- An object with a description: a long or a short one that is a text. -/
def IsDescribed (d : Data) : Prop :=
  ∃ description, d.field? "description" = some description ∧
    ∃ text, description.field? "long" = some (.text text) ∨
      description.field? "short" = some (.text text)

structure WellFormedArgument (d : Data) : Prop where
  named : ∃ name, d.field? "name" = some (.text name)
  described : IsDescribed d

structure WellFormedFlag (d : Data) : Prop where
  named : ∃ name, d.field? "name" = some (.text name)
  typed : ∃ type, d.field? "type" = some (.text type)
  described : IsDescribed d

/-- A document that describes a command, with all that is listed in it. -/
inductive WellFormed : Data → Prop
  | intro {d : Data} {name : String} {arguments flags children : List Data}
      (named : d.field? "name" = some (.text name))
      (described : IsDescribed d)
      (listsArguments : d.Lists "args" arguments)
      (argumentsFormed : ∀ a ∈ arguments, WellFormedArgument a)
      (listsFlags : d.Lists "flags" flags)
      (flagsFormed : ∀ f ∈ flags, WellFormedFlag f)
      (listsChildren : d.Lists "children" children)
      (childrenFormed : ∀ c ∈ children, WellFormed c) : WellFormed d

/-! ## Well-formed documents mirror a command -/

theorem isDescribed_iff : IsDescribed d ↔ ∃ text, Describes d text := by
  constructor
  · rintro ⟨description, found, text, isText⟩
    by_cases isLong : ∃ long, description.field? "long" = some (.text long)
    · obtain ⟨long, isLong⟩ := isLong
      exact ⟨long, description, found, .inl isLong⟩
    · rw [not_exists] at isLong
      exact ⟨text, description, found, .inr ⟨isLong, isText.resolve_left (isLong text)⟩⟩
  · rintro ⟨text, description, found, isLong | ⟨-, isShort⟩⟩
    · exact ⟨description, found, text, .inl isLong⟩
    · exact ⟨description, found, text, .inr isShort⟩

theorem wellFormedArgument_iff : WellFormedArgument d ↔ ∃ a, MirrorsArgument d a := by
  constructor
  · rintro ⟨⟨name, named⟩, described⟩
    obtain ⟨description, describes⟩ := isDescribed_iff.mp described
    exact ⟨⟨name, description, (d.present? "required").isSome⟩, named, describes,
      Data.isSome_present?_iff⟩
  · rintro ⟨a, mirrors⟩
    exact ⟨⟨_, mirrors.name⟩, isDescribed_iff.mpr ⟨_, mirrors.description⟩⟩

theorem wellFormedFlag_iff : WellFormedFlag d ↔ ∃ f, MirrorsFlag d f := by
  constructor
  · rintro ⟨⟨name, named⟩, ⟨type, typed⟩, described⟩
    obtain ⟨description, describes⟩ := isDescribed_iff.mp described
    exact ⟨⟨name, description, type⟩, named, typed, describes⟩
  · rintro ⟨f, mirrors⟩
    exact ⟨⟨_, mirrors.name⟩, ⟨_, mirrors.type⟩, isDescribed_iff.mpr ⟨_, mirrors.description⟩⟩

theorem WellFormed.exists_mirrors (wellFormed : WellFormed d) : ∃ c, Mirrors d c := by
  induction wellFormed with
  | @intro d name _ _ _ named described listsArguments argumentsFormed listsFlags flagsFormed
      listsChildren _ inductionHypothesis =>
    obtain ⟨description, describes⟩ := isDescribed_iff.mp described
    obtain ⟨arguments, mirrorsArguments⟩ := exists_forall₂_of_forall fun a member =>
      wellFormedArgument_iff.mp (argumentsFormed a member)
    obtain ⟨flags, mirrorsFlags⟩ := exists_forall₂_of_forall fun f member =>
      wellFormedFlag_iff.mp (flagsFormed f member)
    obtain ⟨children, mirrorsChildren⟩ := exists_forall₂_of_forall inductionHypothesis
    exact ⟨⟨name, description, arguments, flags, children, (d.present? "hidden").isSome⟩, named,
      describes, listsArguments, mirrorsArguments, listsFlags, mirrorsFlags, listsChildren,
      mirrorsChildren, Data.isSome_present?_iff⟩

theorem Mirrors.wellFormed {d : Data} {c : Command} (mirrors : Mirrors d c) : WellFormed d := by
  obtain ⟨named, describes, listsArguments, mirrorsArguments, listsFlags, mirrorsFlags,
    listsChildren, mirrorsChildren, -⟩ := mirrors
  refine .intro named (isDescribed_iff.mpr ⟨_, describes⟩) listsArguments ?_ listsFlags ?_
    listsChildren ?_
  · exact fun a member =>
      wellFormedArgument_iff.mpr (exists_of_forall₂ mirrorsArguments member)
  · exact fun f member => wellFormedFlag_iff.mpr (exists_of_forall₂ mirrorsFlags member)
  · intro child member
    have smaller := Data.sizeOf_lt_of_lists listsChildren member
    obtain ⟨c, mirrors⟩ := exists_of_forall₂ mirrorsChildren member
    exact mirrors.wellFormed
termination_by sizeOf d

theorem wellFormed_iff : WellFormed d ↔ ∃ c, Mirrors d c :=
  ⟨WellFormed.exists_mirrors, fun ⟨_, mirrors⟩ => mirrors.wellFormed⟩

/-! ## Reading the parts of a command -/

theorem decodeDescription_eq_ok_iff : decodeDescription place d = .ok text ↔ Describes d text := by
  unfold decodeDescription Describes
  cases found : d.field? "description" with
  | none => simp
  | some description =>
    have isText : (description.textAt? "long").or (description.textAt? "short") = some text ↔ _ :=
      Option.or_eq_some_iff
    rw [Data.textAt?_eq_some_iff, Data.textAt?_eq_none_iff, Data.textAt?_eq_some_iff] at isText
    simp only [Option.some.injEq, exists_eq_left', ← isText]
    cases (description.textAt? "long").or (description.textAt? "short") <;> simp

theorem decodeArgument_eq_ok_iff {a : Argument} :
    decodeArgument place d = .ok a ↔ MirrorsArgument d a := by
  unfold decodeArgument
  constructor
  · intro read
    split at read
    · cases read
    next name named =>
      obtain ⟨description, describes, read⟩ := exists_of_bind_eq_ok read
      cases read
      exact ⟨Data.textAt?_eq_some_iff.mp named, decodeDescription_eq_ok_iff.mp describes,
        Data.isSome_present?_iff⟩
  · rintro ⟨named, describes, sets⟩
    rw [Data.textAt?_eq_some_iff.mpr named]
    simp only
    rw [decodeDescription_eq_ok_iff.mpr describes]
    have isRequired : (d.present? "required").isSome = a.isRequired := by
      rw [Bool.eq_iff_iff, sets, Data.isSome_present?_iff]
    rw [isRequired]
    rfl

theorem decodeFlag_eq_ok_iff {f : Flag} : decodeFlag place d = .ok f ↔ MirrorsFlag d f := by
  unfold decodeFlag
  constructor
  · intro read
    split at read
    next name type named typed =>
      obtain ⟨description, describes, read⟩ := exists_of_bind_eq_ok read
      cases read
      exact ⟨Data.textAt?_eq_some_iff.mp named, Data.textAt?_eq_some_iff.mp typed,
        decodeDescription_eq_ok_iff.mp describes⟩
    · cases read
  · rintro ⟨named, typed, describes⟩
    rw [Data.textAt?_eq_some_iff.mpr named, Data.textAt?_eq_some_iff.mpr typed]
    simp only
    rw [decodeDescription_eq_ok_iff.mpr describes]
    rfl

theorem decodeItems_eq_ok_iff {α : Type} {read : Data → Except CommandFault α} {key : String}
    {xs : List α} : decodeItems read key place d = .ok xs ↔
      ∃ items, d.Lists key items ∧ List.Forall₂ (fun item x => read item = .ok x) items xs := by
  simp only [← Data.listAt?_eq_some_iff, ← mapM_eq_ok_iff]
  unfold decodeItems
  cases d.listAt? key <;> simp

/-! ## Reading a command -/

theorem decodeAll_eq_mapM (place : String) (ds : List Data) :
    decodeAll place ds = ds.mapM (decode place) := by
  induction ds with
  | nil =>
    rw [decodeAll]
    rfl
  | cons d ds inductionHypothesis =>
    rw [decodeAll, inductionHypothesis, List.mapM_cons]
    cases decode place d with
    | error fault => rfl
    | ok first => cases ds.mapM (decode place) <;> rfl

theorem decode_eq (place : String) (d : Data) : decode place d =
    match d.textAt? "name" with
    | none => .error (.commandUnnamed place)
    | some name => do
      let description ← decodeDescription (placeOf name) d
      let arguments ← decodeItems (decodeArgument (placeOf name)) "args" (placeOf name) d
      let flags ← decodeItems (decodeFlag (placeOf name)) "flags" (placeOf name) d
      let children ← decodeItems (decode (placeOf name)) "children" (placeOf name) d
      return {
        name, description, arguments, flags, children,
        isHidden := (d.present? "hidden").isSome } := by
  rw [decode]
  cases d.textAt? "name" with
  | none => rfl
  | some name =>
    simp only [decodeAll_eq_mapM]
    cases decodeDescription (placeOf name) d with
    | error fault => rfl
    | ok description =>
      cases decodeItems (decodeArgument (placeOf name)) "args" (placeOf name) d with
      | error fault => rfl
      | ok arguments =>
        cases decodeItems (decodeFlag (placeOf name)) "flags" (placeOf name) d with
        | error fault => rfl
        | ok flags =>
          rw [decodeItems]
          cases d.listAt? "children" with
          | none => rfl
          | some items =>
            simp only [bind, Except.bind]
            cases items.mapM (decode (placeOf name)) <;> rfl

/-- One step of reading a command: what stands at its keys, and what its subcommands are read as. -/
theorem decode_eq_ok_iff {c : Command} : decode place d = .ok c ↔
    d.field? "name" = some (.text c.name) ∧ Describes d c.description ∧
      (∃ items, d.Lists "args" items ∧ List.Forall₂ MirrorsArgument items c.arguments) ∧
      (∃ items, d.Lists "flags" items ∧ List.Forall₂ MirrorsFlag items c.flags) ∧
      (∃ items, d.Lists "children" items ∧
        List.Forall₂ (fun x s => decode (placeOf c.name) x = .ok s) items c.children) ∧
      (c.isHidden = true ↔ d.Sets "hidden") := by
  have arguments : ∀ place as, decodeItems (decodeArgument place) "args" place d = .ok as ↔
      ∃ items, d.Lists "args" items ∧ List.Forall₂ MirrorsArgument items as := by
    intro place as
    simp only [decodeItems_eq_ok_iff, decodeArgument_eq_ok_iff]
  have flags : ∀ place fs, decodeItems (decodeFlag place) "flags" place d = .ok fs ↔
      ∃ items, d.Lists "flags" items ∧ List.Forall₂ MirrorsFlag items fs := by
    intro place fs
    simp only [decodeItems_eq_ok_iff, decodeFlag_eq_ok_iff]
  rw [decode_eq]
  constructor
  · intro read
    split at read
    · cases read
    next name named =>
      obtain ⟨description, describes, read⟩ := exists_of_bind_eq_ok read
      obtain ⟨as, readArguments, read⟩ := exists_of_bind_eq_ok read
      obtain ⟨fs, readFlags, read⟩ := exists_of_bind_eq_ok read
      obtain ⟨cs, readChildren, read⟩ := exists_of_bind_eq_ok read
      cases read
      exact ⟨Data.textAt?_eq_some_iff.mp named, decodeDescription_eq_ok_iff.mp describes,
        (arguments _ _).mp readArguments, (flags _ _).mp readFlags,
        decodeItems_eq_ok_iff.mp readChildren, Data.isSome_present?_iff⟩
  · rintro ⟨named, describes, hasArguments, hasFlags, hasChildren, sets⟩
    have isHidden : (d.present? "hidden").isSome = c.isHidden := by
      rw [Bool.eq_iff_iff, sets, Data.isSome_present?_iff]
    rw [Data.textAt?_eq_some_iff.mpr named]
    simp only
    rw [decodeDescription_eq_ok_iff.mpr describes, (arguments _ _).mpr hasArguments,
      (flags _ _).mpr hasFlags, decodeItems_eq_ok_iff.mpr hasChildren, isHidden]
    cases c
    rfl

/-- A document is read as a command if and only if the command mirrors it, wherever it stands. -/
theorem decode_eq_ok_iff_mirrors {place : String} {d : Data} {c : Command} :
    decode place d = .ok c ↔ Mirrors d c := by
  have below : ∀ {items : List Data}, d.Lists "children" items → ∀ children,
      List.Forall₂ (fun x s => decode (placeOf c.name) x = .ok s) items children ↔
        List.Forall₂ Mirrors items children := by
    intro items lists children
    refine forall₂_congr_of_mem (fun x member s => ?_) children
    have smaller := Data.sizeOf_lt_of_lists lists member
    exact decode_eq_ok_iff_mirrors
  rw [decode_eq_ok_iff]
  constructor
  · rintro ⟨named, describes, ⟨_, listsArguments, mirrorsArguments⟩,
      ⟨_, listsFlags, mirrorsFlags⟩, ⟨_, listsChildren, read⟩, sets⟩
    exact .intro named describes listsArguments mirrorsArguments listsFlags mirrorsFlags
      listsChildren ((below listsChildren _).mp read) sets
  · rintro ⟨named, describes, listsArguments, mirrorsArguments, listsFlags, mirrorsFlags,
      listsChildren, mirrorsChildren, sets⟩
    exact ⟨named, describes, ⟨_, listsArguments, mirrorsArguments⟩,
      ⟨_, listsFlags, mirrorsFlags⟩,
      ⟨_, listsChildren, (below listsChildren _).mpr mirrorsChildren⟩, sets⟩
termination_by sizeOf d

end Command

namespace Document

open Command (WellFormed Mirrors)

variable {source text : String} {d : Data}

theorem commands_of_parsed (holds : Json.parse? text = some d) : commands source (.ok text) =
    (Command.decode "root" d).mapError .commands := by
  rw [commands, value, holds]
  rfl

/-- A document of commands that is written as JSON is read as a tree of commands, or fails for what
is wrong in it. It is read if and only if it is well-formed, and then as the tree that has just
what the document says. -/
theorem commands_loaded_iff_wellFormed (source text : String) (d : Data)
    (holds : Json.parse? text = some d) :
    ((∃ root, commands source (.ok text) = .ok root) ∨
      ∃ fault, commands source (.ok text) = .error (.commands fault)) ∧
    ((∃ root, commands source (.ok text) = .ok root) ↔ WellFormed d) ∧
    ∀ root, commands source (.ok text) = .ok root ↔ Mirrors d root := by
  have loaded : ∀ root, commands source (.ok text) = .ok root ↔ Mirrors d root := by
    intro root
    rw [commands_of_parsed holds, mapError_eq_ok_iff, Command.decode_eq_ok_iff_mirrors]
  refine ⟨?_, ?_, loaded⟩
  · rw [commands_of_parsed holds]
    cases Command.decode "root" d with
    | error fault => exact .inr ⟨fault, rfl⟩
    | ok root => exact .inl ⟨root, rfl⟩
  · simp only [loaded, Command.wellFormed_iff]

def devDocument : Data :=
  .map [("name", "dev"), ("description", .map [("long", .null), ("short", "Dev.")]),
    ("args", .int 0), ("hidden", .bool true)]

/-- The document of a command line with this command. -/
def rootDocument : Data :=
  .map [("name", "sst"), ("description", .map [("short", "CLI.")]),
    ("children", .list [devDocument])]

def devRoot : Command := ⟨"sst", "CLI.", [], [], [⟨"dev", "Dev.", [], [], [], true⟩], false⟩

theorem mirrors_rootDocument : Mirrors rootDocument devRoot := by
  have unset : ∀ {key : String} {d : Data}, d.field? key = none → d.Lists key [] := by
    intro key d absent
    exact .inr ⟨rfl, fun v found => absurd (absent.symm.trans found) nofun⟩
  have noArguments : devDocument.Lists "args" [] := by
    refine .inr ⟨rfl, fun v found => ?_⟩
    cases found
    rfl
  have dev : Mirrors devDocument ⟨"dev", "Dev.", [], [], [], true⟩ :=
    .intro rfl ⟨_, rfl, .inr ⟨nofun, rfl⟩⟩ noArguments .nil (unset rfl) .nil (unset rfl) .nil
      ⟨fun _ => ⟨_, rfl, rfl⟩, fun _ => rfl⟩
  have notHidden : ¬ rootDocument.Sets "hidden" := by
    rintro ⟨_, ⟨⟩, _⟩
  exact .intro rfl ⟨_, rfl, .inr ⟨nofun, rfl⟩⟩ (unset rfl) .nil (unset rfl) .nil (.inl rfl)
    (.cons dev .nil) ⟨nofun, fun sets => absurd sets notHidden⟩

/-- The document is well-formed, and is read with the hidden command. -/
theorem commands_loaded_iff_wellFormed_dev :
    Json.parse? (Json.write rootDocument) = some rootDocument ∧ WellFormed rootDocument ∧
      commands "cli-doc.json" (.ok (Json.write rootDocument)) = .ok devRoot := by
  have holds : Json.parse? (Json.write rootDocument) = some rootDocument := by decide +kernel
  obtain ⟨-, isFormed, loaded⟩ := commands_loaded_iff_wellFormed "cli-doc.json" _ _ holds
  have reads := (loaded devRoot).mpr mirrors_rootDocument
  exact ⟨holds, isFormed.mp ⟨_, reads⟩, reads⟩

end Document

end DocPress
