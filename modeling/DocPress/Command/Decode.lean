import DocPress.Command
import DocPress.Data.Size

/-! # Reading command documents

A command is described by an object with a name, a description and lists of arguments, flags and
subcommands; the errors of a command line are described by a list of objects.

* `CommandFault`: why a description cannot be read.
* `Command.decode`: the tree of a document.
* `CommonError.decodeAll`: the errors of a document. -/

set_option autoImplicit false

namespace DocPress

/-- Why a command or an error cannot be read from its description. Places are named as messages name
them. -/
inductive CommandFault where
  | commandUnnamed (place : String)
  | argumentUnnamed (place : String)
  | flagIncomplete (place : String)
  | notList (key place : String)
  | descriptionMissing (place : String)
  | errorIncomplete (index : Nat)
  | notLines (code : String)
deriving DecidableEq

def CommandFault.message : CommandFault → String
  | commandUnnamed place => "Command at " ++ place ++ " must be an object with a name."
  | argumentUnnamed place => "Arguments of " ++ place ++ " must be objects with a name."
  | flagIncomplete place => "Flags of " ++ place ++ " must be objects with a name and a type."
  | notList key place => "'" ++ key ++ "' of " ++ place ++ " must be a list."
  | descriptionMissing place => place ++ " has no description."
  | errorIncomplete index =>
    "Error #" ++ Numeral.ofNat index ++ " must be an object with a code and a message."
  | notLines code => "'long' of error '" ++ code ++ "' must be a list of lines."

namespace Data

def textAt? (key : String) (d : Data) : Option String :=
  match d.field? key with
  | some (text s) => some s
  | _ => none

/-- The items of the list at a key, none if nothing is present there. -/
def listAt? (key : String) (d : Data) : Option (List Data) :=
  match d.present? key with
  | none => some []
  | some (list items) => some items
  | some _ => none

end Data

namespace Command

def placeOf (name : String) : String := "command '" ++ name ++ "'"

/-- Reads the description in an object: the long one, or else the short one. -/
def decodeDescription (place : String) (d : Data) : Except CommandFault String :=
  match d.field? "description" with
  | none => .error (.descriptionMissing place)
  | some description =>
    match (description.textAt? "long").or (description.textAt? "short") with
    | some text => .ok text
    | none => .error (.descriptionMissing place)

def decodeArgument (place : String) (d : Data) : Except CommandFault Argument :=
  match d.textAt? "name" with
  | none => .error (.argumentUnnamed place)
  | some name => do
    let description ← decodeDescription (place ++ " arg " ++ name) d
    return { name, description, isRequired := (d.present? "required").isSome }

def decodeFlag (place : String) (d : Data) : Except CommandFault Flag :=
  match d.textAt? "name", d.textAt? "type" with
  | some name, some type => do
    let description ← decodeDescription (place ++ " flag " ++ name) d
    return { name, description, type }
  | _, _ => .error (.flagIncomplete place)

def decodeItems {α : Type} (read : Data → Except CommandFault α) (key place : String) (d : Data) :
    Except CommandFault (List α) :=
  match d.listAt? key with
  | none => .error (.notList key place)
  | some items => items.mapM read

theorem sizeOf_listAt? {key : String} {d : Data} {items : List Data}
    (h : d.listAt? key = some items) : sizeOf items ≤ sizeOf d := by
  unfold Data.listAt? at h
  split at h
  · cases h
    cases d <;> simp
  · rename_i xs hp
    cases h
    have := Data.sizeOf_present? hp
    simp at this
    omega
  · cases h

mutual
def decode (place : String) (d : Data) : Except CommandFault Command :=
  match d.textAt? "name" with
  | none => .error (.commandUnnamed place)
  | some name => do
    let description ← decodeDescription (placeOf name) d
    let arguments ← decodeItems (decodeArgument (placeOf name)) "args" (placeOf name) d
    let flags ← decodeItems (decodeFlag (placeOf name)) "flags" (placeOf name) d
    match _ : d.listAt? "children" with
    | none => .error (.notList "children" (placeOf name))
    | some items =>
      match decodeAll (placeOf name) items with
      | .error fault => .error fault
      | .ok children =>
        return {
          name, description, arguments, flags, children,
          isHidden := (d.present? "hidden").isSome }
termination_by (sizeOf d, 1)
decreasing_by
  have := sizeOf_listAt? ‹_›
  omega

def decodeAll (place : String) (ds : List Data) : Except CommandFault (List Command) :=
  match ds with
  | [] => .ok []
  | d :: ds =>
    match decode place d with
    | .error fault => .error fault
    | .ok c =>
      match decodeAll place ds with
      | .error fault => .error fault
      | .ok cs => .ok (c :: cs)
termination_by (sizeOf ds, 0)
decreasing_by
  · simp_wf
    omega
  · simp_wf
    omega
end

end Command

namespace CommonError

def decode (index : Nat) (d : Data) : Except CommandFault CommonError :=
  match d.textAt? "code", d.textAt? "message" with
  | some code, some message =>
    match d.listAt? "long" with
    | none => .error (.notLines code)
    | some lines => .ok { code, message, long := lines.map Data.display }
  | _, _ => .error (.errorIncomplete index)

/-- Reads errors, the first of which has an index. -/
def decodeFrom (index : Nat) : List Data → Except CommandFault (List CommonError)
  | [] => .ok []
  | d :: ds => do
    let first ← decode index d
    let rest ← decodeFrom (index + 1) ds
    return first :: rest

/-- The errors of a document, unless it is no list. -/
def decodeAll : Data → Option (Except CommandFault (List CommonError))
  | .list items => some (decodeFrom 0 items)
  | _ => none

end CommonError

end DocPress
