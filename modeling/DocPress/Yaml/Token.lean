import DocPress.Yaml.Fault

/-! # YAML tokens

The marks that a YAML text is made of. The blocks that indentation opens and closes have tokens of
their own, as have the keys and values of maps. -/

set_option autoImplicit false

namespace DocPress.Yaml

inductive Token where
  | version (major minor : Nat)
  /-- A line before a document that says what tags after a handle begin with. -/
  | tagHandle (handle front : String)
  /-- Any other line that says how a document is to be read. -/
  | directive
  | documentStart
  | documentEnd
  | blockListStart
  | blockMapStart
  | blockEnd
  | flowListStart
  | flowListEnd
  | flowMapStart
  | flowMapEnd
  | blockEntry
  | flowEntry
  | key
  | value
  | alias (name : String)
  | anchor (name : String)
  /-- A tag: what follows its handle, or all of it if it has none. -/
  | tag (handle : Option String) (suffix : String)
  /-- A scalar, plain if it is written without quotes and not as a block. -/
  | scalar (text : String) (isPlain : Bool)
  /-- The place at which the text stops being made of tokens. -/
  | fault (fault : Fault)
deriving DecidableEq

namespace Token

def isDirective : Token → Bool
  | version _ _ => true
  | tagHandle _ _ => true
  | directive => true
  | _ => false

end Token

end DocPress.Yaml
