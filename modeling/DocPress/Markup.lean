/-! # Markup of type fragments

The pieces of page markup that rendered types are made of. -/

set_option autoImplicit false

namespace DocPress.Markup

def code (style text : String) : String :=
  "<code class=\"" ++ style ++ "\">" ++ text ++ "</code>"

def typeLink (label href : String) : String := "[" ++ code "type" label ++ "](" ++ href ++ ")"

def quoted (text : String) : String :=
  code "symbol" "&ldquo;" ++ code "primitive" text ++ code "symbol" "&rdquo;"

def unionSeparator : String := code "symbol" " | "

/-- A generic type with its arguments, which are rendered already. -/
def generic (label payload : String) : String :=
  code "primitive" label ++ code "symbol" "&lt;" ++ payload ++ code "symbol" "&gt;"

end DocPress.Markup
