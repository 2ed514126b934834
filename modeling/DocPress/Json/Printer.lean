import DocPress.Data
import DocPress.Text.Quoted

/-! # Writing JSON

The JSON text of a value, on one line, with a blank after each comma and colon. All characters stand
for themselves but the quote, the backslash and the control characters below the blank. -/

set_option autoImplicit false

namespace DocPress.Json

def escapeChar (c : Char) : List Char :=
  if c = '"' ∨ c = '\\' then ['\\', c]
  else if c = '\n' then ['\\', 'n']
  else if c = '\r' then ['\\', 'r']
  else if c = '\t' then ['\\', 't']
  else if c = '\x08' then ['\\', 'b']
  else if c = '\x0c' then ['\\', 'f']
  else if c.toNat < 0x20 then '\\' :: 'u' :: Text.hexDigits 4 c.toNat
  else [c]

def writeString (s : String) : String :=
  String.ofList ('"' :: s.toList.flatMap escapeChar ++ ['"'])

mutual
def write : Data → String
  | .null => "null"
  | .bool b => if b then "true" else "false"
  | .int n => Numeral.ofInt n
  | .float x => x.text
  | .text s => writeString s
  | .list xs => "[" ++ ", ".intercalate (writeItems xs) ++ "]"
  | .map es => "\x7b" ++ ", ".intercalate (writeEntries es) ++ "\x7d"

def writeItems : List Data → List String
  | [] => []
  | x :: xs => write x :: writeItems xs

def writeEntries : List (String × Data) → List String
  | [] => []
  | (k, v) :: es => (writeString k ++ ": " ++ write v) :: writeEntries es
end

end DocPress.Json
