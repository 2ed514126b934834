import DocPress.Binary64.Arithmetic
import DocPress.Binary64.Reading
import DocPress.Text.Lowercase
import DocPress.Text.Search
import DocPress.Yaml.Tag
import DocPress.Yaml.Value

/-! # What scalars mean

A plain scalar without a tag has the tag whose form its text has, and is a text if it has none of
the forms. The value of a scalar is read from its text in the way of its tag, which is more lenient
than the forms are.

* `Scalar.tagOf`: the tag of a plain scalar.
* `Scalar.value`: the value of a scalar with a tag. -/

set_option autoImplicit false

namespace DocPress.Yaml.Scalar

/-! ## Forms -/

def isRowOf (p : Char → Bool) (cs : List Char) : Bool := !cs.isEmpty && cs.all p

def isDigitOrGap (c : Char) : Bool := c.isDigit || c = '_'

def isOctalOrGap (c : Char) : Bool := (decide ('0' ≤ c) && decide (c ≤ '7')) || c = '_'

def isBinaryOrGap (c : Char) : Bool := c = '0' || c = '1' || c = '_'

def isHexOrGap (c : Char) : Bool :=
  ((Numeral.digitValue? 16 c).isSome && decide (c.toNat < 128)) || c = '_'

/-- Whether a text is a place of a number in base sixty: one or two digits, less than sixty. -/
def isSixtieth : List Char → Bool
  | [d] => d.isDigit
  | [c, d] => decide ('0' ≤ c) && decide (c ≤ '5') && d.isDigit
  | _ => false

/-- Whether a text is a whole number in base sixty, whose first digit satisfies a property. -/
def isSexagesimal (isFirst : Char → Bool) (cs : List Char) : Bool :=
  match Text.splitOn ':' cs with
  | (d :: ds) :: place :: places =>
    isFirst d && ds.all isDigitOrGap && (place :: places).all isSixtieth
  | _ => false

def isLeading (c : Char) : Bool := c.isDigit && c ≠ '0'

def isUnsignedWhole (version : Version) (cs : List Char) : Bool :=
  match version, cs with
  | _, '0' :: 'b' :: ds => isRowOf isBinaryOrGap ds
  | _, '0' :: 'x' :: ds => isRowOf isHexOrGap ds
  | .v1_2, '0' :: 'o' :: ds => isRowOf isOctalOrGap ds
  | .v1_2, ds => isRowOf isDigitOrGap ds
  | .v1_1, ds =>
    isRowOf isOctalOrGap ds || (ds.head?.any isLeading && ds.all isDigitOrGap)
      || isSexagesimal isLeading ds

def isWhole (version : Version) (cs : List Char) : Bool :=
  cs.head? ≠ some '_' && isUnsignedWhole version (Numeral.splitSign cs).2

/-- Whether a text is an exponent, whose sign may be required, or nothing. -/
def isExponent (signRequired : Bool) : List Char → Bool
  | [] => true
  | e :: cs =>
    let ds := (Numeral.splitSign cs).2
    (e = 'e' || e = 'E') && isRowOf Char.isDigit ds && (!signRequired || ds.length < cs.length)

def isPointed (version : Version) (cs : List Char) : Bool :=
  let unsigned := (Numeral.splitSign cs).2
  let whole := unsigned.takeWhile isDigitOrGap
  let startsWithDigit := whole.head?.any Char.isDigit
  match unsigned.drop whole.length with
  | '.' :: rest =>
    let fraction := rest.takeWhile isDigitOrGap
    let exponent := rest.drop fraction.length
    if whole.isEmpty then
      !fraction.isEmpty && (version = .v1_2 || unsigned.length = cs.length)
        && isExponent true exponent
    else startsWithDigit && isExponent false exponent
  | ':' :: _ =>
    let front := unsigned.takeWhile (· ≠ '.')
    let rest := unsigned.drop front.length
    version = .v1_1 && isSexagesimal Char.isDigit front && !rest.isEmpty
      && (rest.drop 1).all isDigitOrGap
  | exponent => startsWithDigit && !exponent.isEmpty && isExponent false exponent

def isFloat (version : Version) (cs : List Char) : Bool :=
  let word := String.ofList (Numeral.splitSign cs).2
  [".inf", ".Inf", ".INF"].contains word
    || [".nan", ".NaN", ".NAN"].contains (String.ofList cs)
    || isPointed version cs

def truthWords : Version → List String
  | .v1_1 =>
    ["y", "Y", "yes", "Yes", "YES", "n", "N", "no", "No", "NO", "true", "True", "TRUE", "false",
     "False", "FALSE", "on", "On", "ON", "off", "Off", "OFF"]
  | .v1_2 => ["true", "True", "TRUE", "false", "False", "FALSE"]

/-- The tag of a plain scalar. A line feed at the end of a text does not change its form. -/
def tagOf (version : Version) (text : String) : Tag :=
  let cs := Text.dropFinalLineFeed text.toList
  let word := String.ofList cs
  if text = "" then .null
  else if word = "" then .text
  else if (truthWords version).contains word then .bool
  else if isFloat version cs then .float
  else if isWhole version cs then .int
  else if word = "<<" then .merge
  else if ["~", "null", "Null", "NULL"].contains word then .null
  else if Timestamp.isPlain cs then .timestamp
  else if word = "=" then .default
  else .text

/-! ## Values -/

def truthValues : List (String × Bool) :=
  [("yes", true), ("no", false), ("y", true), ("n", false), ("true", true), ("false", false),
   ("on", true), ("off", false)]

def withoutGaps (text : String) : List Char := text.toList.filter (· ≠ '_')

/-- The whole number that numerals separated by colons write in base sixty. -/
def sexagesimal? (cs : List Char) : Option Int :=
  ((Text.splitOn ':' cs).mapM fun place => Numeral.read? (String.ofList place)).map fun places =>
    places.foldl (fun n place => 60 * n + place) 0

def unsignedWhole? (version : Version) (cs : List Char) : Option Int :=
  match version, cs with
  | _, ['0'] => some 0
  | _, '0' :: 'b' :: ds => Numeral.readIn? 2 (String.ofList ds)
  | _, '0' :: 'x' :: ds => Numeral.readIn? 16 (String.ofList ds)
  | _, '0' :: 'o' :: ds => Numeral.readIn? 8 (String.ofList ds)
  | .v1_1, '0' :: ds => Numeral.readIn? 8 (String.ofList ('0' :: ds))
  | .v1_1, cs => if cs.contains ':' then sexagesimal? cs else Numeral.read? (String.ofList cs)
  | .v1_2, cs => Numeral.read? (String.ofList cs)

def whole (version : Version) (text : String) : Except Fault Int :=
  let cs := withoutGaps text
  let (isNegative, unsigned) := Numeral.splitSign cs
  if cs.isEmpty || (version = .v1_1 && unsigned.isEmpty) then .error .numeralEmpty
  else
    match unsignedWhole? version unsigned with
    | some n => .ok (if isNegative then -n else n)
    | none => .error .notANumeral

/-- The sum of the places of a floating-point number in base sixty, the last place first; `unit` is
the value of a one at the first of them. -/
def sexagesimalSum (unit : Nat) (sum : Binary64) : List Binary64 → Binary64
  | [] => sum
  | place :: places =>
    sexagesimalSum (60 * unit) (sum.add (place.mul (.ofDecimal false unit 0))) places

def floating (version : Version) (text : String) : Except Fault Binary64 :=
  let cs := (Text.lower (String.ofList (withoutGaps text))).toList
  let (isNegative, unsigned) := Numeral.splitSign cs
  let word := String.ofList unsigned
  let magnitude? : Option Binary64 :=
    if word = ".inf" then some (.infinite false)
    else if word = ".nan" then some .nan
    else if version = .v1_1 && unsigned.contains ':' then
      ((Text.splitOn ':' unsigned).mapM fun place => Binary64.read? (String.ofList place)).map
        fun places => sexagesimalSum 1 (.ofDecimal false 0 0) places.reverse
    else Binary64.read? word
  if cs.isEmpty then .error .numeralEmpty
  else
    match magnitude? with
    | some x => .ok (if isNegative then x.neg else x)
    | none => .error .notANumeral

def value (version : Version) (tag : Tag) (text : String) : Except Fault Key :=
  match tag with
  | .null => .ok .null
  | .text => .ok (.text text)
  | .bool =>
    match truthValues.lookup (Text.lower text) with
    | some b => .ok (.bool b)
    | none => .error .notATruthValue
  | .int => (whole version text).map .int
  | .float => (floating version text).map .float
  | .timestamp =>
    match Timestamp.read? text.toList with
    | some t => t.map .timestamp
    | none => .error .malformed
  | .binary =>
    match Bytes.read? text with
    | some bytes => .ok (.bytes bytes)
    | none => .error .malformed
  | _ => .error .malformed

end DocPress.Yaml.Scalar
