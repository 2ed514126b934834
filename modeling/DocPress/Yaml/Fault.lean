/-! # Why a YAML text gives no value -/

set_option autoImplicit false

namespace DocPress.Yaml

/-- Why a YAML text gives no value. -/
inductive Fault where
  | malformed
  | versionUnknown
  | characterUnknown
  /-- An escape has a number that no machine word holds. -/
  | escapeTooLarge
  | notANumeral
  /-- A numeral has no character but underscores. -/
  | numeralEmpty
  | notATruthValue
  | timeUnknown
  /-- A time that rounding carries past the last year. -/
  | timeTooLate
  | orderedKeyRepeated
  /-- A key holds a list, a set or a map, none of which keeps its value. -/
  | keyNotFixed
deriving DecidableEq

def Fault.reason : Fault → String
  | malformed => "the text is malformed"
  | versionUnknown => "its version is not known"
  | characterUnknown => "an escape stands for no character"
  | escapeTooLarge => "the number of an escape is too large"
  | notANumeral => "a text stands for a number"
  | numeralEmpty => "a numeral has no digit"
  | notATruthValue => "a word stands for a truth value"
  | timeUnknown => "there is no such date or time"
  | timeTooLate => "a time is too late"
  | orderedKeyRepeated => "a key stands twice in an ordered map"
  | keyNotFixed => "a key holds a collection"

end DocPress.Yaml
