/-!
# Faults of patterns

Why a text is not a pattern.
-/

namespace AttributeRelease.Pattern

/-- What is wrong with the text of a pattern. -/
inductive Fault
  | groupUnclosed
  | groupUnopened
  | groupNameInvalid
  | groupNameRepeated
  | flagInvalid
  | flagsUnfinished
  | repetitionMissing
  | repetitionInvalid
  | escapeUnfinished
  | escapeUnknown
  | codeInvalid
  | classUnclosed
  | classSpanInvalid
  | classItemInvalid
  | propertyUnknown
  | lookAround
  | backReference
  | unicodeDisabled
  | invalidBytes
  /-- The parts of the pattern lie in each other deeper than this. -/
  | tooDeep (limit : Nat)
deriving DecidableEq, Repr

namespace Fault

def message : Fault → String
  | groupUnclosed => "unclosed group"
  | groupUnopened => "unopened group"
  | groupNameInvalid => "invalid capture group name"
  | groupNameRepeated => "duplicate capture group name"
  | flagInvalid => "invalid flag"
  | flagsUnfinished => "expected flag but got end of pattern"
  | repetitionMissing => "repetition operator missing expression"
  | repetitionInvalid => "invalid repetition count"
  | escapeUnfinished => "incomplete escape sequence"
  | escapeUnknown => "unrecognized escape sequence"
  | codeInvalid => "invalid hexadecimal code"
  | classUnclosed => "unclosed character class"
  | classSpanInvalid => "invalid character class range"
  | classItemInvalid => "invalid escape sequence in character class"
  | propertyUnknown => "Unicode property not found"
  | lookAround => "look-around is not supported"
  | backReference => "backreferences are not supported"
  | unicodeDisabled => "Unicode not allowed here"
  | invalidBytes => "pattern can match invalid UTF-8"
  | tooDeep limit => s!"exceeded the maximum number of nested parentheses/brackets ({limit})"

end Fault

/-- Why a pattern is refused. -/
inductive Error
  | malformed (source : String) (fault : Fault)
  /-- The automaton of the pattern would take more than this number of bytes. -/
  | tooLarge (limit : Nat)
deriving DecidableEq, Repr

def Error.message : Error → String
  | malformed source fault => s!"regex parse error:\n    {source}\nerror: {fault.message}"
  | tooLarge limit => s!"Compiled regex exceeds size limit of {limit} bytes."

end AttributeRelease.Pattern
