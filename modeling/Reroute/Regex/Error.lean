import Reroute.Text.Basic

/-!
What keeps a text from being a regular expression.
-/
namespace Reroute.Regex

/-- The causes for which an expression is refused. -/
inductive Error where
  | unclosedGroup
  | unopenedGroup
  | unclosedClass
  | invalidRange
  | invalidClassItem
  | nothingToRepeat
  | unclosedCount
  | missingCount
  | invalidCount
  | unfinishedEscape
  | unknownEscape
  | invalidHex
  | backreference
  | unknownBoundary
  | unknownProperty
  | unknownFlag
  | repeatedFlag
  | danglingNegation
  | unfinishedFlags
  | invalidGroupName
  | duplicateGroupName
  | lookAround
  | unicodeNotAllowed
  | invalidUtf8
  | nestedTooDeeply
  | tooLarge
deriving Repr, DecidableEq

/-- The wording of an error. -/
def Error.message : Error → Text
  | .unclosedGroup => "unclosed group".toList
  | .unopenedGroup => "unopened group".toList
  | .unclosedClass => "unclosed character class".toList
  | .invalidRange => "invalid character class range, the start must be <= the end".toList
  | .invalidClassItem => "invalid escape sequence found in character class".toList
  | .nothingToRepeat => "repetition operator missing expression".toList
  | .unclosedCount => "unclosed counted repetition".toList
  | .missingCount => "repetition quantifier expects a valid decimal".toList
  | .invalidCount =>
      "invalid repetition count range, the start must be <= the end".toList
  | .unfinishedEscape => "incomplete escape sequence, reached end of pattern prematurely".toList
  | .unknownEscape => "unrecognized escape sequence".toList
  | .invalidHex => "invalid hexadecimal digit".toList
  | .backreference => "backreferences are not supported".toList
  | .unknownBoundary => "unrecognized special word boundary assertion".toList
  | .unknownProperty => "Unicode property not found".toList
  | .unknownFlag => "unrecognized flag".toList
  | .repeatedFlag => "duplicate flag".toList
  | .danglingNegation => "dangling flag negation operator".toList
  | .unfinishedFlags => "expected flag but got end of regex".toList
  | .invalidGroupName => "invalid capture group name".toList
  | .duplicateGroupName => "duplicate capture group name".toList
  | .lookAround =>
      "look-around, including look-ahead and look-behind, is not supported".toList
  | .unicodeNotAllowed => "Unicode not allowed here".toList
  | .invalidUtf8 => "pattern can match invalid UTF-8".toList
  | .nestedTooDeeply => "exceed the maximum number of nested parentheses/brackets".toList
  | .tooLarge => "Compiled regex exceeds size limit".toList

end Reroute.Regex
