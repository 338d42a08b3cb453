import Reroute.Regex.Unicode.Age
import Reroute.Regex.Unicode.Casing
import Reroute.Regex.Unicode.Segmentation

/-!
The named classes of characters: digits, word characters and blanks, the ASCII classes of
`[:name:]`, and the Unicode classes of `\p`.
-/
namespace Reroute.Regex

namespace CharSet

/-- The decimal digits. -/
def digits : CharSet := Category.decimalDigits

/-- The blanks. -/
def blanks : CharSet :=
  ofRanges [(0x9, 0xD), (0x20, 0x20), (0x85, 0x85), (0xA0, 0xA0), (0x1680, 0x1680),
    (0x2000, 0x200A), (0x2028, 0x2029), (0x202F, 0x202F), (0x205F, 0x205F), (0x3000, 0x3000)]

/-- The letters of all scripts with what counts as one of them. -/
def alphabetic : CharSet := (Property.find? "alphabetic").getD empty

/-- The characters of the general category Number. -/
def numbers : CharSet := (Category.find? "n").getD empty

/-- The characters words are made of: letters, marks, digits, connectors and joiners. -/
def wordChars : CharSet :=
  unions [alphabetic, (Category.find? "m").getD empty, digits,
    (Category.find? "pc").getD empty, (Property.find? "joincontrol").getD empty]

/-- The ASCII digits. -/
def asciiDigits : CharSet := ofRanges [(0x30, 0x39)]

/-- The ASCII blanks. -/
def asciiBlanks : CharSet := ofRanges [(0x9, 0xD), (0x20, 0x20)]

/-- The ASCII letters, digits and the underscore. -/
def asciiWordChars : CharSet :=
  ofRanges [(0x30, 0x39), (0x41, 0x5A), (0x5F, 0x5F), (0x61, 0x7A)]

/-- The ASCII classes that stand between `[:` and `:]`. -/
def asciiClass? (name : Text) : Option CharSet :=
  let classes : List (String × List (Nat × Nat)) := [
    ("alnum", [(0x30, 0x39), (0x41, 0x5A), (0x61, 0x7A)]),
    ("alpha", [(0x41, 0x5A), (0x61, 0x7A)]),
    ("ascii", [(0x00, 0x7F)]),
    ("blank", [(0x09, 0x09), (0x20, 0x20)]),
    ("cntrl", [(0x00, 0x1F), (0x7F, 0x7F)]),
    ("digit", [(0x30, 0x39)]),
    ("graph", [(0x21, 0x7E)]),
    ("lower", [(0x61, 0x7A)]),
    ("print", [(0x20, 0x7E)]),
    ("punct", [(0x21, 0x2F), (0x3A, 0x40), (0x5B, 0x60), (0x7B, 0x7E)]),
    ("space", [(0x09, 0x0D), (0x20, 0x20)]),
    ("upper", [(0x41, 0x5A)]),
    ("word", [(0x30, 0x39), (0x41, 0x5A), (0x5F, 0x5F), (0x61, 0x7A)]),
    ("xdigit", [(0x30, 0x39), (0x41, 0x46), (0x61, 0x66)])]
  (classes.lookup (String.ofList name)).map ofRanges

/-- Letters of the names of properties count without their case; separators do not count,
and neither does a leading `is`. -/
def looseName (name : Text) : String :=
  let plain (s : Text) : Text :=
    s.filter fun c => c.toNat < 0x80 && c != ' ' && c != '_' && c != '-'
  match Text.lowerAscii name with
  | 'i' :: 's' :: rest =>
      if plain rest = ['c'] then "isc" else String.ofList (plain rest)
  | s => String.ofList (plain s)

/-- The class a single name stands for: a property, a category or a script. -/
def named? (name : Text) : Option CharSet :=
  let loose := looseName name
  let property? := if ["cf", "sc", "lc"].contains loose then none else Property.find? loose
  property?.or ((Category.find? loose).or (Script.find? loose))

/-- The class that a value of a property stands for. -/
def valued? (property value : Text) : Option CharSet :=
  let value := looseName value
  let is (names : List String) : Bool := names.contains (looseName property)
  if is ["gc", "generalcategory"] then Category.find? value
  else if is ["sc", "script"] then Script.find? value
  else if is ["scx", "scriptextensions"] then Script.extended? value
  else if is ["age"] then Age.find? value
  else if is ["gcb", "graphemeclusterbreak"] then
    Segmentation.find? Segmentation.graphemeBreaks value
  else if is ["wb", "wordbreak"] then Segmentation.find? Segmentation.wordBreaks value
  else if is ["sb", "sentencebreak"] then Segmentation.find? Segmentation.sentenceBreaks value
  else none

/-- The class written between the braces of `\p`, and whether it is the opposite of what it
names: a name, or a property and its value with `=`, `:` or `!=` between them, of which the
last one negates. -/
def unicodeClass? (s : Text) : Option (Bool × CharSet) :=
  match Text.cutAt "!=".toList s with
  | some (property, value) => (valued? property value).map fun set => (true, set)
  | none =>
      let set? := match (Text.cut ':' s).or (Text.cut '=' s) with
        | some (property, value) => valued? property value
        | none => named? s
      set?.map fun set => (false, set)

end CharSet

end Reroute.Regex
