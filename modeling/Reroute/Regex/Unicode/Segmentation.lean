import Reroute.Regex.Unicode.Property
import Reroute.Regex.Unicode.Script

/-!
Where text may be divided: the properties that tell which characters stay together in a
grapheme cluster, a word or a sentence.  A value of such a property is put together from
categories, scripts and binary properties, with further characters and exceptions.
-/
namespace Reroute.Regex.Segmentation

/-- A class of characters that is named elsewhere. -/
inductive Part where
  | category (name : String)
  | property (name : String)
  | script (name : String)

/-- The characters of a part. -/
def Part.characters : Part → CharSet
  | .category name => (Category.table? name).getD .empty
  | .property name => (Property.find? name).getD .empty
  | .script name => (Script.find? name).getD .empty

/-- How a value is put together: what it has, what is taken from that, and what is added and
taken away character by character. -/
structure Definition where
  names : List String
  parts : List Part
  without : List Part
  further : String
  exceptions : String

/-- The characters of a value. -/
def Definition.characters (definition : Definition) : CharSet :=
  (((CharSet.unions (definition.parts.map Part.characters)).diff
    (CharSet.unions (definition.without.map Part.characters))).union
      (CharSet.ofTable definition.further)).diff (CharSet.ofTable definition.exceptions)

/-- The values of Grapheme_Cluster_Break. -/
def graphemeBreaks : List Definition := [
  { names := ["cr"]
    parts := []
    without := []
    further := "D"
    exceptions := "" },
  { names := ["cn", "control"]
    parts := [.category "cc"]
    without := []
    further := "AD 61C 180E 200B 200E-200F 2028-202E 2060-206F FEFF FFF0-FFFB 13430-1343F 1BCA0-1BCA3
      1D173-1D17A E0000-E001F E0080-E00FF E01F0-E0FFF"
    exceptions := "A D" },
  { names := ["ex", "extend"]
    parts := [.property "grext", .property "emod"]
    without := []
    further := ""
    exceptions := "" },
  { names := ["l"]
    parts := []
    without := []
    further := "1100-115F A960-A97C"
    exceptions := "" },
  { names := ["lf"]
    parts := []
    without := []
    further := "A"
    exceptions := "" },
  { names := ["lv"]
    parts := []
    without := []
    further := "AC00-D788/1C"
    exceptions := "" },
  { names := ["lvt"]
    parts := []
    without := []
    further := "AC00-D7A3"
    exceptions := "AC00-D788/1C" },
  { names := ["pp", "prepend"]
    parts := [.property "pcm"]
    without := []
    further := "D4E 111C2-111C3 113D1 1193F 11941 11A3A 11A84-11A89 11D46 11F02"
    exceptions := "" },
  { names := ["ri", "regionalindicator"]
    parts := []
    without := []
    further := "1F1E6-1F1FF"
    exceptions := "" },
  { names := ["sm", "spacingmark"]
    parts := [.category "mc"]
    without := [.property "grext", .script "mymr"]
    further := "E33 EB3 1031 103B-103C 1056-1057 1084"
    exceptions := "1A61 1A63-1A64 11720-11721" },
  { names := ["t"]
    parts := []
    without := []
    further := "11A8-11FF D7CB-D7FB"
    exceptions := "" },
  { names := ["v"]
    parts := []
    without := []
    further := "1160-11A7 D7B0-D7C6 16D63 16D67-16D6A"
    exceptions := "" },
  { names := ["zwj"]
    parts := []
    without := []
    further := "200D"
    exceptions := "" }]

/-- The values of Word_Break. -/
def wordBreaks : List Definition := [
  { names := ["le", "aletter"]
    parts := [.property "ids", .property "cased"]
    without := [.property "ideo", .script "mymr", .script "laoo", .script "hebr",
               .script "tavt", .script "kana", .script "hira", .property "oids",
               .script "thai", .script "khmr", .property "grext", .script "tale",
               .script "talu", .script "lana", .script "ahom"]
    further := "B8 2C2-2C5 2D2-2D7 2DE-2DF 2E5-2EB 2ED 2EF-2FF 55A-55C 55E 58A 5F3 70F 2E2F A708-A716
      A720-A721 A789-A78A AB5B"
    exceptions := "3031-3035 30FC FF70" },
  { names := ["cr"]
    parts := []
    without := []
    further := "D"
    exceptions := "" },
  { names := ["dq", "doublequote"]
    parts := []
    without := []
    further := "22"
    exceptions := "" },
  { names := ["extend"]
    parts := [.property "grext", .category "mc", .property "emod"]
    without := []
    further := ""
    exceptions := "" },
  { names := ["ex", "extendnumlet"]
    parts := []
    without := []
    further := "5F 202F 203F-2040 2054 FE33-FE34 FE4D-FE4F FF3F"
    exceptions := "" },
  { names := ["fo", "format"]
    parts := [.category "cf"]
    without := [.property "pcm"]
    further := ""
    exceptions := "200B-200D E0020-E007F" },
  { names := ["hl", "hebrewletter"]
    parts := []
    without := []
    further := "5D0-5EA 5EF-5F2 FB1D FB1F-FB28 FB2A-FB36 FB38-FB3C FB3E FB40-FB41 FB43-FB44 FB46-FB4F"
    exceptions := "" },
  { names := ["ka", "katakana"]
    parts := [.script "kana"]
    without := []
    further := "3031-3035 309B-309C 30A0 30FC FF70"
    exceptions := "" },
  { names := ["lf"]
    parts := []
    without := []
    further := "A"
    exceptions := "" },
  { names := ["ml", "midletter"]
    parts := []
    without := []
    further := "3A B7 387 55F 5F4 2027 FE13 FE55 FF1A"
    exceptions := "" },
  { names := ["mn", "midnum"]
    parts := []
    without := []
    further := "2C 3B 37E 589 60C-60D 66C 7F8 2044 FE50 FE54 FF0C FF1B"
    exceptions := "" },
  { names := ["mb", "midnumlet"]
    parts := []
    without := []
    further := "2E 2018-2019 2024 FE52 FF07 FF0E"
    exceptions := "" },
  { names := ["nl", "newline"]
    parts := []
    without := []
    further := "B-C 85 2028-2029"
    exceptions := "" },
  { names := ["nu", "numeric"]
    parts := [.category "nd", .property "pcm"]
    without := []
    further := "66B 19DA"
    exceptions := "70F" },
  { names := ["ri", "regionalindicator"]
    parts := []
    without := []
    further := "1F1E6-1F1FF"
    exceptions := "" },
  { names := ["sq", "singlequote"]
    parts := []
    without := []
    further := "27"
    exceptions := "" },
  { names := ["wsegspace"]
    parts := []
    without := []
    further := "20 1680 2000-2006 2008-200A 205F 3000"
    exceptions := "" },
  { names := ["zwj"]
    parts := []
    without := []
    further := "200D"
    exceptions := "" }]

/-- The values of Sentence_Break. -/
def sentenceBreaks : List Definition := [
  { names := ["at", "aterm"]
    parts := []
    without := []
    further := "2E 2024 FE52 FF0E"
    exceptions := "" },
  { names := ["cr"]
    parts := []
    without := []
    further := "D"
    exceptions := "" },
  { names := ["cl", "close"]
    parts := [.property "qmark"]
    without := []
    further := "28-29 5B 5D 7B 7D F3A-F3D 169B-169C 2045-2046 207D-207E 208D-208E 2308-230B 2329-232A
      275B-2760 2768-2775 27C5-27C6 27E6-27EF 2983-2998 29D8-29DB 29FC-29FD 2E00-2E0D 2E1C-2E1D
      2E20-2E29 2E55-2E5C 3008-300B 3010-3011 3014-301B FD3E-FD3F FE17-FE18 FE35-FE40 FE47-FE48
      FE59-FE5E FF08-FF09 FF3B FF3D FF5B FF5D FF5F-FF60 1F676-1F678"
    exceptions := "FF02 FF07" },
  { names := ["ex", "extend"]
    parts := [.property "grext", .category "mc"]
    without := []
    further := "200D"
    exceptions := "" },
  { names := ["fo", "format"]
    parts := [.category "cf"]
    without := [.property "pcm"]
    further := "70F"
    exceptions := "200C-200D E0020-E007F" },
  { names := ["lf"]
    parts := []
    without := []
    further := "A"
    exceptions := "" },
  { names := ["lo", "lower"]
    parts := [.property "lower"]
    without := []
    further := ""
    exceptions := "345 10D0-10FA 10FD-10FF" },
  { names := ["nu", "numeric"]
    parts := [.category "nd", .property "pcm"]
    without := []
    further := "66B-66C 19DA"
    exceptions := "70F" },
  { names := ["le", "oletter"]
    parts := [.category "lo", .category "lm", .category "nl"]
    without := [.property "cased"]
    further := "5F3 10D0-10FA 10FD-10FF 1C90-1CBA 1CBD-1CBF"
    exceptions := "FF9E-FF9F" },
  { names := ["sc", "scontinue"]
    parts := []
    without := []
    further := "2C-2D 3A-3B 37E 55D 60C-60D 7F8 1802 1808 2013-2014 3001 FE10-FE11 FE13-FE14 FE31-FE32
      FE50-FE51 FE54-FE55 FE58 FE63 FF0C-FF0D FF1A-FF1B FF64"
    exceptions := "" },
  { names := ["st", "sterm"]
    parts := [.property "sterm"]
    without := [.property "ci"]
    further := ""
    exceptions := "" },
  { names := ["se", "sep"]
    parts := []
    without := []
    further := "85 2028-2029"
    exceptions := "" },
  { names := ["sp"]
    parts := []
    without := []
    further := "9 B-C 20 A0 1680 2000-200A 202F 205F 3000"
    exceptions := "" },
  { names := ["up", "upper"]
    parts := [.property "upper", .category "lt"]
    without := []
    further := ""
    exceptions := "1C90-1CBA 1CBD-1CBF" }]

/-- The characters of a value, by any of its names in lower case without separators. -/
def find? (values : List Definition) (name : String) : Option CharSet :=
  (values.find? fun definition => definition.names.contains name).map Definition.characters

end Reroute.Regex.Segmentation
