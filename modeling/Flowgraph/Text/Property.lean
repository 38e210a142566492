import Flowgraph.Text.Property.Binary
import Flowgraph.Text.Property.Break
import Flowgraph.Text.Property.Category
import Flowgraph.Text.Property.Script

/-!
# Properties of characters

Sets of characters by the names of properties and their values. A name has no upper case, no blanks
and neither `_` nor `-`.
-/

namespace Flowgraph.Property

/-- The categories that are unions of others. -/
def categoryGroup? : String → Option (List String)
  | "l" | "letter" => some ["lu", "ll", "lt", "lm", "lo"]
  | "lc" | "casedletter" => some ["lu", "ll", "lt"]
  | "m" | "mark" | "combiningmark" => some ["mn", "mc", "me"]
  | "n" | "number" => some ["nd", "nl", "no"]
  | "p" | "punctuation" | "punct" => some ["pc", "pd", "ps", "pe", "pi", "pf", "po"]
  | "s" | "symbol" => some ["sm", "sc", "sk", "so"]
  | "z" | "separator" => some ["zs", "zl", "zp"]
  | "c" | "other" => some ["cc", "cf", "co", "cn"]
  | _ => none

def categorySet (names : List String) : CharSet :=
  NamedSet.join (names.filterMap (NamedSet.row? categories))

def category? (name : String) : Option CharSet :=
  match name with
  | "any" => some .all
  | "assigned" => some (categorySet ["cn"]).complement
  | "ascii" => some (CharSet.ofHex ["0..7F"])
  | _ =>
      match categoryGroup? name with
      | some names => some (categorySet names)
      | none => NamedSet.find? categories name

/-- A set that others are put together from: a category or a basic property. -/
def part (name : String) : CharSet :=
  match NamedSet.find? categories name with
  | some s => s
  | none => (NamedSet.find? basic name).getD .empty

def binary? (name : String) : Option CharSet :=
  match NamedSet.find? basic name with
  | some s => some s
  | none => DerivedSet.find? part derived name

def script? (name : String) : Option CharSet := NamedSet.find? scripts name

/-- The characters that a script uses: those of its own, but of characters that several scripts use
only those that it does use. -/
def usedByScript? (name : String) : Option CharSet :=
  (NamedSet.row? scripts name).map fun row =>
    let code := row.names.headD ""
    row.set.diff (NamedSet.join sharedScripts)
      ++ NamedSet.join (sharedScripts.filter fun s => s.names.contains code)

/-- The characters of a version of the standard, those of earlier versions included. -/
def age? (version : String) : Option CharSet :=
  if ages.any fun s => s.names.contains version then
    some (NamedSet.join
      (ages.takeWhile (fun s => !s.names.contains version) ++
        ages.filter fun s => s.names.contains version))
  else none

/-- The characters with a value of a property that has more than two; `none` for other
properties. -/
def valued? (property value : String) : Option (Option CharSet) :=
  match property with
  | "gc" | "generalcategory" => some (category? value)
  | "sc" | "script" => some (script? value)
  | "scx" | "scriptextensions" => some (usedByScript? value)
  | "age" => some (age? value)
  | "gcb" | "graphemeclusterbreak" => some (DerivedSet.find? part clusterBreaks value)
  | "wb" | "wordbreak" => some (DerivedSet.find? part wordBreaks value)
  | "sb" | "sentencebreak" => some (DerivedSet.find? part sentenceBreaks value)
  | _ => none

/-- Names of further properties, which no set belongs to. -/
def otherNames : List String :=
  ["age", "bc", "bidiclass", "bidimirroringglyph", "bidipairedbracket", "bidipairedbrackettype",
   "blk", "block", "bmg", "bpb", "bpt", "canonicalcombiningclass", "casefolding", "ccc", "ce", "cf",
   "changeswhennfkccasefolded", "cjkaccountingnumeric", "cjkcompatibilityvariant", "cjkiicore",
   "cjkirggsource", "cjkirghsource", "cjkirgjsource", "cjkirgkpsource", "cjkirgksource",
   "cjkirgmsource", "cjkirgssource", "cjkirgtsource", "cjkirguksource", "cjkirgusource",
   "cjkirgvsource", "cjkothernumeric", "cjkprimarynumeric", "cjkrsunicode", "compex",
   "compositionexclusion", "cwkcf", "decompositionmapping", "decompositiontype", "dm", "dt", "ea",
   "eastasianwidth", "equideo", "equivalentunifiedideograph", "expandsonnfc", "expandsonnfd",
   "expandsonnfkc", "expandsonnfkd", "fcnfkc", "fcnfkcclosure", "fullcompositionexclusion",
   "gc", "gcb", "generalcategory", "graphemeclusterbreak", "hangulsyllabletype", "hst", "incb",
   "indicconjunctbreak", "indicpositionalcategory", "indicsyllabiccategory", "inpc", "insc", "isc",
   "isocomment", "jamoshortname", "jg", "joininggroup", "joiningtype", "jsn", "jt",
   "kaccountingnumeric", "kcompatibilityvariant", "kehcat", "kehdesc", "kehfunc", "kehfval",
   "kehhg", "kehifao", "kehjsesh", "kehnomirror", "kehnorotate", "kehunik", "kiicore",
   "kirggsource", "kirghsource", "kirgjsource", "kirgkpsource", "kirgksource", "kirgmsource",
   "kirgssource", "kirgtsource", "kirguksource", "kirgusource", "kirgvsource", "kothernumeric",
   "kprimarynumeric", "krsunicode", "lb", "lc", "linebreak", "lowercasemapping", "na", "na1",
   "name", "namealias", "nfcqc", "nfcquickcheck", "nfdqc", "nfdquickcheck", "nfkccasefold",
   "nfkccf", "nfkcqc", "nfkcquickcheck", "nfkcscf", "nfkcsimplecasefold", "nfkdqc",
   "nfkdquickcheck", "nt", "numerictype", "numericvalue", "nv", "sb", "sc", "scf", "script",
   "scriptextensions", "scx", "sentencebreak", "sfc", "simplecasefolding", "simplelowercasemapping",
   "simpletitlecasemapping", "simpleuppercasemapping", "slc", "stc", "suc", "tc",
   "titlecasemapping", "uc", "unicode1name", "unicoderadicalstroke", "uppercasemapping", "urs",
   "verticalorientation", "vo", "wb", "wordbreak", "xonfc", "xonfd", "xonfkc", "xonfkd"]

def isName (name : String) : Bool :=
  otherNames.contains name || basic.any (fun s => s.names.contains name)
    || derived.any fun s => s.names.contains name

end Flowgraph.Property
