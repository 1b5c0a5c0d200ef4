import ClusterRig.Pattern.CharSet
import ClusterRig.Unicode.GraphemeBreak
import ClusterRig.Unicode.Script
import ClusterRig.Unicode.SentenceBreak
import ClusterRig.Unicode.WordBreak

/-!
# Names of properties

The sets that a pattern names by a Unicode property. Names are compared without
regard to case, blanks, hyphens and underscores.
-/

namespace ClusterRig
namespace Pattern
namespace Property

open Unicode (Category Edition Listed Runs Script)

/-- The loose form of a name: what is left of its ASCII characters, without the `is`
that it may begin with. A lone `c` does not stand for itself after that. -/
def loose (name : List Char) : String :=
  let marked := (name.take 2).map Char.toLower == ['i', 's']
  let rest := if marked then name.drop 2 else name
  let plain := rest.filter fun c => c.toNat < 0x80 && c != ' ' && c != '_' && c != '-'
  let plain := plain.map Char.toLower
  if marked && plain == ['c'] then "isc" else String.ofList plain

def categoryNames : List (List String × List Category) :=
  [(["l", "letter"], Unicode.letters),
   (["lu", "uppercaseletter"], [.lu]),
   (["ll", "lowercaseletter"], [.ll]),
   (["lt", "titlecaseletter"], [.lt]),
   (["lc", "casedletter"], [.lu, .ll, .lt]),
   (["lm", "modifierletter"], [.lm]),
   (["lo", "otherletter"], [.lo]),
   (["m", "mark", "combiningmark"], CharSet.marks),
   (["mn", "nonspacingmark"], [.mn]),
   (["mc", "spacingmark"], [.mc]),
   (["me", "enclosingmark"], [.me]),
   (["n", "number"], Unicode.numerals),
   (["nd", "decimalnumber", "digit"], [.nd]),
   (["nl", "letternumber"], [.nl]),
   (["no", "othernumber"], [.no]),
   (["p", "punctuation", "punct"], [.pc, .pd, .ps, .pe, .pi, .pf, .po]),
   (["pc", "connectorpunctuation"], [.pc]),
   (["pd", "dashpunctuation"], [.pd]),
   (["ps", "openpunctuation"], [.ps]),
   (["pe", "closepunctuation"], [.pe]),
   (["pi", "initialpunctuation"], [.pi]),
   (["pf", "finalpunctuation"], [.pf]),
   (["po", "otherpunctuation"], [.po]),
   (["s", "symbol"], [.sm, .sc, .sk, .so]),
   (["sm", "mathsymbol"], [.sm]),
   (["sc", "currencysymbol"], [.sc]),
   (["sk", "modifiersymbol"], [.sk]),
   (["so", "othersymbol"], [.so]),
   (["z", "separator"], [.zs, .zl, .zp]),
   (["zs", "spaceseparator"], [.zs]),
   (["zl", "lineseparator"], [.zl]),
   (["zp", "paragraphseparator"], [.zp]),
   (["c", "other"], [.cc, .cf, .co, .cn]),
   (["cc", "control", "cntrl"], [.cc]),
   (["cf", "format"], [.cf]),
   (["co", "privateuse"], [.co]),
   (["cn", "unassigned"], [.cn])]

/-- The value under the first list of names that has the given one. -/
def named? {α : Type} (table : List (List String × α)) (name : String) : Option α :=
  (table.find? fun e => e.1.contains name).map Prod.snd

/-- A set by its general category. Surrogates are no characters and have none. -/
def category? (name : String) : Option CharSet :=
  match name with
  | "any" => some .any
  | "ascii" => some (.range '\x00' '\x7f')
  | "assigned" => some (.complement (.categories [.cn]))
  | _ => (named? categoryNames name).map .categories

def script? (name : String) : Option CharSet := (Script.named? name).map fun s => .runs s.runs

/-- The characters that a script uses, also if it shares them. Those that are known
to be used by some scripts are not common or inherited. -/
def scriptExtension? (name : String) : Option CharSet :=
  (Script.named? name).map fun s =>
    if s.isShared then
      .difference (.runs s.runs) (.unions (Script.all.map fun t => .runs t.extended))
    else .union (.runs s.runs) (.runs s.extended)

/-- A version as in `6.0` or, when it is a name, `v60`. -/
def editionNames (e : Edition) : List String :=
  [s!"{e.major}.{e.minor}", s!"v{e.major}{e.minor}"]

/-- The characters of a version, which are those of all versions up to it. -/
def age? (name : String) : Option CharSet :=
  let known := Edition.all.filter fun e => e.major ≤ 16
  if known.any fun e => (editionNames e).contains name then
    let upTo := known.takeWhile fun e => !(editionNames e).contains name
    some (.unions ((known.take (upTo.length + 1)).map fun e => .runs e.runs))
  else none

def ofListed? (table : List Listed) (name : String) : Option CharSet :=
  (Listed.named? table name).map fun l => .runs l.runs

def lowercase : CharSet := .union (.categories [.ll]) (.listed "otherlowercase")

def uppercase : CharSet := .union (.categories [.lu]) (.listed "otheruppercase")

/-- Marks that stand inside words. -/
def midWord : CharSet :=
  .runs (Runs.ofLines ["27 2E 3A B7 387 55F 5F4 2018-2019 2024 2027 FE13 FE52 FE55 FF07 FF0E FF1A"])

def graphemeExtend : CharSet :=
  .union (.categories [.mn, .me]) (.listed "othergraphemeextend")

/-- Characters with a fixed meaning in patterns of text, which stand in no identifier. -/
def fixedMeaning : CharSet :=
  .union (.listed "patternsyntax") (.listed "patternwhitespace")

def idStart : CharSet :=
  .difference (.union (.categories (Unicode.letters ++ [.nl])) (.listed "otheridstart"))
    fixedMeaning

def idContinue : CharSet :=
  .difference (.unions [idStart, .categories [.mn, .mc, .nd, .pc], .listed "otheridcontinue"])
    fixedMeaning

/-- Characters of identifiers whose normal forms would not be identifiers. -/
def unstable : CharSet :=
  .runs (Runs.ofLines ["37A 309B-309C FC5E-FC63 FDFA-FDFB FE70-FE7E/2"])

/-- Characters that begin an identifier although their normal forms would not. -/
def unstableStart : CharSet := .union unstable (.runs (Runs.ofLines ["E33 EB3 FF9E-FF9F"]))

/-- The binary properties that follow from others. -/
def derived? : String → Option CharSet
  | "whitespace" | "wspace" | "space" => some .blank
  | "alphabetic" | "alpha" => some .alphabetic
  | "lowercase" | "lower" => some lowercase
  | "uppercase" | "upper" => some uppercase
  | "math" => some (.union (.categories [.sm]) (.listed "othermath"))
  | "cased" => some (.unions [lowercase, uppercase, .categories [.lt]])
  | "caseignorable" | "ci" => some (.union (.categories [.mn, .me, .cf, .lm, .sk]) midWord)
  | "graphemeextend" | "grext" => some graphemeExtend
  | "graphemebase" | "grbase" =>
    some (.complement (.union (.categories [.cc, .cf, .co, .cn, .zl, .zp]) graphemeExtend))
  | "idstart" | "ids" => some idStart
  | "idcontinue" | "idc" => some idContinue
  | "xidstart" | "xids" => some (.difference idStart unstableStart)
  | "xidcontinue" | "xidc" => some (.difference idContinue unstable)
  | _ => none

def binary? (name : String) : Option CharSet :=
  (derived? name).orElse fun _ => ofListed? Unicode.Property.listed name

/-- The set of a name that stands alone. -/
def ofName? (name : List Char) : Option CharSet :=
  let n := loose name
  (binary? n).orElse fun _ => (category? n).orElse fun _ => script? n

/-- The set of a property and the value it has. -/
def ofValue? (property value : List Char) : Option CharSet :=
  let v := loose value
  match loose property with
  | "gc" | "generalcategory" => category? v
  | "sc" | "script" => script? v
  | "scx" | "scriptextensions" => scriptExtension? v
  | "age" => age? v
  | "gcb" | "graphemeclusterbreak" => ofListed? Unicode.graphemeBreaks v
  | "sb" | "sentencebreak" => ofListed? Unicode.sentenceBreaks v
  | "wb" | "wordbreak" => ofListed? Unicode.wordBreaks v
  | _ => none

end Property
end Pattern
end ClusterRig
