import LintScan.Regex.Pattern.Basic
import LintScan.Unicode.Script

/-!
# Named properties

* `propertySet?` — the characters with a property given by one name, a binary property first, then
  a general category, then a script.
* `valueSet?` — the characters for which a property has a given value.

Names are compared without case, blanks, hyphens, underscores and a leading `is`.
-/

namespace LintScan.Regex

open LintScan.Unicode

/-- The form of a property name in which names are compared. -/
def normalName (name : List Char) : String :=
  let (body, hadIs) := match name with
    | a :: b :: rest =>
      if (a == 'i' || a == 'I') && (b == 's' || b == 'S') then (rest, true) else (name, false)
    | _ => (name, false)
  let kept := (body.filter fun c => c != ' ' && c != '_' && c != '-' && c.toNat < 0x80).map
    Char.toLower
  if hadIs && kept == ['c'] then "isc" else String.ofList kept

/-- The set of the characters of some categories. -/
def categories (ks : List Category) : CharSet := .unions (ks.map fun k => .spans k.spans)

/-- The names of the general categories and their characters. -/
def categoryNames : List (List String × CharSet) :=
  [(["any"], .full),
   (["ascii"], .range '\x00' '\x7f'),
   (["assigned"], categories Category.all),
   (["c", "other"], .compl (categories (letters ++ marks ++ numbers ++ punctuation ++ symbols
     ++ separators))),
   (["cc", "control", "cntrl"], categories [.control]),
   (["cf", "format"], categories [.format]),
   (["cn", "unassigned"], .compl (categories Category.all)),
   (["co", "privateuse"], categories [.privateUse]),
   (["l", "letter"], categories letters),
   (["lc", "casedletter"], categories [.uppercaseLetter, .lowercaseLetter, .titlecaseLetter]),
   (["ll", "lowercaseletter"], categories [.lowercaseLetter]),
   (["lm", "modifierletter"], categories [.modifierLetter]),
   (["lo", "otherletter"], categories [.otherLetter]),
   (["lt", "titlecaseletter"], categories [.titlecaseLetter]),
   (["lu", "uppercaseletter"], categories [.uppercaseLetter]),
   (["m", "mark", "combiningmark"], categories marks),
   (["mc", "spacingmark"], categories [.spacingMark]),
   (["me", "enclosingmark"], categories [.enclosingMark]),
   (["mn", "nonspacingmark"], categories [.nonspacingMark]),
   (["n", "number"], categories numbers),
   (["nd", "decimalnumber", "digit"], categories [.decimalNumber]),
   (["nl", "letternumber"], categories [.letterNumber]),
   (["no", "othernumber"], categories [.otherNumber]),
   (["p", "punctuation", "punct"], categories punctuation),
   (["pc", "connectorpunctuation"], categories [.connectorPunctuation]),
   (["pd", "dashpunctuation"], categories [.dashPunctuation]),
   (["pe", "closepunctuation"], categories [.closePunctuation]),
   (["pf", "finalpunctuation"], categories [.finalPunctuation]),
   (["pi", "initialpunctuation"], categories [.initialPunctuation]),
   (["po", "otherpunctuation"], categories [.otherPunctuation]),
   (["ps", "openpunctuation"], categories [.openPunctuation]),
   (["s", "symbol"], categories symbols),
   (["sc", "currencysymbol"], categories [.currencySymbol]),
   (["sk", "modifiersymbol"], categories [.modifierSymbol]),
   (["sm", "mathsymbol"], categories [.mathSymbol]),
   (["so", "othersymbol"], categories [.otherSymbol]),
   (["z", "separator"], categories separators),
   (["zl", "lineseparator"], categories [.lineSeparator]),
   (["zp", "paragraphseparator"], categories [.paragraphSeparator]),
   (["zs", "spaceseparator"], categories [.spaceSeparator])]

/-- Alphabetic characters. -/
def alphabetic : CharSet :=
  .union (categories (.letterNumber :: letters)) (.spans otherAlphabeticSpans)

/-- Lower-case characters. -/
def lowercaseSet : CharSet :=
  .union (categories [.lowercaseLetter]) (.spans otherLowercaseSpans)

/-- Upper-case characters. -/
def uppercaseSet : CharSet :=
  .union (categories [.uppercaseLetter]) (.spans otherUppercaseSpans)

/-- The names of the properties that a character has or has not. -/
def binaryNames : List (List String × CharSet) :=
  [(["alpha", "alphabetic"], alphabetic),
   (["lower", "lowercase"], lowercaseSet),
   (["upper", "uppercase"], uppercaseSet),
   (["wspace", "whitespace", "space"], .blank),
   (["cased"], .unions [lowercaseSet, uppercaseSet, categories [.titlecaseLetter]]),
   (["ci", "caseignorable"], .union
     (categories [.nonspacingMark, .enclosingMark, .format, .modifierLetter, .modifierSymbol])
     (.spans otherCaseIgnorableSpans)),
   (["math"], .union (categories [.mathSymbol]) (.spans otherMathSpans)),
   (["dash"], .union (categories [.dashPunctuation]) (.spans otherDashSpans)),
   (["hex", "hexdigit"], .spans hexDigitSpans),
   (["ahex", "asciihexdigit"], .unions [.range '0' '9', .range 'a' 'f', .range 'A' 'F']),
   (["ideo", "ideographic"], .spans ideographicSpans),
   (["dia", "diacritic"], .spans diacriticSpans),
   (["emoji"], .spans emojiSpans),
   (["joinc", "joincontrol"], .range '\u200c' '\u200d'),
   (["ids", "idstart"], .diff (.union (categories (.letterNumber :: letters))
     (.spans otherIdStartSpans)) (.single '\u2e2f')),
   (["idc", "idcontinue"], .diff (.union (categories ([.letterNumber, .nonspacingMark,
     .spacingMark, .decimalNumber, .connectorPunctuation] ++ letters))
     (.spans otherIdContinueSpans)) (.single '\u2e2f'))]

/-- The characters that a name of the table stands for. -/
def named? (table : List (List String × CharSet)) (name : String) : Option CharSet :=
  (table.find? (·.1.contains name)).map (·.2)

/-- The characters of the script with a code or name. -/
def scriptSet? (name : String) : Option CharSet :=
  (scripts.find? fun s =>
    normalName s.code.toList == name || normalName s.name.toList == name
      || (name == "qaac" && s.code == "Copt") || (name == "qaai" && s.code == "Zinh")).map
    fun s => .spans s.spans

/-- The characters with the property of the name. -/
def propertySet? (name : List Char) : Option CharSet :=
  let n := normalName name
  let binary := if n == "cf" || n == "sc" || n == "lc" then none else named? binaryNames n
  (binary.or (named? categoryNames n)).or (scriptSet? n)

/-- The characters for which the property has the value. -/
def valueSet? (property value : List Char) : Option CharSet :=
  let p := normalName property
  let v := normalName value
  if p == "gc" || p == "generalcategory" then named? categoryNames v
  else if p == "sc" || p == "script" || p == "scx" || p == "scriptextensions" then scriptSet? v
  else none

end LintScan.Regex
