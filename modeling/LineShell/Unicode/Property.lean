import LineShell.Text.Blank
import LineShell.Unicode.Table.Letter
import LineShell.Unicode.Table.Mark
import LineShell.Unicode.Table.Number
import LineShell.Unicode.Table.Punctuation
import LineShell.Unicode.Table.Symbol
import LineShell.Unicode.Table.Other
import LineShell.Unicode.Table.Derived
import LineShell.Unicode.Table.Script

/-!
Character properties: general categories, scripts and some properties derived from them, and how
they are called. Other properties are not known here.
-/

namespace LineShell.Unicode

/-- The general categories that have characters, without the characters that are not assigned. -/
inductive Category where
  | uppercaseLetter | lowercaseLetter | titlecaseLetter | modifierLetter | otherLetter
  | nonspacingMark | spacingMark | enclosingMark
  | decimalNumber | letterNumber | otherNumber
  | connectorPunctuation | dashPunctuation | openPunctuation | closePunctuation
  | initialPunctuation | finalPunctuation | otherPunctuation
  | mathSymbol | currencySymbol | modifierSymbol | otherSymbol
  | spaceSeparator | lineSeparator | paragraphSeparator
  | control | format | privateUse
  deriving DecidableEq, Repr

namespace Category

/-- The characters of a category. -/
def table : Category → List Run
  | uppercaseLetter => Table.uppercaseLetter
  | lowercaseLetter => Table.lowercaseLetter
  | titlecaseLetter => Table.titlecaseLetter
  | modifierLetter => Table.modifierLetter
  | otherLetter => Table.otherLetter
  | nonspacingMark => Table.nonspacingMark
  | spacingMark => Table.spacingMark
  | enclosingMark => Table.enclosingMark
  | decimalNumber => Table.decimalNumber
  | letterNumber => Table.letterNumber
  | otherNumber => Table.otherNumber
  | connectorPunctuation => Table.connectorPunctuation
  | dashPunctuation => Table.dashPunctuation
  | openPunctuation => Table.openPunctuation
  | closePunctuation => Table.closePunctuation
  | initialPunctuation => Table.initialPunctuation
  | finalPunctuation => Table.finalPunctuation
  | otherPunctuation => Table.otherPunctuation
  | mathSymbol => Table.mathSymbol
  | currencySymbol => Table.currencySymbol
  | modifierSymbol => Table.modifierSymbol
  | otherSymbol => Table.otherSymbol
  | spaceSeparator => Table.spaceSeparator
  | lineSeparator => Table.lineSeparator
  | paragraphSeparator => Table.paragraphSeparator
  | control => Table.control
  | format => Table.format
  | privateUse => Table.privateUse

def casedLetters : List Category := [uppercaseLetter, lowercaseLetter, titlecaseLetter]
def letters : List Category := casedLetters ++ [modifierLetter, otherLetter]
def marks : List Category := [nonspacingMark, spacingMark, enclosingMark]
def numbers : List Category := [decimalNumber, letterNumber, otherNumber]
def punctuation : List Category :=
  [connectorPunctuation, dashPunctuation, openPunctuation, closePunctuation,
    initialPunctuation, finalPunctuation, otherPunctuation]
def symbols : List Category := [mathSymbol, currencySymbol, modifierSymbol, otherSymbol]
def separators : List Category := [spaceSeparator, lineSeparator, paragraphSeparator]
def others : List Category := [control, format, privateUse]
def assigned : List Category :=
  letters ++ marks ++ numbers ++ punctuation ++ symbols ++ separators ++ others

end Category

/-- Whether a character has one of the categories. -/
def hasCategory (categories : List Category) (c : Char) : Bool :=
  categories.any fun category => inTable c.toNat category.table

/-- Decimal digits of any script. -/
def isDecimalDigit (c : Char) : Bool := hasCategory [.decimalNumber] c

/-- The property `Alphabetic`. -/
def isAlphabetic (c : Char) : Bool :=
  if c.toNat < 0x80 then c.isAlpha
  else hasCategory (.letterNumber :: Category.letters) c || inTable c.toNat Table.otherAlphabetic

/-- Alphabetic characters and numbers. -/
def isAlphanumeric (c : Char) : Bool := isAlphabetic c || hasCategory Category.numbers c

/-- The characters of words: alphabetic characters, marks, decimal digits, connectors, and the two
joiners of zero width. -/
def isWordChar (c : Char) : Bool :=
  if c.toNat < 0x80 then c.isAlphanum || c == '_'
  else
    isAlphabetic c ||
      hasCategory (.decimalNumber :: .connectorPunctuation :: Category.marks) c ||
      c.toNat == 0x200C || c.toNat == 0x200D

/-- The property `Lowercase`. -/
def isLowercase (c : Char) : Bool :=
  hasCategory [.lowercaseLetter] c || inTable c.toNat Table.otherLowercase

/-- The property `Uppercase`. -/
def isUppercase (c : Char) : Bool :=
  hasCategory [.uppercaseLetter] c || inTable c.toNat Table.otherUppercase

/-- A name of a property in lower case and without separators. A leading `is` does not count, except
that `isc` is not the category `c`. -/
def looseName (name : String) : String :=
  let chars := name.toList
  let isLed := (chars.take 2).map Char.toLower == ['i', 's']
  let kept := ((if isLed then chars.drop 2 else chars).filter fun c =>
    c.toNat < 0x80 && c != ' ' && c != '_' && c != '-').map Char.toLower
  if isLed && kept == ['c'] then "isc" else String.ofList kept

/-- The general category, or group of categories, of a loose name. -/
def category? (name : String) : Option (Char → Bool) :=
  open Category in
  let groups : List (List String × List Category) :=
    [(["l", "letter"], letters), (["lc", "casedletter"], casedLetters),
     (["lu", "uppercaseletter"], [uppercaseLetter]), (["ll", "lowercaseletter"], [lowercaseLetter]),
     (["lt", "titlecaseletter"], [titlecaseLetter]), (["lm", "modifierletter"], [modifierLetter]),
     (["lo", "otherletter"], [otherLetter]),
     (["m", "mark", "combiningmark"], marks), (["mn", "nonspacingmark"], [nonspacingMark]),
     (["mc", "spacingmark"], [spacingMark]), (["me", "enclosingmark"], [enclosingMark]),
     (["n", "number"], numbers), (["nd", "decimalnumber", "digit"], [decimalNumber]),
     (["nl", "letternumber"], [letterNumber]), (["no", "othernumber"], [otherNumber]),
     (["p", "punctuation", "punct"], punctuation),
     (["pc", "connectorpunctuation"], [connectorPunctuation]),
     (["pd", "dashpunctuation"], [dashPunctuation]), (["ps", "openpunctuation"], [openPunctuation]),
     (["pe", "closepunctuation"], [closePunctuation]),
     (["pi", "initialpunctuation"], [initialPunctuation]),
     (["pf", "finalpunctuation"], [finalPunctuation]),
     (["po", "otherpunctuation"], [otherPunctuation]),
     (["s", "symbol"], symbols), (["sm", "mathsymbol"], [mathSymbol]),
     (["sc", "currencysymbol"], [currencySymbol]), (["sk", "modifiersymbol"], [modifierSymbol]),
     (["so", "othersymbol"], [otherSymbol]),
     (["z", "separator"], separators), (["zs", "spaceseparator"], [spaceSeparator]),
     (["zl", "lineseparator"], [lineSeparator]),
     (["zp", "paragraphseparator"], [paragraphSeparator]),
     (["cc", "control", "cntrl"], [control]), (["cf", "format"], [format]),
     (["co", "privateuse"], [privateUse]), (["assigned"], assigned)]
  match groups.find? (·.1.contains name) with
  | some (_, categories) => some (hasCategory categories)
  | none =>
    match name with
    | "any" => some fun _ => true
    | "ascii" => some fun c => c.toNat < 0x80
    | "cn" | "unassigned" => some fun c => !hasCategory assigned c
    | "c" | "other" => some fun c => hasCategory others c || !hasCategory assigned c
    | _ => none

/-- The script of a loose name. -/
def script? (name : String) : Option (Char → Bool) :=
  (Table.scripts.find? (·.1.contains name)).map fun (_, table) c => inTable c.toNat table

/-- The derived property of a loose name. -/
def derived? (name : String) : Option (Char → Bool) :=
  match name with
  | "alphabetic" | "alpha" => some isAlphabetic
  | "lowercase" | "lower" => some isLowercase
  | "uppercase" | "upper" => some isUppercase
  | "whitespace" | "wspace" | "space" => some Text.isBlank
  | "asciihexdigit" | "ahex" => some fun c =>
    c.isDigit || ('a' ≤ c && c ≤ 'f') || ('A' ≤ c && c ≤ 'F')
  | "joincontrol" | "joinc" => some fun c => c.toNat == 0x200C || c.toNat == 0x200D
  | _ => none

/-- The property that a single name calls. -/
def property? (name : String) : Option (Char → Bool) :=
  let name := looseName name
  (derived? name).orElse fun _ => (category? name).orElse fun _ => script? name

/-- The value `value` of the property `name`. -/
def propertyValue? (name value : String) : Option (Char → Bool) :=
  match looseName name with
  | "generalcategory" | "gc" => category? (looseName value)
  | "script" | "sc" => script? (looseName value)
  | _ => none

end LineShell.Unicode
