import Unscramble.Pattern.CharClass
import Unscramble.Text.Category.Letters
import Unscramble.Text.Category.Marks
import Unscramble.Text.Category.Numbers
import Unscramble.Text.Category.Others
import Unscramble.Text.Category.Punctuation
import Unscramble.Text.Category.Symbols
import Unscramble.Text.Extender
import Unscramble.Text.Feature
import Unscramble.Text.Letter
import Unscramble.Text.Mark
import Unscramble.Text.Numeral
import Unscramble.Text.Script
import Unscramble.Text.Split

/-!
# Character properties by name

A pattern can name a class of characters: a general category, a script, or a feature, which is a
Boolean property. Case, blanks, hyphens and low lines in names do not count, and neither does an
`is` in front.

A name alone is sought among the features first, then among the categories, and last among the
scripts. A name behind `gc=` or `sc=` is that of a category or of a script.

## Main definitions

* `Property.plainName`: what counts in a name.
* `Property.class?`: the class that a name stands for.
-/

namespace Unscramble.Pattern.Property

open Unscramble.Text

/-- A class with its names. -/
structure NamedClass where
  names : List String
  cls : CharClass

/-- The class of a name among the given ones. -/
def lookup (classes : List NamedClass) (name : List Char) : Option CharClass :=
  (classes.find? (·.names.contains (String.ofList name))).map NamedClass.cls

/-! ### General categories -/

/-- The cased letters. -/
def casedLetter : CharClass :=
  .unions [.table upperRanges, .table lowerRanges, .table titleRanges]

/-- The letters. -/
def letter : CharClass :=
  .unions [casedLetter, .table modifierLetterRanges, .table otherLetterRanges]

/-- The separators. -/
def separator : CharClass :=
  .unions [.table spaceSeparatorRanges, .table lineSeparatorRanges, .table paragraphSeparatorRanges]

/-- The punctuation. -/
def punctuation : CharClass :=
  .unions [.table connectorRanges, .table dashRanges, .table openingRanges, .table closingRanges,
    .table initialQuoteRanges, .table finalQuoteRanges, .table otherPunctuationRanges]

/-- The symbols. -/
def symbol : CharClass :=
  .unions [.table mathSymbolRanges, .table currencyRanges, .table modifierSymbolRanges,
    .table otherSymbolRanges]

/-- The controls, the format characters and the private code points. -/
def control : CharClass :=
  .unions [.table controlRanges, .table formatRanges, .table privateRanges]

/-- The code points to which a character is assigned: all that have another category. -/
def assigned : CharClass :=
  .unions [letter, .table markRanges, .table numeralRanges, punctuation, symbol, separator, control]

/-- The general categories and their unions. -/
def categories : List NamedClass := [
  ⟨["any"], .anything⟩,
  ⟨["assigned"], assigned⟩,
  ⟨["ascii"], .range '\x00' '\x7f'⟩,
  ⟨["l", "letter"], letter⟩,
  ⟨["lc", "casedletter"], casedLetter⟩,
  ⟨["lu", "uppercaseletter"], .table upperRanges⟩,
  ⟨["ll", "lowercaseletter"], .table lowerRanges⟩,
  ⟨["lt", "titlecaseletter"], .table titleRanges⟩,
  ⟨["lm", "modifierletter"], .table modifierLetterRanges⟩,
  ⟨["lo", "otherletter"], .table otherLetterRanges⟩,
  ⟨["m", "mark", "combiningmark"], .table markRanges⟩,
  ⟨["mn", "nonspacingmark"], .table plainMarkRanges⟩,
  ⟨["mc", "spacingmark"], .table spacingMarkRanges⟩,
  ⟨["me", "enclosingmark"], .table enclosingMarkRanges⟩,
  ⟨["n", "number"], .table numeralRanges⟩,
  ⟨["nd", "decimalnumber", "digit"], .digit⟩,
  ⟨["nl", "letternumber"], .table letterNumberRanges⟩,
  ⟨["no", "othernumber"], .table otherNumberRanges⟩,
  ⟨["p", "punctuation", "punct"], punctuation⟩,
  ⟨["pc", "connectorpunctuation"], .table connectorRanges⟩,
  ⟨["pd", "dashpunctuation"], .table dashRanges⟩,
  ⟨["ps", "openpunctuation"], .table openingRanges⟩,
  ⟨["pe", "closepunctuation"], .table closingRanges⟩,
  ⟨["pi", "initialpunctuation"], .table initialQuoteRanges⟩,
  ⟨["pf", "finalpunctuation"], .table finalQuoteRanges⟩,
  ⟨["po", "otherpunctuation"], .table otherPunctuationRanges⟩,
  ⟨["s", "symbol"], symbol⟩,
  ⟨["sm", "mathsymbol"], .table mathSymbolRanges⟩,
  ⟨["sc", "currencysymbol"], .table currencyRanges⟩,
  ⟨["sk", "modifiersymbol"], .table modifierSymbolRanges⟩,
  ⟨["so", "othersymbol"], .table otherSymbolRanges⟩,
  ⟨["z", "separator"], separator⟩,
  ⟨["zs", "spaceseparator"], .table spaceSeparatorRanges⟩,
  ⟨["zl", "lineseparator"], .table lineSeparatorRanges⟩,
  ⟨["zp", "paragraphseparator"], .table paragraphSeparatorRanges⟩,
  ⟨["c", "other"], .union control (.not assigned)⟩,
  ⟨["cc", "control", "cntrl"], .table controlRanges⟩,
  ⟨["cf", "format"], .table formatRanges⟩,
  ⟨["co", "privateuse"], .table privateRanges⟩,
  ⟨["cn", "unassigned"], .not assigned⟩]

/-! ### Features -/

/-- The small letters, with characters that look like them. -/
def lowercase : CharClass :=
  .union (.table lowerRanges) (.table otherLowerRanges)

/-- The capital letters, with characters that look like them. -/
def uppercase : CharClass :=
  .union (.table upperRanges) (.table otherUpperRanges)

/-- The characters that a name may start with. -/
def nameStart : CharClass :=
  .diff (.unions [letter, .table letterNumberRanges, .table otherStartRanges])
    (.table notStartRanges)

/-- The characters that a name may have behind the first. -/
def nameContinue : CharClass :=
  .unions [nameStart, .table plainMarkRanges, .table spacingMarkRanges, .digit,
    .table connectorRanges, .table otherContinueRanges]

/-- The characters that casing rules look through. -/
def caseIgnorable : CharClass :=
  .unions [.table plainMarkRanges, .table enclosingMarkRanges, .table formatRanges,
    .table modifierLetterRanges, .table modifierSymbolRanges, .table caseIgnorableRanges]

/-- The visible characters that extend none before them. -/
def graphemeBase : CharClass :=
  .diff assigned (.unions [control, .table lineSeparatorRanges, .table paragraphSeparatorRanges,
    .table extenderRanges])

/-- The features. -/
def features : List NamedClass := [
  ⟨["asciihexdigit", "ahex"], .unions [.range '0' '9', .range 'A' 'F', .range 'a' 'f']⟩,
  ⟨["hexdigit", "hex"], .unions [.range '0' '9', .range 'A' 'F', .range 'a' 'f',
    .range '\uff10' '\uff19', .range '\uff21' '\uff26', .range '\uff41' '\uff46']⟩,
  ⟨["alphabetic", "alpha"], .table letterRanges⟩,
  ⟨["whitespace", "wspace", "space"], .blank⟩,
  ⟨["lowercase", "lower"], lowercase⟩,
  ⟨["uppercase", "upper"], uppercase⟩,
  ⟨["cased"], .unions [lowercase, uppercase, .table titleRanges]⟩,
  ⟨["caseignorable", "ci"], caseIgnorable⟩,
  ⟨["idstart", "ids"], nameStart⟩,
  ⟨["idcontinue", "idc"], nameContinue⟩,
  ⟨["xidstart", "xids"], .diff nameStart (.table unstableStartRanges)⟩,
  ⟨["xidcontinue", "xidc"], .diff nameContinue (.table unstableContinueRanges)⟩,
  ⟨["graphemeextend", "grext"], .table extenderRanges⟩,
  ⟨["graphemebase", "grbase"], graphemeBase⟩,
  ⟨["math"], .union (.table mathSymbolRanges) (.table otherMathRanges)⟩,
  ⟨["dash"], .table dashFeatureRanges⟩,
  ⟨["quotationmark", "qmark"], .table quotationRanges⟩,
  ⟨["diacritic", "dia"], .table diacriticRanges⟩,
  ⟨["extender", "ext"], .table lengthenerRanges⟩,
  ⟨["softdotted", "sd"], .table softDottedRanges⟩,
  ⟨["ideographic", "ideo"], .table ideographRanges⟩,
  ⟨["unifiedideograph", "uideo"], .table unifiedIdeographRanges⟩,
  ⟨["radical"], .table radicalRanges⟩,
  ⟨["idsbinaryoperator", "idsb"], .table binaryOperatorRanges⟩,
  ⟨["idstrinaryoperator", "idst"], .table trinaryOperatorRanges⟩,
  ⟨["emoji"], .table emojiRanges⟩,
  ⟨["emojipresentation", "epres"], .table emojiPresentationRanges⟩,
  ⟨["emojimodifier", "emod"], .table emojiModifierRanges⟩,
  ⟨["emojimodifierbase", "ebase"], .table emojiBaseRanges⟩,
  ⟨["emojicomponent", "ecomp"], .table emojiComponentRanges⟩,
  ⟨["extendedpictographic", "extpict"], .table pictographRanges⟩,
  ⟨["regionalindicator", "ri"], .table regionalRanges⟩,
  ⟨["variationselector", "vs"], .table variationRanges⟩,
  ⟨["sentenceterminal", "sterm"], .table sentenceEndRanges⟩,
  ⟨["terminalpunctuation", "term"], .table punctuationEndRanges⟩,
  ⟨["bidimirrored", "bidim"], .table mirroredRanges⟩,
  ⟨["bidicontrol", "bidic"], .table directionControlRanges⟩,
  ⟨["joincontrol", "joinc"], .table joinControlRanges⟩,
  ⟨["logicalorderexception", "loe"], .table orderExceptionRanges⟩,
  ⟨["defaultignorablecodepoint", "di"], .table ignorableRanges⟩,
  ⟨["deprecated", "dep"], .table deprecatedRanges⟩,
  ⟨["noncharactercodepoint", "nchar"], .table noncharacterRanges⟩,
  ⟨["patternwhitespace", "patws"], .table patternBlankRanges⟩,
  ⟨["patternsyntax", "patsyn"], .table patternSyntaxRanges⟩]

/-! ### Names -/

/-- What counts in a name: the ASCII characters without blanks, hyphens and low lines, as small
letters, and without an `is` in front. A lone `c` keeps it, because `isc` is something else. -/
def plainName (name : List Char) : List Char :=
  let plain (s : List Char) :=
    (s.filter fun c ↦ c.toNat < 0x80 && !(c ∈ [' ', '_', '-'])).map Char.toLower
  if (name.take 2).map Char.toLower = ['i', 's'] then
    let rest := plain (name.drop 2)
    if rest = ['c'] then ['i', 's', 'c'] else rest
  else plain name

/-- The category of a name. -/
def category? (name : List Char) : Option CharClass :=
  lookup categories (plainName name)

/-- The script of a name. -/
def script? (name : List Char) : Option CharClass :=
  (scripts.find? (·.names.contains (String.ofList (plainName name)))).map (.table ·.ranges)

/-- The two parts of a name that `!=` separates. -/
def splitUnequal? : List Char → Option (List Char × List Char)
  | [] => none
  | '!' :: '=' :: r => some ([], r)
  | c :: r => (splitUnequal? r).map fun (a, b) ↦ (c :: a, b)

/-- The two parts of a name, which `!=`, `:` or `=` separates. The first of these that occurs
counts. -/
def split? (name : List Char) : Option (List Char × List Char) :=
  match splitUnequal? name with
  | some parts => some parts
  | none =>
    match splitFirst? ':' name with
    | some parts => some parts
    | none => splitFirst? '=' name

/-- The class that a name stands for. The separator `!=` does not exclude the class: only a capital
`P` before the name does. -/
def class? (name : List Char) : Option CharClass :=
  match split? name with
  | none =>
    match lookup features (plainName name) with
    | some c => some c
    | none =>
      match category? name with
      | some c => some c
      | none => script? name
  | some (kind, value) =>
    match String.ofList (plainName kind) with
    | "generalcategory" | "gc" => category? value
    | "script" | "sc" => script? value
    | _ => none

end Unscramble.Pattern.Property
