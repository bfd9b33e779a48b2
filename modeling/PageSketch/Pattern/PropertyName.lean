import PageSketch.Unicode.Age
import PageSketch.Unicode.GraphemeBreak
import PageSketch.Unicode.Property
import PageSketch.Unicode.ScriptExtension
import PageSketch.Unicode.SentenceBreak

/-! # Names of properties

Names are compared without regard to case, blanks, dashes, underscores and an `is`
at the beginning. -/

namespace PageSketch.Pattern.PropertyName

open Unicode

def normalize (name : String) : String :=
  let letters := name.toList
  let isMarked := (letters.take 2).map Char.toLower = ['i', 's']
  let kept := (if isMarked then letters.drop 2 else letters).filter fun letter =>
    letter.toNat ≤ 127 && letter ≠ ' ' && letter ≠ '_' && letter ≠ '-'
  let plain := kept.map Char.toLower
  if isMarked ∧ plain = ['c'] then "isc" else String.ofList plain

example : normalize "Is_Uppercase-Letter" = "uppercaseletter" := by decide +kernel

/-- The categories of letters, marks and so on, with the names of each. -/
def categoryGroups : List (List String × List Category) :=
  [(["lc", "casedletter"], [.uppercaseLetter, .lowercaseLetter, .titlecaseLetter]),
    (["l", "letter"],
      [.uppercaseLetter, .lowercaseLetter, .titlecaseLetter, .modifierLetter, .otherLetter]),
    (["m", "mark", "combiningmark"], [.nonspacingMark, .spacingMark, .enclosingMark]),
    (["n", "number"], [.decimalNumber, .letterNumber, .otherNumber]),
    (["p", "punctuation", "punct"],
      [.connectorPunctuation, .dashPunctuation, .openPunctuation, .closePunctuation,
        .initialPunctuation, .finalPunctuation, .otherPunctuation]),
    (["s", "symbol"], [.mathSymbol, .currencySymbol, .modifierSymbol, .otherSymbol]),
    (["z", "separator"], [.spaceSeparator, .lineSeparator, .paragraphSeparator]),
    (["c", "other"], [.control, .format, .surrogate, .privateUse, .unassigned]),
    (["lu", "uppercaseletter"], [.uppercaseLetter]),
    (["ll", "lowercaseletter"], [.lowercaseLetter]),
    (["lt", "titlecaseletter"], [.titlecaseLetter]),
    (["lm", "modifierletter"], [.modifierLetter]),
    (["lo", "otherletter"], [.otherLetter]),
    (["mn", "nonspacingmark"], [.nonspacingMark]),
    (["mc", "spacingmark"], [.spacingMark]),
    (["me", "enclosingmark"], [.enclosingMark]),
    (["nd", "decimalnumber", "digit"], [.decimalNumber]),
    (["nl", "letternumber"], [.letterNumber]),
    (["no", "othernumber"], [.otherNumber]),
    (["pc", "connectorpunctuation"], [.connectorPunctuation]),
    (["pd", "dashpunctuation"], [.dashPunctuation]),
    (["ps", "openpunctuation"], [.openPunctuation]),
    (["pe", "closepunctuation"], [.closePunctuation]),
    (["pi", "initialpunctuation"], [.initialPunctuation]),
    (["pf", "finalpunctuation"], [.finalPunctuation]),
    (["po", "otherpunctuation"], [.otherPunctuation]),
    (["sm", "mathsymbol"], [.mathSymbol]),
    (["sc", "currencysymbol"], [.currencySymbol]),
    (["sk", "modifiersymbol"], [.modifierSymbol]),
    (["so", "othersymbol"], [.otherSymbol]),
    (["zs", "spaceseparator"], [.spaceSeparator]),
    (["zl", "lineseparator"], [.lineSeparator]),
    (["zp", "paragraphseparator"], [.paragraphSeparator]),
    (["cc", "control", "cntrl"], [.control]),
    (["cf", "format"], [.format]),
    (["co", "privateuse"], [.privateUse]),
    (["cn", "unassigned"], [.unassigned])]

def category? (name : String) : Option CodeSet :=
  match name with
  | "any" => some .all
  | "ascii" => some (.range 0 127)
  | "assigned" => some (Category.codeSet [.unassigned]).complement
  | _ => (categoryGroups.find? (·.1.contains name)).map fun group => Category.codeSet group.2

def scriptNumber? (name : String) : Option Nat :=
  let known :=
    match name with
    | "qaac" => "coptic"
    | "qaai" => "inherited"
    | "unknown" => ""
    | "zzzz" => ""
    | _ => name
  Script.names.findIdx? fun (short, long) => normalize short = known ∨ normalize long = known

def script? (name : String) : Option CodeSet := (scriptNumber? name).map Script.codeSet

def properties : List (List String × Property) :=
  [(["ahex", "asciihexdigit"], .asciiHexDigit), (["alpha", "alphabetic"], .alphabetic),
   (["bidic", "bidicontrol"], .bidiControl), (["bidim", "bidimirrored"], .bidiMirrored),
   (["ci", "caseignorable"], .caseIgnorable), (["cased"], .cased),
   (["cwcf", "changeswhencasefolded"], .changesWhenCasefolded),
   (["cwcm", "changeswhencasemapped"], .changesWhenCasemapped),
   (["cwl", "changeswhenlowercased"], .changesWhenLowercased),
   (["cwt", "changeswhentitlecased"], .changesWhenTitlecased),
   (["cwu", "changeswhenuppercased"], .changesWhenUppercased), (["dash"], .dash),
   (["di", "defaultignorablecodepoint"], .defaultIgnorable),
   (["dep", "deprecated"], .deprecated), (["dia", "diacritic"], .diacritic), (["emoji"], .emoji),
   (["ecomp", "emojicomponent"], .emojiComponent), (["emod", "emojimodifier"], .emojiModifier),
   (["ebase", "emojimodifierbase"], .emojiModifierBase),
   (["epres", "emojipresentation"], .emojiPresentation),
   (["extpict", "extendedpictographic"], .extendedPictographic),
   (["ext", "extender"], .extender), (["grbase", "graphemebase"], .graphemeBase),
   (["grext", "graphemeextend"], .graphemeExtend), (["grlink", "graphemelink"], .graphemeLink),
   (["hex", "hexdigit"], .hexDigit), (["hyphen"], .hyphen),
   (["idsb", "idsbinaryoperator"], .idsBinaryOperator),
   (["idst", "idstrinaryoperator"], .idsTrinaryOperator),
   (["idsu", "idsunaryoperator"], .idsUnaryOperator),
   (["idcompatmathcontinue"], .idCompatMathContinue),
   (["idcompatmathstart"], .idCompatMathStart), (["idc", "idcontinue"], .idContinue),
   (["ids", "idstart"], .idStart), (["ideo", "ideographic"], .ideographic),
   (["joinc", "joincontrol"], .joinControl),
   (["loe", "logicalorderexception"], .logicalOrderException),
   (["lower", "lowercase"], .lowercase), (["math"], .math),
   (["mcm", "modifiercombiningmark"], .modifierCombiningMark),
   (["nchar", "noncharactercodepoint"], .noncharacter),
   (["oalpha", "otheralphabetic"], .otherAlphabetic),
   (["odi", "otherdefaultignorablecodepoint"], .otherDefaultIgnorable),
   (["ogrext", "othergraphemeextend"], .otherGraphemeExtend),
   (["oidc", "otheridcontinue"], .otherIdContinue), (["oids", "otheridstart"], .otherIdStart),
   (["olower", "otherlowercase"], .otherLowercase), (["omath", "othermath"], .otherMath),
   (["oupper", "otheruppercase"], .otherUppercase),
   (["patsyn", "patternsyntax"], .patternSyntax),
   (["patws", "patternwhitespace"], .patternWhiteSpace),
   (["pcm", "prependedconcatenationmark"], .prependedConcatenationMark),
   (["qmark", "quotationmark"], .quotationMark), (["radical"], .radical),
   (["ri", "regionalindicator"], .regionalIndicator),
   (["sterm", "sentenceterminal"], .sentenceTerminal), (["sd", "softdotted"], .softDotted),
   (["term", "terminalpunctuation"], .terminalPunctuation),
   (["uideo", "unifiedideograph"], .unifiedIdeograph), (["upper", "uppercase"], .uppercase),
   (["vs", "variationselector"], .variationSelector),
   (["space", "wspace", "whitespace"], .whiteSpace), (["xidc", "xidcontinue"], .xidContinue),
   (["xids", "xidstart"], .xidStart)]

def property? (name : String) : Option CodeSet :=
  (properties.find? (·.1.contains name)).map fun entry => entry.2.codeSet

def named? (name : String) : Option CodeSet :=
  let plain := normalize name
  (property? plain).orElse fun _ => (category? plain).orElse fun _ => script? plain

def withValue? (name value : String) : Option CodeSet :=
  let plain := normalize value
  match normalize name with
  | "gc" | "generalcategory" => category? plain
  | "sc" | "script" => script? plain
  | "scx" | "scriptextensions" => (scriptNumber? plain).map ScriptExtension.codeSet
  | "age" => Age.codeSet? plain
  | "gcb" | "graphemeclusterbreak" => GraphemeBreak.codeSet? plain
  | "wb" | "wordbreak" => WordBreak.codeSet? plain
  | "sb" | "sentencebreak" => SentenceBreak.codeSet? plain
  | _ => none

/-- What is meant by the text between braces: a name, or a property and a value with
`=`, `:` or `!=` between them. The last means the code points with another value. -/
def braced? (text : List Char) : Option (CodeSet × Bool) :=
  let unequal := (List.range text.length).find? fun index =>
    (text.drop index).take 2 = ['!', '=']
  match unequal with
  | some index =>
      (withValue? (String.ofList (text.take index)) (String.ofList (text.drop (index + 2)))).map
        (·, true)
  | none =>
      let mark := if text.contains ':' then ':' else '='
      let set :=
        if text.contains mark then
          withValue? (String.ofList (text.takeWhile (· ≠ mark)))
            (String.ofList ((text.dropWhile (· ≠ mark)).drop 1))
        else
          named? (String.ofList text)
      set.map (·, false)

end PageSketch.Pattern.PropertyName
