import PageSketch.Unicode.CaseChange
import PageSketch.Unicode.Emoji
import PageSketch.Unicode.Ideograph
import PageSketch.Unicode.Invisible
import PageSketch.Unicode.Modifier
import PageSketch.Unicode.Punctuation
import PageSketch.Unicode.WhiteSpace
import PageSketch.Unicode.WordBreak

/-! # Properties of code points

A code point has a property or has it not. Many properties follow from the category
and from other properties. -/

namespace PageSketch.Unicode

inductive Property where
  | alphabetic
  | asciiHexDigit
  | bidiControl
  | bidiMirrored
  | caseIgnorable
  | cased
  | changesWhenCasefolded
  | changesWhenCasemapped
  | changesWhenLowercased
  | changesWhenTitlecased
  | changesWhenUppercased
  | dash
  | defaultIgnorable
  | deprecated
  | diacritic
  | emoji
  | emojiComponent
  | emojiModifier
  | emojiModifierBase
  | emojiPresentation
  | extendedPictographic
  | extender
  | graphemeBase
  | graphemeExtend
  | graphemeLink
  | hexDigit
  | hyphen
  | idCompatMathContinue
  | idCompatMathStart
  | idContinue
  | idStart
  | ideographic
  | idsBinaryOperator
  | idsTrinaryOperator
  | idsUnaryOperator
  | joinControl
  | logicalOrderException
  | lowercase
  | math
  | modifierCombiningMark
  | noncharacter
  | otherAlphabetic
  | otherDefaultIgnorable
  | otherGraphemeExtend
  | otherIdContinue
  | otherIdStart
  | otherLowercase
  | otherMath
  | otherUppercase
  | patternSyntax
  | patternWhiteSpace
  | prependedConcatenationMark
  | quotationMark
  | radical
  | regionalIndicator
  | sentenceTerminal
  | softDotted
  | terminalPunctuation
  | unifiedIdeograph
  | uppercase
  | variationSelector
  | whiteSpace
  | xidContinue
  | xidStart
deriving DecidableEq, Repr

namespace Property

def letters : CodeSet :=
  Category.codeSet
    [.uppercaseLetter, .lowercaseLetter, .titlecaseLetter, .modifierLetter, .otherLetter,
      .letterNumber]

def alphabeticSet : CodeSet := letters.union Contributory.alphabetic

def graphemeExtendSet : CodeSet :=
  (Category.codeSet [.nonspacingMark, .enclosingMark]).union Contributory.graphemeExtend

def patternSet : CodeSet := Punctuation.patternSyntax.union Punctuation.patternWhiteSpace

def idStartSet : CodeSet := (letters.union Contributory.idStart).difference patternSet

def idContinueSet : CodeSet :=
  (CodeSet.unionAll
    [idStartSet, Contributory.idContinue,
      Category.codeSet
        [.nonspacingMark, .spacingMark, .decimalNumber, .connectorPunctuation]]).difference
    patternSet

/-- Marks, formats, modifiers, and what may stand within words. -/
def caseIgnorableSet : CodeSet :=
  (Category.codeSet
    [.nonspacingMark, .enclosingMark, .format, .modifierLetter, .modifierSymbol]).union
    (WordBreak.table.select fun label => label == ['m'] || label == ['b'] || label == ['s'])

/-- Formats are ignorable unless they belong to other text that is shown. -/
def defaultIgnorableSet : CodeSet :=
  (CodeSet.unionAll
    [Contributory.defaultIgnorable, Category.codeSet [.format],
      Invisible.variationSelector]).difference
    (.unionAll
      [Unicode.whiteSpace, .range 65529 65531, .range 78896 78912, Invisible.prependedMark])

def graphemeBaseSet : CodeSet :=
  (Category.codeSet
    [.control, .format, .surrogate, .privateUse, .unassigned, .lineSeparator,
      .paragraphSeparator]).complement.difference
    graphemeExtendSet

def asciiHexDigitSet : CodeSet := ⟨[⟨48, 57⟩, ⟨65, 70⟩, ⟨97, 102⟩]⟩

def codeSet : Property → CodeSet
  | .alphabetic => alphabeticSet
  | .asciiHexDigit => asciiHexDigitSet
  | .bidiControl => Invisible.bidiControl
  | .bidiMirrored => Punctuation.bidiMirrored
  | .caseIgnorable => caseIgnorableSet
  | .cased => .unionAll [CaseChange.lowercase, CaseChange.uppercase, CaseChange.titlecase]
  | .changesWhenCasefolded => CaseChange.folded
  | .changesWhenCasemapped => CaseChange.mapped
  | .changesWhenLowercased => CaseChange.toLower
  | .changesWhenTitlecased => CaseChange.toTitle
  | .changesWhenUppercased => CaseChange.toUpper
  | .dash => Punctuation.dash
  | .defaultIgnorable => defaultIgnorableSet
  | .deprecated => Invisible.deprecated
  | .diacritic => Modifier.diacritic
  | .emoji => Emoji.emoji
  | .emojiComponent => Emoji.component
  | .emojiModifier => Emoji.modifier
  | .emojiModifierBase => Emoji.modifierBase
  | .emojiPresentation => Emoji.presentation
  | .extendedPictographic => Emoji.pictographic
  | .extender => Modifier.extender
  | .graphemeBase => graphemeBaseSet
  | .graphemeExtend => graphemeExtendSet
  | .graphemeLink => Modifier.graphemeLink
  | .hexDigit =>
      asciiHexDigitSet.union ⟨[⟨65296, 65305⟩, ⟨65313, 65318⟩, ⟨65345, 65350⟩]⟩
  | .hyphen => Punctuation.hyphen
  | .idCompatMathContinue => Modifier.mathContinue
  | .idCompatMathStart => Modifier.mathStart
  | .idContinue => idContinueSet
  | .idStart => idStartSet
  | .ideographic => Ideograph.ideographic
  | .idsBinaryOperator => Ideograph.binaryOperator
  | .idsTrinaryOperator => Ideograph.trinaryOperator
  | .idsUnaryOperator => Ideograph.unaryOperator
  | .joinControl => Invisible.joinControl
  | .logicalOrderException => Modifier.logicalOrderException
  | .lowercase => CaseChange.lowercase
  | .math => (Category.codeSet [.mathSymbol]).union Contributory.math
  | .modifierCombiningMark => Modifier.combiningMark
  | .noncharacter => Invisible.noncharacter
  | .otherAlphabetic => Contributory.alphabetic
  | .otherDefaultIgnorable => Contributory.defaultIgnorable
  | .otherGraphemeExtend => Contributory.graphemeExtend
  | .otherIdContinue => Contributory.idContinue
  | .otherIdStart => Contributory.idStart
  | .otherLowercase => Contributory.lowercase
  | .otherMath => Contributory.math
  | .otherUppercase => Contributory.uppercase
  | .patternSyntax => Punctuation.patternSyntax
  | .patternWhiteSpace => Punctuation.patternWhiteSpace
  | .prependedConcatenationMark => Invisible.prependedMark
  | .quotationMark => Punctuation.quotationMark
  | .radical => Ideograph.radical
  | .regionalIndicator => Emoji.regionalIndicator
  | .sentenceTerminal => Punctuation.sentenceTerminal
  | .softDotted => Modifier.softDotted
  | .terminalPunctuation => Punctuation.terminalPunctuation
  | .unifiedIdeograph => Ideograph.unified
  | .uppercase => CaseChange.uppercase
  | .variationSelector => Invisible.variationSelector
  | .whiteSpace => Unicode.whiteSpace
  | .xidContinue => idContinueSet.difference Contributory.onlyIdContinue
  | .xidStart => idStartSet.difference Contributory.onlyIdStart

/-! ## Characters of words and numbers -/

/-- Characters of words: alphabetic ones, marks, digits, connectors. -/
def word : CodeSet :=
  .unionAll
    [alphabeticSet, Invisible.joinControl,
      Category.codeSet
        [.nonspacingMark, .spacingMark, .enclosingMark, .decimalNumber, .connectorPunctuation]]

def digit : CodeSet := Category.codeSet [.decimalNumber]

end Property

end PageSketch.Unicode
