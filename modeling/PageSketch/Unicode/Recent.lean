import PageSketch.Unicode.Property

/-! # Recent code points

The tables of properties, which patterns use, are one version old. Names and quoted
texts go by the current version, in which further code points are assigned. -/

namespace PageSketch.Unicode.Recent

/-- The code points that the current version adds, with their categories. -/
def additions : List (CodeRange × Category) :=
  [(⟨2191, 2191⟩, .otherLetter), (⟨3164, 3164⟩, .otherLetter), (⟨3292, 3292⟩, .otherLetter),
   (⟨6863, 6877⟩, .nonspacingMark), (⟨6880, 6891⟩, .nonspacingMark),
   (⟨8385, 8385⟩, .currencySymbol), (⟨11158, 11158⟩, .otherSymbol),
   (⟨42958, 42958⟩, .uppercaseLetter), (⟨42959, 42959⟩, .lowercaseLetter),
   (⟨42962, 42962⟩, .uppercaseLetter), (⟨42964, 42964⟩, .uppercaseLetter),
   (⟨42993, 42993⟩, .modifierLetter), (⟨64451, 64466⟩, .otherSymbol),
   (⟨64912, 64913⟩, .otherSymbol), (⟨64968, 64974⟩, .otherSymbol),
   (⟨67904, 67929⟩, .otherLetter), (⟨69317, 69317⟩, .modifierLetter),
   (⟨69318, 69319⟩, .otherLetter), (⟨69328, 69328⟩, .otherPunctuation),
   (⟨69329, 69336⟩, .otherSymbol), (⟨69370, 69371⟩, .nonspacingMark),
   (⟨72544, 72544⟩, .nonspacingMark), (⟨72545, 72545⟩, .spacingMark),
   (⟨72546, 72548⟩, .nonspacingMark), (⟨72549, 72549⟩, .spacingMark),
   (⟨72550, 72550⟩, .nonspacingMark), (⟨72551, 72551⟩, .spacingMark),
   (⟨73136, 73176⟩, .otherLetter), (⟨73177, 73177⟩, .modifierLetter),
   (⟨73178, 73179⟩, .otherLetter), (⟨73184, 73193⟩, .decimalNumber),
   (⟨93856, 93880⟩, .uppercaseLetter), (⟨93883, 93907⟩, .lowercaseLetter),
   (⟨94194, 94195⟩, .modifierLetter), (⟨94196, 94198⟩, .letterNumber),
   (⟨100344, 100351⟩, .otherLetter), (⟨101641, 101662⟩, .otherLetter),
   (⟨101760, 101874⟩, .otherLetter), (⟨118010, 118012⟩, .otherSymbol),
   (⟨118458, 118480⟩, .otherSymbol), (⟨118496, 118511⟩, .otherSymbol),
   (⟨118512, 118512⟩, .mathSymbol), (⟨124608, 124638⟩, .otherLetter),
   (⟨124640, 124642⟩, .otherLetter), (⟨124643, 124643⟩, .nonspacingMark),
   (⟨124644, 124645⟩, .otherLetter), (⟨124646, 124646⟩, .nonspacingMark),
   (⟨124647, 124653⟩, .otherLetter), (⟨124654, 124655⟩, .nonspacingMark),
   (⟨124656, 124660⟩, .otherLetter), (⟨124661, 124661⟩, .nonspacingMark),
   (⟨124670, 124670⟩, .otherLetter), (⟨124671, 124671⟩, .modifierLetter),
   (⟨128728, 128728⟩, .otherSymbol), (⟨128887, 128890⟩, .otherSymbol),
   (⟨129232, 129240⟩, .mathSymbol), (⟨129620, 129623⟩, .otherSymbol),
   (⟨129674, 129674⟩, .otherSymbol), (⟨129678, 129678⟩, .otherSymbol),
   (⟨129736, 129736⟩, .otherSymbol), (⟨129741, 129741⟩, .otherSymbol),
   (⟨129770, 129770⟩, .otherSymbol), (⟨129775, 129775⟩, .otherSymbol),
   (⟨130042, 130042⟩, .otherSymbol), (⟨177978, 177983⟩, .otherLetter),
   (⟨183970, 183981⟩, .otherLetter), (⟨205744, 210041⟩, .otherLetter)]

/-- The marks among them that are alphabetic. -/
def alphabeticMarks : CodeSet :=
  ⟨[⟨69370, 69371⟩, ⟨72544, 72551⟩, ⟨124643, 124643⟩, ⟨124646, 124646⟩, ⟨124654, 124655⟩,
    ⟨124661, 124661⟩]⟩

def added (members : List Category) : CodeSet :=
  .ofRanges ((additions.filter fun entry => members.contains entry.2).map (·.1))

/-- The code points of some categories in the current version. -/
def codeSet (members : List Category) : CodeSet :=
  (Category.codeSet members).union (added members)

def alphabetic : CodeSet :=
  .unionAll
    [Property.alphabeticSet, alphabeticMarks,
      added
        [.uppercaseLetter, .lowercaseLetter, .titlecaseLetter, .modifierLetter, .otherLetter,
          .letterNumber]]

def numeric : CodeSet := codeSet [.decimalNumber, .letterNumber, .otherNumber]

def graphemeExtend : CodeSet :=
  Property.graphemeExtendSet.union (added [.nonspacingMark, .enclosingMark])

/-- Code points with a shape of their own, and the plain space. -/
def printable : CodeSet :=
  let hidden := CodeSet.unionAll
    [(Category.codeSet [.unassigned]).difference (.ofRanges (additions.map (·.1))),
      Category.codeSet
        [.control, .format, .surrogate, .privateUse, .lineSeparator, .paragraphSeparator,
          .spaceSeparator],
      Property.defaultIgnorableSet]
  hidden.complement.union (.single 32)

end PageSketch.Unicode.Recent
