import PageSketch.Unicode.Category
import PageSketch.Unicode.Contributory
import PageSketch.Unicode.Folding

/-! # Code points that change with case

Most code points that change with case differ from another one by case only. The
others are listed: they change into several. -/

namespace PageSketch.Unicode.CaseChange

def lowercase : CodeSet :=
  (Category.codeSet [.lowercaseLetter]).union Contributory.lowercase

def uppercase : CodeSet :=
  (Category.codeSet [.uppercaseLetter]).union Contributory.uppercase

/-- Letters that look like an upper case one followed by a lower case one. -/
def titlecase : CodeSet := Category.codeSet [.titlecaseLetter]

def toLower : CodeSet :=
  ((uppercase.union titlecase).intersection Folding.members).union (.single 304)

/-- Lower case characters without an upper case one. -/
def withoutCapital : CodeSet :=
  ⟨[⟨305, 305⟩, ⟨329, 329⟩, ⟨496, 496⟩, ⟨1415, 1415⟩, ⟨7830, 7834⟩, ⟨8016, 8016⟩,
    ⟨8018, 8018⟩, ⟨8020, 8020⟩, ⟨8022, 8022⟩, ⟨8114, 8114⟩, ⟨8116, 8116⟩, ⟨8118, 8119⟩,
    ⟨8130, 8130⟩, ⟨8132, 8132⟩, ⟨8134, 8135⟩, ⟨8146, 8146⟩, ⟨8150, 8151⟩, ⟨8162, 8162⟩,
    ⟨8164, 8164⟩, ⟨8166, 8167⟩, ⟨8178, 8178⟩, ⟨8180, 8180⟩, ⟨8182, 8183⟩, ⟨64256, 64260⟩,
    ⟨64275, 64279⟩]⟩

def toUpper : CodeSet :=
  ((lowercase.union titlecase).intersection Folding.members).union withoutCapital

/-- Changed by turning the first letters of words to upper case. Georgian letters are
not; double letters become those that are upper case in their first part. -/
def toTitle : CodeSet :=
  ((toUpper.difference titlecase).difference (.range 4304 4351)).union
    ⟨[⟨452, 452⟩, ⟨455, 455⟩, ⟨458, 458⟩, ⟨497, 497⟩]⟩

def mapped : CodeSet := .unionAll [toLower, toUpper, toTitle]

def foldedToSeveral : CodeSet :=
  ⟨[⟨223, 223⟩, ⟨304, 304⟩, ⟨329, 329⟩, ⟨1415, 1415⟩, ⟨7834, 7834⟩, ⟨8064, 8071⟩,
    ⟨8080, 8087⟩, ⟨8096, 8103⟩, ⟨8114, 8116⟩, ⟨8119, 8119⟩, ⟨8130, 8132⟩, ⟨8135, 8135⟩,
    ⟨8178, 8180⟩, ⟨8183, 8183⟩, ⟨64256, 64260⟩, ⟨64262, 64262⟩, ⟨64275, 64279⟩]⟩

/-- Changed by folding, unless they are only decomposed by it. -/
def folded : CodeSet :=
  (Folding.sources.difference ⟨[⟨8126, 8126⟩, ⟨8147, 8147⟩, ⟨8163, 8163⟩]⟩).union foldedToSeveral

end PageSketch.Unicode.CaseChange
