import PageSketch.Unicode.Runs

/-! # Kinds of punctuation

Code points with a part in the structure of texts and patterns. -/

namespace PageSketch.Unicode.Punctuation

def dash : CodeSet :=
  ⟨[⟨45, 45⟩, ⟨1418, 1418⟩, ⟨1470, 1470⟩, ⟨5120, 5120⟩, ⟨6150, 6150⟩, ⟨8208, 8213⟩,
    ⟨8275, 8275⟩, ⟨8315, 8315⟩, ⟨8331, 8331⟩, ⟨8722, 8722⟩, ⟨11799, 11799⟩, ⟨11802, 11802⟩,
    ⟨11834, 11835⟩, ⟨11840, 11840⟩, ⟨11869, 11869⟩, ⟨12316, 12316⟩, ⟨12336, 12336⟩,
    ⟨12448, 12448⟩, ⟨65073, 65074⟩, ⟨65112, 65112⟩, ⟨65123, 65123⟩, ⟨65293, 65293⟩,
    ⟨68974, 68974⟩, ⟨69293, 69293⟩]⟩

def hyphen : CodeSet :=
  ⟨[⟨45, 45⟩, ⟨173, 173⟩, ⟨1418, 1418⟩, ⟨6150, 6150⟩, ⟨8208, 8209⟩, ⟨11799, 11799⟩,
    ⟨12539, 12539⟩, ⟨65123, 65123⟩, ⟨65293, 65293⟩, ⟨65381, 65381⟩]⟩

def quotationMark : CodeSet :=
  ⟨[⟨34, 34⟩, ⟨39, 39⟩, ⟨171, 171⟩, ⟨187, 187⟩, ⟨8216, 8223⟩, ⟨8249, 8250⟩, ⟨11842, 11842⟩,
    ⟨12300, 12303⟩, ⟨12317, 12319⟩, ⟨65089, 65092⟩, ⟨65282, 65282⟩, ⟨65287, 65287⟩,
    ⟨65378, 65379⟩]⟩

def sentenceTerminal : CodeSet :=
  CodeSet.ofText
    (String.join
      ["n33yn12yn16yn1353yn147y3n180yn43y3n246yn61ynyn3y2n293y2n1764y2n790yn4y2n773yn198y2n157y2n4",
       "5yn5yn314y2n354y4n162y2n10y2n2y2n29y3n187y2n65y2n932yn23y2n9y3n3247y3n306yn13yn22y2n429yn2",
       "9948yn270y2n227yn3yn382y2n86y2n95yn152y2n147y3n144y2n249yn21030yn2y2n59yn3y2n169yn12yn16yn",
       "65yn2804y2n1277y5n44y4n189y2n117y4n127y3n129y2n6yn16y2n88y2ny2n108yn298y2n117y2n373y2n5y15",
       "n105y2n249y3n517ynyn251y2n87y2n420y2n692y2n74y2n19241y2n133yn65y2n11yn553y2n296yn19974yn76",
       "56yn992631"])

def terminalPunctuation : CodeSet :=
  CodeSet.ofText
    (String.join
      ["n33yn10ynyn11y2n3yn830yn8yn513yn57yn72yn14yny3n180yn43y11nyn235y2n54y6ny8n31yn261y2n1268y2",
       "n172yn4y6n311y2n789y8n773yn124y3n71y2n157y3n3yn39y4n2y2n314y2n354y4n162y2n10y2ny3n29y3n187",
       "y5n62y2n932yn23y2n9y3n3247y3n306yn13yn4yn10yny2n3y2n428y2n29947y2n269y3n227y5n382y2n86y2n9",
       "5yn151y3n147y3n127yn16y2n249yn21030yn2y2n57y3ny4n169yn10ynyn11y2n3yn65yn2yn1082yn48yn1158y",
       "n199yn310y2n152y6n68y6n89y4n952y5n44y4n189y7n112y4n127y3n129y2n6yn16y2n88y5n108yn298y2n117",
       "y3n12y2n358y4n3y15n105y2n249y3n517ynyn251y2n87y2n4y2n414y3n45yn645y2n74y2n1323y5n17913y2n1",
       "33yn65y3n10yn553y2n295y2n19974yn7655y4n992629"])

/-- Shapes that turn round in text from right to left. -/
def bidiMirrored : CodeSet :=
  CodeSet.ofText
    (String.join
      ["n40y2n18ynyn28ynyn29ynyn45yn15yn3710y4n1885y2n2460y2n10y2n54y2n14y2n177yn192y4n3y6n3yn3y2n",
       "3y4ny4nynyn4y9n5yny18n5y4n9y2nyny8ny32n2y4n5yn9y2n2y19n5y2n9y5n2y2n4y24n2y16n8y4n20y2n7y2n",
       "1085y14n74yn2y4ny2ny3n5y4n5y3n3y14n403y22n2y6ny14n8yn7y6n3yn4y5ny2n2y5n4yny3n2y2n10y6n2y2n",
       "12y19ny4n2ynyn2yny4n5y2n6y3n24y2n11y2n4y4ny2n2y2n4y43n2y8ny40n5ynyn3y5n5y3n4yn3y5nyn256yn5",
       "15y4n3y2ny2n14y2n2y10n43y8n427y10n2y8n52797y6n5y2n162y2n18ynyn28ynyn29ynyny2ny2n55159yn57y",
       "n57yn57yn57yn993340"])

def patternSyntax : CodeSet :=
  ⟨[⟨33, 47⟩, ⟨58, 64⟩, ⟨91, 94⟩, ⟨96, 96⟩, ⟨123, 126⟩, ⟨161, 167⟩, ⟨169, 169⟩, ⟨171, 172⟩,
    ⟨174, 174⟩, ⟨176, 177⟩, ⟨182, 182⟩, ⟨187, 187⟩, ⟨191, 191⟩, ⟨215, 215⟩, ⟨247, 247⟩,
    ⟨8208, 8231⟩, ⟨8240, 8254⟩, ⟨8257, 8275⟩, ⟨8277, 8286⟩, ⟨8592, 9311⟩, ⟨9472, 10101⟩,
    ⟨10132, 11263⟩, ⟨11776, 11903⟩, ⟨12289, 12291⟩, ⟨12296, 12320⟩, ⟨12336, 12336⟩,
    ⟨64830, 64831⟩, ⟨65093, 65094⟩]⟩

def patternWhiteSpace : CodeSet :=
  ⟨[⟨9, 13⟩, ⟨32, 32⟩, ⟨133, 133⟩, ⟨8206, 8207⟩, ⟨8232, 8233⟩]⟩

end PageSketch.Unicode.Punctuation
