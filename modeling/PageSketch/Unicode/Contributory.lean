import PageSketch.Unicode.Runs

/-! # Contributions to derived properties

Some properties follow from the category, but for a few code points that have them all
the same. These are listed here. -/

namespace PageSketch.Unicode.Contributory

/-- Alphabetic without being letters or letter numbers: most vowel signs, and circled letters. -/
def alphabetic : CodeSet :=
  CodeSet.ofText
    (String.join
      ["n837yn29y13n576y14nyny2ny2nyn72y11n48y13ny7n16yn101y7n4y4n2y2n4yn35yn30y16n102y11n101y2n3y",
       "9ny3ny4n106yn60y12n3y7n6y20n54y2n2y15ny2n5y3n10y2n29y3n58y7n2y2n2y2n10yn10y2n29y3n58y5n4y2",
       "n2y2n4yn30y2n3yn11y3n58y8ny3ny2n21y2n22y3n4y3n58y7n2y2n2y2n9y2n10y2n30yn59y5n3y3ny3n10yn40",
       "y5n57y7ny3ny3n8y2n11y2n29y3n58y7ny3ny3n8y2n11y2n15yn12y4n58y7ny3ny3n10yn10y2n29y3n75y6nyny",
       "8n18y2n61yn2y7n18yn99yn2y6ny2n16yn163y19n9y11ny36n110y12nyn2y4n23y4n4y3ny3n2y7n3y4n13y12ny",
       "n10y4n1652y2n30y2n30y2n30y2n66y19n188y2n34yn118y12n4y9n222y5n57y10n2y20n74y2n11y3n49y5n48y",
       "15n60y3n30y9n2y2n57y11n50y19n412y34n1729y52n2294y32n30836y8n34y2n354yn8yn23y5n88y2n50y16ny",
       "n57yn38y5n28y12n45y4n48y12n37yn67y14n12yn8y2n45y3n50yny3n2y2n5yn44y5n5yn237y8n20275yn2135y",
       "5n1670y3ny2n5y4n788y4n65yn321y2n79yn259y3n53y14n45y2n11y3n45y9n9yn61y3n36y12n18y2n57y3n48y",
       "13n14y2n92y9n2yn6yn2yn157y10n23y4n58y7n2y2n2y2n10yn10y2n84y9nyn2yny4ny2n103y13ny3n106y18n2",
       "37y7n2y7n29y2n82y15nyn106y11n103y14n257y13n247y6ny2n2y2n3ynyn142y7n2y6n4yn28y10n42y5ny4n18",
       "y11n46y14n407y8ny7n83y22ny14n122y6n3yny2ny3nyn3yn66y5ny2ny4n348y4n9y2nyn48y7n3y3n16861y17n",
       "3616yny55n7y4n93y2n19628yn9057y7ny17n2y7ny2ny5n100yn2231yn2024y26n6y26n6y26n986742"])

def lowercase : CodeSet :=
  ⟨[⟨170, 170⟩, ⟨186, 186⟩, ⟨688, 696⟩, ⟨704, 705⟩, ⟨736, 740⟩, ⟨837, 837⟩, ⟨890, 890⟩,
    ⟨4348, 4348⟩, ⟨7468, 7530⟩, ⟨7544, 7544⟩, ⟨7579, 7615⟩, ⟨8305, 8305⟩, ⟨8319, 8319⟩,
    ⟨8336, 8348⟩, ⟨8560, 8575⟩, ⟨9424, 9449⟩, ⟨11388, 11389⟩, ⟨42652, 42653⟩, ⟨42864, 42864⟩,
    ⟨42994, 42996⟩, ⟨43000, 43001⟩, ⟨43868, 43871⟩, ⟨43881, 43881⟩, ⟨67456, 67456⟩,
    ⟨67459, 67461⟩, ⟨67463, 67504⟩, ⟨67506, 67514⟩, ⟨122928, 122989⟩]⟩

def uppercase : CodeSet :=
  ⟨[⟨8544, 8559⟩, ⟨9398, 9423⟩, ⟨127280, 127305⟩, ⟨127312, 127337⟩, ⟨127344, 127369⟩]⟩

def math : CodeSet :=
  CodeSet.ofText
    (String.join
      ["n94yn881y3n2yn26y2n2y2n7200yn27y3n11yn32y4n24y2n14y2n65y13n4yn3y2n4y5n18yn4yn2y10nyn3y5n6y",
       "n3y2n2y2ny3ny6n3y4n5y5n75y5n2y4ny2ny2nyny5n2y2n4y2n4y18n2y2nyny7nyn6y2n290y4n168y2nyn24yn1",
       "7yn445y2n12y9n5y5n5y2n2y2n3y5n14ynyn2y6n24y2n57ynyn29y4n9y2n342y2n31y10n403y22n63y4n32y2n5",
       "4371ynyn4yn211ynyn54465y85ny71ny2n2yn2y2n2y4ny12nyny7ny65ny4n2y8ny7ny28ny4ny5nyn3y7ny340n2",
       "y25ny25ny31ny25ny31ny25ny31ny25ny31ny25ny8n2y50n5632y4ny27ny2nyn2yny10ny4nynyn6yn4ynynyny3",
       "ny2nyn2ynynynynyny2nyn2y4ny7ny4ny4nyny10ny17n5y3ny5ny17n987460"])

/-- Continue the character before them without being marks that do. -/
def graphemeExtend : CodeSet :=
  ⟨[⟨2494, 2494⟩, ⟨2519, 2519⟩, ⟨2878, 2878⟩, ⟨2903, 2903⟩, ⟨3006, 3006⟩, ⟨3031, 3031⟩,
    ⟨3264, 3264⟩, ⟨3266, 3266⟩, ⟨3271, 3272⟩, ⟨3274, 3275⟩, ⟨3285, 3286⟩, ⟨3390, 3390⟩,
    ⟨3415, 3415⟩, ⟨3535, 3535⟩, ⟨3551, 3551⟩, ⟨5909, 5909⟩, ⟨5940, 5940⟩, ⟨6965, 6965⟩,
    ⟨6971, 6971⟩, ⟨6973, 6973⟩, ⟨6979, 6980⟩, ⟨7082, 7082⟩, ⟨7154, 7155⟩, ⟨8204, 8204⟩,
    ⟨12334, 12335⟩, ⟨43347, 43347⟩, ⟨43456, 43456⟩, ⟨65438, 65439⟩, ⟨70080, 70080⟩,
    ⟨70197, 70197⟩, ⟨70462, 70462⟩, ⟨70477, 70477⟩, ⟨70487, 70487⟩, ⟨70584, 70584⟩,
    ⟨70594, 70594⟩, ⟨70597, 70597⟩, ⟨70599, 70601⟩, ⟨70607, 70607⟩, ⟨70832, 70832⟩,
    ⟨70845, 70845⟩, ⟨71087, 71087⟩, ⟨71350, 71350⟩, ⟨71984, 71984⟩, ⟨71997, 71997⟩,
    ⟨73537, 73537⟩, ⟨94192, 94193⟩, ⟨119141, 119142⟩, ⟨119149, 119154⟩, ⟨917536, 917631⟩]⟩

/-- Not shown if they are not supported. -/
def defaultIgnorable : CodeSet :=
  ⟨[⟨847, 847⟩, ⟨4447, 4448⟩, ⟨6068, 6069⟩, ⟨8293, 8293⟩, ⟨12644, 12644⟩, ⟨65440, 65440⟩,
    ⟨65520, 65528⟩, ⟨917504, 917504⟩, ⟨917506, 917535⟩, ⟨917632, 917759⟩, ⟨918000, 921599⟩]⟩

/-- Begin identifiers without being letters or letter numbers. -/
def idStart : CodeSet :=
  ⟨[⟨6277, 6278⟩, ⟨8472, 8472⟩, ⟨8494, 8494⟩, ⟨12443, 12444⟩]⟩

/-- Continue identifiers without a category that does. -/
def idContinue : CodeSet :=
  ⟨[⟨183, 183⟩, ⟨903, 903⟩, ⟨4969, 4977⟩, ⟨6618, 6618⟩, ⟨8204, 8205⟩, ⟨12539, 12539⟩,
    ⟨65381, 65381⟩]⟩

/-- Begin identifiers, but not all of their compatible forms do. -/
def onlyIdStart : CodeSet :=
  ⟨[⟨890, 890⟩, ⟨3635, 3635⟩, ⟨3763, 3763⟩, ⟨12443, 12444⟩, ⟨64606, 64611⟩, ⟨65018, 65019⟩,
    ⟨65136, 65136⟩, ⟨65138, 65138⟩, ⟨65140, 65140⟩, ⟨65142, 65142⟩, ⟨65144, 65144⟩,
    ⟨65146, 65146⟩, ⟨65148, 65148⟩, ⟨65150, 65150⟩, ⟨65438, 65439⟩]⟩

/-- Continue identifiers, but not all of their compatible forms do. -/
def onlyIdContinue : CodeSet :=
  ⟨[⟨890, 890⟩, ⟨12443, 12444⟩, ⟨64606, 64611⟩, ⟨65018, 65019⟩, ⟨65136, 65136⟩,
    ⟨65138, 65138⟩, ⟨65140, 65140⟩, ⟨65142, 65142⟩, ⟨65144, 65144⟩, ⟨65146, 65146⟩,
    ⟨65148, 65148⟩, ⟨65150, 65150⟩]⟩

end PageSketch.Unicode.Contributory
