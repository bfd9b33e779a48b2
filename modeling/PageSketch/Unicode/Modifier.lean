import PageSketch.Unicode.Runs

/-! # Modifiers of characters

Code points that change others, or behave unlike others when combined. -/

namespace PageSketch.Unicode.Modifier

def diacritic : CodeSet :=
  CodeSet.ofText
    (String.join
      ["n94ynyn71yn6yn4yn2y2n503y159ny8n5y6n17y2n4yn9y2n253y5n209yn55y17ny27nyny2nyn134y8n4y2n134y",
       "2n4y2n3y3n67y27n91y11n58y11n34y2n126y8n41y10n16y28n61yn16yn3y4n28yn74yn16yn110yn16yn110yn1",
       "6yn47y3n60yn16yn7yn119yn110yn16yn110yn16yn109y2n16yn124yn111yn12y6nyn107yn13y5n75y2n27ynyn",
       "yn4y2n66y3ny2n62yn112yny2n40y2n4y5n25y7nyn10y2n705y3n948y2n30yn148y11n9yn347y3n292yn20y8n2",
       "yn48y15n2y11n104yn15yn38y9n54y2n58yn11y2n66y2n64y6n82y25n4yn6yn2y3n50y63n89y12n37y11n445yn",
       "y3n11y3n13y3n13y3n13y2n3312y3n317yn506y6n105y4n95yn30066yn12y2nyn28y2n82y2n14y34n102y3n109",
       "y2n12yn37yn151yn27y18n57y4n36yn95yn12yn36yn149y3n65y4n51yn100y5n9y3n128y2n20272yn769y16n27",
       "0ynyn47yn45y2n67yn764yn1183y6ny42ny9n637y3n4yn165y2n571y6n38yn26y5n399y3n70y11n49y4n192yn4",
       "1yn72y2n120y2n62yn76yn9y3n104y2n178y2n80y2n16yn24y7n3y5n89y3ny2n13y2n95yn3yn123y2n251y2n12",
       "6yn118y2n115yn269y2n258y2n4yn156yn83yn18yn81yn421yn258yny2n81yn425y2n23yn5356y15n11481yn24",
       "96y5n59y7n564y2n546y17n80y2n16382y4ny7ny2n7937y46n2y23n544y3n3y6n8y8n2y7n30y4n3714y62n194y",
       "7n375yn61y4n766y2n736y7n109y3ny3n988853"])

/-- Lengthen or repeat another character. -/
def extender : CodeSet :=
  ⟨[⟨183, 183⟩, ⟨720, 721⟩, ⟨1600, 1600⟩, ⟨2042, 2042⟩, ⟨2673, 2673⟩, ⟨2811, 2811⟩,
    ⟨2901, 2901⟩, ⟨3654, 3654⟩, ⟨3782, 3782⟩, ⟨6154, 6154⟩, ⟨6211, 6211⟩, ⟨6823, 6823⟩,
    ⟨7222, 7222⟩, ⟨7291, 7291⟩, ⟨12293, 12293⟩, ⟨12337, 12341⟩, ⟨12445, 12446⟩,
    ⟨12540, 12542⟩, ⟨40981, 40981⟩, ⟨42508, 42508⟩, ⟨43471, 43471⟩, ⟨43494, 43494⟩,
    ⟨43632, 43632⟩, ⟨43741, 43741⟩, ⟨43763, 43764⟩, ⟨65392, 65392⟩, ⟨67457, 67458⟩,
    ⟨68942, 68942⟩, ⟨68970, 68970⟩, ⟨68975, 68975⟩, ⟨70199, 70199⟩, ⟨70493, 70493⟩,
    ⟨70610, 70611⟩, ⟨71110, 71112⟩, ⟨72344, 72344⟩, ⟨92994, 92995⟩, ⟨94176, 94177⟩,
    ⟨94179, 94179⟩, ⟨123196, 123197⟩, ⟨124399, 124399⟩, ⟨125252, 125254⟩]⟩

/-- Join consonants. -/
def graphemeLink : CodeSet :=
  CodeSet.ofText
    (String.join
      ["n2381yn127yn127yn127yn127yn127yn127yn127yn109y2n16yn124yn111yn127yn201yn180y2n1753y2n30yn1",
       "57yn653yn227yn101y2n70y2n4491yn31366yn37yn151yn142yn108yn309yn246yn24145yn1542yn41yn14yn57",
       "yn121y2n139yn116yn180yn98yn128y3n113yn127yn252yn127yn118yn116yn269yn259y2n161yn83yn18yn81y",
       "n421yn260y2n81yn425y2n16876yn1023696"])

def combiningMark : CodeSet :=
  ⟨[⟨1620, 1621⟩, ⟨1624, 1624⟩, ⟨1756, 1756⟩, ⟨1763, 1763⟩, ⟨1767, 1768⟩, ⟨2250, 2251⟩,
    ⟨2253, 2255⟩, ⟨2259, 2259⟩, ⟨2291, 2291⟩]⟩

/-- Lose their dot under another mark. -/
def softDotted : CodeSet :=
  ⟨[⟨105, 106⟩, ⟨303, 303⟩, ⟨585, 585⟩, ⟨616, 616⟩, ⟨669, 669⟩, ⟨690, 690⟩, ⟨1011, 1011⟩,
    ⟨1110, 1110⟩, ⟨1112, 1112⟩, ⟨7522, 7522⟩, ⟨7574, 7574⟩, ⟨7588, 7588⟩, ⟨7592, 7592⟩,
    ⟨7725, 7725⟩, ⟨7883, 7883⟩, ⟨8305, 8305⟩, ⟨8520, 8521⟩, ⟨11388, 11388⟩, ⟨119842, 119843⟩,
    ⟨119894, 119895⟩, ⟨119946, 119947⟩, ⟨119998, 119999⟩, ⟨120050, 120051⟩, ⟨120102, 120103⟩,
    ⟨120154, 120155⟩, ⟨120206, 120207⟩, ⟨120258, 120259⟩, ⟨120310, 120311⟩, ⟨120362, 120363⟩,
    ⟨120414, 120415⟩, ⟨120466, 120467⟩, ⟨122650, 122650⟩, ⟨122956, 122957⟩, ⟨122984, 122984⟩]⟩

/-- Are written before what they are spoken behind. -/
def logicalOrderException : CodeSet :=
  ⟨[⟨3648, 3652⟩, ⟨3776, 3780⟩, ⟨6581, 6583⟩, ⟨6586, 6586⟩, ⟨43701, 43702⟩, ⟨43705, 43705⟩,
    ⟨43707, 43708⟩]⟩

def mathStart : CodeSet :=
  ⟨[⟨8706, 8706⟩, ⟨8711, 8711⟩, ⟨8734, 8734⟩, ⟨120513, 120513⟩, ⟨120539, 120539⟩,
    ⟨120571, 120571⟩, ⟨120597, 120597⟩, ⟨120629, 120629⟩, ⟨120655, 120655⟩, ⟨120687, 120687⟩,
    ⟨120713, 120713⟩, ⟨120745, 120745⟩, ⟨120771, 120771⟩]⟩

def mathContinue : CodeSet :=
  ⟨[⟨178, 179⟩, ⟨185, 185⟩, ⟨8304, 8304⟩, ⟨8308, 8318⟩, ⟨8320, 8334⟩, ⟨8706, 8706⟩,
    ⟨8711, 8711⟩, ⟨8734, 8734⟩, ⟨120513, 120513⟩, ⟨120539, 120539⟩, ⟨120571, 120571⟩,
    ⟨120597, 120597⟩, ⟨120629, 120629⟩, ⟨120655, 120655⟩, ⟨120687, 120687⟩, ⟨120713, 120713⟩,
    ⟨120745, 120745⟩, ⟨120771, 120771⟩]⟩

end PageSketch.Unicode.Modifier
