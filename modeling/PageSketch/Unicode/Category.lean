import PageSketch.Unicode.Runs

/-! # General categories of code points

Every code point has one category. The table lists all code points in order, one
letter for each category as `Category.letter` gives it. -/

namespace PageSketch.Unicode

inductive Category where
  | uppercaseLetter
  | lowercaseLetter
  | titlecaseLetter
  | modifierLetter
  | otherLetter
  | nonspacingMark
  | spacingMark
  | enclosingMark
  | decimalNumber
  | letterNumber
  | otherNumber
  | connectorPunctuation
  | dashPunctuation
  | openPunctuation
  | closePunctuation
  | initialPunctuation
  | finalPunctuation
  | otherPunctuation
  | mathSymbol
  | currencySymbol
  | modifierSymbol
  | otherSymbol
  | spaceSeparator
  | lineSeparator
  | paragraphSeparator
  | control
  | format
  | surrogate
  | privateUse
  | unassigned
deriving DecidableEq, Repr

namespace Category

def all : List Category :=
  [.uppercaseLetter, .lowercaseLetter, .titlecaseLetter, .modifierLetter, .otherLetter,
   .nonspacingMark, .spacingMark, .enclosingMark, .decimalNumber, .letterNumber,
   .otherNumber, .connectorPunctuation, .dashPunctuation, .openPunctuation,
   .closePunctuation, .initialPunctuation, .finalPunctuation, .otherPunctuation,
   .mathSymbol, .currencySymbol, .modifierSymbol, .otherSymbol, .spaceSeparator,
   .lineSeparator, .paragraphSeparator, .control, .format, .surrogate, .privateUse,
   .unassigned]

/-- The letter that stands for a category in the table. -/
def letter : Category → Char
  | .uppercaseLetter => 'A'
  | .lowercaseLetter => 'a'
  | .titlecaseLetter => 'T'
  | .modifierLetter => 'm'
  | .otherLetter => 'o'
  | .nonspacingMark => 'n'
  | .spacingMark => 'c'
  | .enclosingMark => 'e'
  | .decimalNumber => 'd'
  | .letterNumber => 'l'
  | .otherNumber => 'N'
  | .connectorPunctuation => 'p'
  | .dashPunctuation => 'q'
  | .openPunctuation => 'r'
  | .closePunctuation => 's'
  | .initialPunctuation => 't'
  | .finalPunctuation => 'u'
  | .otherPunctuation => 'v'
  | .mathSymbol => 'w'
  | .currencySymbol => 'x'
  | .modifierSymbol => 'y'
  | .otherSymbol => 'z'
  | .spaceSeparator => 'Z'
  | .lineSeparator => 'Y'
  | .paragraphSeparator => 'X'
  | .control => 'C'
  | .format => 'F'
  | .surrogate => 'S'
  | .privateUse => 'P'
  | .unassigned => 'U'

example : (all.map letter).Nodup := by decide

def table : Runs :=
  Runs.ofText 1
    (String.join
      ["C32Zv3xv3rsvwvqv2d10v2w3v2A26rvsypya26rwswC33Zvx4zvyzotwFzyzwN2yav2yNouN3vA23wA7a24wa8AaAa",
       "AaAaAaAaAaAaAaAaAaAaAaAaAaAaAaAaAaAaAaAaAaAaAaAaAaAa2AaAaAaAaAaAaAaAa2AaAaAaAaAaAaAaAaAaAa",
       "AaAaAaAaAaAaAaAaAaAaAaAaAaA2aAaAa3A2aAaA2aA3a2A4aA2aA3a3A2aA2aAaAaA2aAa2AaA2aA3aAaA2a2oAa3",
       "o4ATaATaATaAaAaAaAaAaAaAaAa2AaAaAaAaAaAaAaAaAa2ATaAaA3aAaAaAaAaAaAaAaAaAaAaAaAaAaAaAaAaAaA",
       "aAaAaAaAaAaAaAaAaAaAaAa7A2aA2a2AaA4aAaAaAaAa69oa27m18y4m12y14m5y7mymy17n112AaAamyAaU2ma3vA",
       "U4y2AvA3UAUA2aA17UA9a35Aa2A3a3AaAaAaAaAaAaAaAaAaAaAaAa5AawAaA2a2A51a48AaAaAaAaAaAaAaAaAaAa",
       "AaAaAaAaAaAaAazn5e2AaAaAaAaAaAaAaAaAaAaAaAaAaAaAaAaAaAaAaAaAaAaAaAaAaAaAaA2aAaAaAaAaAaAa2A",
       "aAaAaAaAaAaAaAaAaAaAaAaAaAaAaAaAaAaAaAaAaAaAaAaAaAaAaAaAaAaAaAaAaAaAaAaAaAaAaAaAaAaAaAaAaA",
       "aAaAaUA38U2mv6a41vqU2z2xUn45qnvn2vn2vnU8o27U4o4v2U11F6w3v2xv2z2n11vFv3o32mo10n21d10v4o2no9",
       "9von7Fzn6m2n2zn4o2d10o3z2ov14UFono30n27U2o89n11oU14d10o33n9m2zv3mU2nx2o22n4mn9mn3mn5U2v15U",
       "o25n3U2vUo11U5o24yo6UF2U5n9o41mn24Fn32co54ncnoc3n8c4nc2on7o10n2v2d10vmo15nc2Uo8U2o2U2o22Uo",
       "7UoU3o4U2noc3n4U2c2U2c2noU8cU4o2Uo3n2U2d10o2x2N6zxovnU2n2cUo6U4o2U2o22Uo7Uo2Uo2Uo2U2nUc3n2",
       "U4n2U2n3U3nU7o4UoU7d10n2o3nvU10n2cUo9Uo3Uo22Uo7Uo2Uo5U2noc3n5Un2cUc2nU2oU15o2n2U2d10vxU7on",
       "6Unc2Uo8U2o2U2o22Uo7Uo2Uo5U2nocncn4U2c2U2c2nU7n2cU4o2Uo3n2U2d10zoN6U10noUo6U3o3Uo4U3o2UoUo",
       "2U3o2U3o3U3o12U4c2nc2U3c3Uc3nU2oU6cU14d10N3z6xzU5nc3no8Uo3Uo23Uo16U2non3c4Un3Un4U7n2Uo3U2o",
       "U2o2n2U2d10U7vN7zonc2vo8Uo3Uo23Uo10Uo5U2nocnc5Unc2Uc2n2U7c2U6o2Uo2n2U2d10Uo2cU12n2c2o9Uo3U",
       "o41n2oc3n4Uc3Uc3nozU4o3cN7o3n2U2d10N9zo6Unc2Uo18U3o24Uo9UoU2o7U3nU4c3n3UnUc8U6d10U2c2vU12o",
       "48no2n7U4xo6mn8vd10v2U37o2UoUo5Uo24UoUo10no2n9oU2o5UmUn7Ud10U2o4U32oz3v15zvz3n2z6d10N10znz",
       "nznrsrsc2o8Uo36U4n14cn5vn2o5n11Un36Uz8nz6Uz2v5z4v2U37o43c2n4cn6cn2c2n2od10v6o6c2n2o4n3oc3o",
       "2c7o3n4o13nc2n2c6nocd10c3nz2A38UAU5AU2a43vma3o329Uo4U2o7UoUo4U2o41Uo4U2o33Uo4U2o7UoUo4U2o1",
       "5Uo57Uo4U2o67U2n3v9N20U3o16z10U6A86U2a6U2qo620zvo17Zo26rsU3o75v3l3o8U7o18n3cU9o19n2cv2U9o1",
       "8n2U12o13Uo3Un2U12o52n2cn7c8nc2n11v3mv3xonU2d10U6N10U6v6qv4n3Fnd10U6o35mo53U7o5n2o34noU5o7",
       "0U10o31Un3c4n2c3U4c2nc6n3U4zU3v2d10o30U2o5U11o44U4o26U6d10NU3z34o23n2c2nU2v2o53cncn7Uncnc2",
       "n8c6n10U2nd10U6d10U6v7mv6U2n14en16U49n4co47ncn5cnc5nc2o8Uv2d10v7z10n9z9v3n2co30cn4c2n2cn3o",
       "2d10o44ncn2c3ncn3c2U8v4o36c8n8c2n2U3v5d10U3o3d10o30m6v2a9AaU5A43U2A3v8U8n3vn13cn7o4no6no2c",
       "n2oU5a44m63a13ma34m37n64AaAaAaAaAaAaAaAaAaAaAaAaAaAaAaAaAaAaAaAaAaAaAaAaAaAaAaAaAaAaAaAaAa",
       "AaAaAaAaAaAaAaAaAaAaAaAaAaAaAaAaAaAaAaAaAaAaAaAaAaAaAaAaAaAaAaAaAaAaAaAaAaAaAaAaAaAa9AaAaA",
       "aAaAaAaAaAaAaAaAaAaAaAaAaAaAaAaAaAaAaAaAaAaAaAaAaAaAaAaAaAaAaAaAaAaAaAaAaAaAaAaAaAaAaAaAaA",
       "aAa9A8a6U2A6U2a8A8a8A8a6U2A6U2a8UAUAUAUAa8A8a14U2a8T8a8T8a8T8a5Ua2A4Tyay3a3Ua2A4Ty3a4U2a2A",
       "4Uy3a8A5y3U2a3Ua2A4Ty2UZ11F5q6v2turt2urtv8YXF5Zv9tuv4p2v3wrsv11wvpv10ZF5UF10NmU2N6w3rsmN10",
       "w3rsUm13U3x33U15n13e4ne3n12U15z2Az4Az2aA3a2A3azAz2wA5z6AzAzAzA4zaA4ao4az2a2A2w5Aa4zwz2azN1",
       "6l35Aal4Nz2U4w5z5w2z4wz2wz2wz7wz31w2z2wzwz31w268z8rsrsz20w2z7rsz81wz30w25z40w6z72U22z11U21",
       "N60z78N22z183wz9wz54w8z111wz248rsrsrsrsrsrsrsN30z44w5rsw31rsrsrsrsrsw16z256w131rsrsrsrsrsr",
       "srsrsrsrsrsw63rsrsw32rsw258z48w21z2w6z39U2z32Uz105A48a48AaA3a2AaAaAaA4aAa2Aa6m2A3aAaAaAaAa",
       "AaAaAaAaAaAaAaAaAaAaAaAaAaAaAaAaAaAaAaAaAaAaAaAaAaAaAaAaAaAaAaAaAaAaAaAaAaAaAaAaAaAaAaAaAa",
       "2z6AaAan3AaU5v4Nv2a38UaU5aU2o56U7mvU14no23U9o7Uo7Uo7Uo7Uo7Uo7Uo7Uo7Un32v2tutuv3tuvtuv9qv2q",
       "vtuv2tursrsrsrsv5mv10q2v4qvrv13z2v3rsrsrsrsqU34z26Uz89U12z214U26z16Zv3zmolrsrsrsrsrsz2rsrs",
       "rsrsqrs2zl9n4c2qm5z2l3movz2Uo86U2n2y2m2oqo90vm3oU5o43Uo94Uz2N4z10o32z38U9zo16z31UN10z30N8z",
       "N15z32N10z39N15z320o6592z64o21013mo1143U3z55U9o40m6v2o268mv3o16d10o2U20AaAaAaAaAaAaAaAaAaA",
       "aAaAaAaAaAaAaAaAaAaAaAaAaAaone3vn10vmAaAaAaAaAaAaAaAaAaAaAaAaAaAam2n2o70l10n2v6U8y23m9y2Aa",
       "AaAaAaAaAaAa3AaAaAaAaAaAaAaAaAaAaAaAaAaAaAaAaAaAaAaAaAaAaAaAaAaAaAaAaAaAaAama8AaAaA2aAaAaA",
       "aAamy2AaAaoAaAa3AaAaAaAaAaAaAaAaAaAaA5aA5aAaAaAaAaAaAaAaA4aAaA2aU2AaUaUaAaAaAaAU21m3Aaom2a",
       "o7no3no4no23c2n2cz4nU3N6z2xzU6o52v4U8c2o50c16n2U8v2d10U6n18o6v3ovo2nd10o28n8v2o23n11c2U11v",
       "o29U3n3co47nc2n4c2n2c3v13Umd10U4v2o5nmo9d10o5Uo41n6c2n2c2n2U9o3no8ncU2d10U2v4o16mo6z3ocnco",
       "50non3o2n2o5n2onoU24o2mv2o11cn2c2v2om2cnU10o6U2o6U2o6U9o7Uo7Ua43ym4a9my2U4a80o35c2nc2nc2vc",
       "nU2d10U6o11172U12o23U4o49U4S2048P6400o366U2o106U38a7U12a5U5ono10wo13Uo5UoUo2Uo2Uo108y17U16",
       "o363srz16o64U2o54U7zU32o12xz3n16v7rsvU6n16vq2p2rsrsrsrsrsrsrsrsv2rsv4p3v3Uv4qrsrsrsv3wqw3U",
       "vxv2U4o5Uo135U2FUv3xv3rsvwvqv2d10v2w3v2A26rvsypya26rwswrsvrsv2o10mo45m2o31U3o6U2o6U2o6U2o3",
       "U3x2wyzx2Uzw4z2U10F3z2U2o12Uo26Uo19Uo2Uo15U2o14U34o123U5v3U4N45U3z9l53N4z17N2z3Uz13U3zU47z",
       "45nU130o29U3o49U15nN27U4o32N4U9o20lo8lU5o38n5U5o30Uvo36U4o8vl5U42A40a40o78U2d10U6A36U4a36U",
       "4o40U8o52U11vA11UA15UA7UA2Ua11Ua15Ua7Ua2U3o52U12o311U9o22U10o8U24m6Um42Um9U69o6U2oUo44Uo2U",
       "3oU2o23UvN8o23z2N7o31U8N9U48o19Uo2U5N5o22N6U3vo26U5vU64o56U4N2o2N16U2N46on3Un2U5n4o4Uo3Uo2",
       "9U2n3U4nN9U7v9U7o29N2vo29N3U32o8zo28n2U4N5v7U9o54U3v7o22U2N8o19U5N8o18U7v4U12N7U80o73U55A5",
       "1U13a51U7N6o36n4U8d10U6d10o4moA22U3n5qma22U8w2U208N31Uo42Un2qU2o2U16o3U55n4o29N10oU8o22n11",
       "N4v5U22o18n4v4U38o21N7U20o23U9cnco53n15v7U4N20d10no2n2oU9n3co45c3n4c2n2v2Fv4nU10FU2o25U7d1",
       "0U6n3o36n5cn8Ud10v4oc2oU8o35nv2oU9n2co48c3n9c2o4v4n4vcnd10ovov3UN20U11o18Uo25c3n3c2ncn2v6n",
       "o2nU62o7UoUo4Uo15Uo10vU6o47nc3n8U5d10U6n2c2Uo8U2o2U2o22Uo7Uo2Uo5Un2oc2nc4U2c2U2c3U2oU6cU5o",
       "5c2U2n7U3n5U11o10UoU2oUo38Uoc3n6UcU2cUc4Uc2ncnonov2Uv2U8n2U29o53c3n8c2n3cno4v5d10v2Uvno3U3",
       "0o48c3n6cnc4n2cn2o2voU8d10U166o47c3n4U2c4n2cn2v23o4n2U34o48c3n8c2ncn2v3oU11d10U6v13U19o43n",
       "cnc2n6cnovU6d10U6d20U28o27U2ncnc2n4cn5U4d10N2v3zo7U185o44c3n9cn2vU100A32a32d10N9U12o8U2oU2",
       "o8Uo2Uo24c6Uc2U2n2cnococnv3U9d10U70o8U2o39c3n4U2n2c4novocU27on10o40n6con4v8nU8on6c2n3o46n1",
       "3cn2v3ov5U13o73U7v10U182o33vU14d10U6o9Uo37cn7Un6cnov5U10d10N19U3v2o30U2n22Ucn7cn2cn2U73o7U",
       "o2Uo38n6U3nUn2Un7onU8d10U6o6Uo2Uo32c5Un2Uc2ncnoU7d10U310o19n2c2v2U7n2oco13Uo34c2n5U3c2ncnv",
       "13d10nU85oU15N21z8x4z17U13vo922U102l111Uv5U11o196U2636o97v2U13o1072F16no6n15U10o3995U5o583",
       "U6841o30n12c3n3d10U1734o569U7o31Ud10U4v2o79Ud10U6o30U2n5vU10o48n7v5z4m4vzU10d10UN7Uo21U5o1",
       "9U432m3o40m2v3d10U198A32a32N23v4U101o75U4noc55U7n4m13U64m2vmnU11c2U14o6136U8o1238U41o10U89",
       "35m4Um7Um2Uo291U15oU29o3U2oU14o4U8o396U2308o107U5o13U3o9U7o10U2zn2vF4U3932z240d10U6z436U76",
       "n46U2n23U9z116U60z246U10z39U2z60c2n3z3c6F8n8z2n7z30n4z61U21z66n3zU122N20U12N20U12z87U9N25U",
       "135A26a26A26a7Ua18A26a26AUA2U2AU2A2U2A4UA8a4UaUa7Ua11A26a26A2UA4U2A8UA7Ua26A2UA4UA5UAU3A7U",
       "a26A26a26A26a26A26a26A26a26A26a26A26a28U2A25wa25wa6A25wa25wa6A25wa25wa6A25wa25wa6A25wa25wa",
       "6AaU2d50z512n55z4n50z8nz14nz2v5U15n5Un15U1104a10oa20U6a6U213n7Un17U2n7Un2Un5U5m62U33nU112o",
       "45U3n7m7U2d10U4ozU320o30nU17o44n4d10U5xU464o27mn4d10U214o30n2od10U4vU480o7Uo4Uo2Uo15Uo197U",
       "2N9n7U41A34a34n7mU4d10U4v2U785N59zN3xN4U76N45zN15U194o4Uo27Uo2UoU2oUo10Uo4UoUoU6oU4oUoUoUo",
       "3Uo2UoU2oUoUoUoUoUo2UoU2o4Uo7Uo4Uo4UoUo10Uo17U5o3Uo5Uo17U52w2U270z44U4z100U12z15U2z15Uz15U",
       "z37U10N13z161U56z29U13z44U4z9U7z2U14z6U154z251y5z728U4z17U3z13U3z119U4z95U6z12U4zU15z12U4z",
       "56U8z10U6z40U8z30U2z12U4z2U62z340U12z14U2z13U3z10U5z56U7z15U2z11U6z9U7z147Uz92d10U1030o427",
       "20U32o4154U6o222U2o5762U14o7473U15o622U2466o542U1506o4939U5o4192U711761FU30F96U128n240U650",
       "40P65534U2P65534U2"])

def codeSet (members : List Category) : CodeSet :=
  table.select fun label => members.any fun category => label == [category.letter]

end Category

end PageSketch.Unicode
