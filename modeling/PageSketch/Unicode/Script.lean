import PageSketch.Unicode.Runs

/-! # Scripts of code points

Every code point belongs to one script. In the table a script is written with two
letters, its number among the names in base twenty-six. -/

namespace PageSketch.Unicode.Script

/-- The names of the scripts, the short one first. -/
def names : List (String × String) :=
  [("Adlm", "Adlam"), ("Ahom", "Ahom"), ("Hluw", "Anatolian_Hieroglyphs"),
   ("Arab", "Arabic"), ("Armn", "Armenian"), ("Avst", "Avestan"), ("Bali", "Balinese"),
   ("Bamu", "Bamum"), ("Bass", "Bassa_Vah"), ("Batk", "Batak"), ("Beng", "Bengali"),
   ("Bhks", "Bhaiksuki"), ("Bopo", "Bopomofo"), ("Brah", "Brahmi"), ("Brai", "Braille"),
   ("Bugi", "Buginese"), ("Buhd", "Buhid"), ("Cans", "Canadian_Aboriginal"),
   ("Cari", "Carian"), ("Aghb", "Caucasian_Albanian"), ("Cakm", "Chakma"), ("Cham", "Cham"),
   ("Cher", "Cherokee"), ("Chrs", "Chorasmian"), ("Zyyy", "Common"), ("Copt", "Coptic"),
   ("Xsux", "Cuneiform"), ("Cprt", "Cypriot"), ("Cpmn", "Cypro_Minoan"),
   ("Cyrl", "Cyrillic"), ("Dsrt", "Deseret"), ("Deva", "Devanagari"),
   ("Diak", "Dives_Akuru"), ("Dogr", "Dogra"), ("Dupl", "Duployan"),
   ("Egyp", "Egyptian_Hieroglyphs"), ("Elba", "Elbasan"), ("Elym", "Elymaic"),
   ("Ethi", "Ethiopic"), ("Gara", "Garay"), ("Geor", "Georgian"), ("Glag", "Glagolitic"),
   ("Goth", "Gothic"), ("Gran", "Grantha"), ("Grek", "Greek"), ("Gujr", "Gujarati"),
   ("Gong", "Gunjala_Gondi"), ("Guru", "Gurmukhi"), ("Gukh", "Gurung_Khema"),
   ("Hani", "Han"), ("Hang", "Hangul"), ("Rohg", "Hanifi_Rohingya"), ("Hano", "Hanunoo"),
   ("Hatr", "Hatran"), ("Hebr", "Hebrew"), ("Hira", "Hiragana"),
   ("Armi", "Imperial_Aramaic"), ("Zinh", "Inherited"), ("Phli", "Inscriptional_Pahlavi"),
   ("Prti", "Inscriptional_Parthian"), ("Java", "Javanese"), ("Kthi", "Kaithi"),
   ("Knda", "Kannada"), ("Kana", "Katakana"), ("Kawi", "Kawi"), ("Kali", "Kayah_Li"),
   ("Khar", "Kharoshthi"), ("Kits", "Khitan_Small_Script"), ("Khmr", "Khmer"),
   ("Khoj", "Khojki"), ("Sind", "Khudawadi"), ("Krai", "Kirat_Rai"), ("Laoo", "Lao"),
   ("Latn", "Latin"), ("Lepc", "Lepcha"), ("Limb", "Limbu"), ("Lina", "Linear_A"),
   ("Linb", "Linear_B"), ("Lisu", "Lisu"), ("Lyci", "Lycian"), ("Lydi", "Lydian"),
   ("Mahj", "Mahajani"), ("Maka", "Makasar"), ("Mlym", "Malayalam"), ("Mand", "Mandaic"),
   ("Mani", "Manichaean"), ("Marc", "Marchen"), ("Gonm", "Masaram_Gondi"),
   ("Medf", "Medefaidrin"), ("Mtei", "Meetei_Mayek"), ("Mend", "Mende_Kikakui"),
   ("Merc", "Meroitic_Cursive"), ("Mero", "Meroitic_Hieroglyphs"), ("Plrd", "Miao"),
   ("Modi", "Modi"), ("Mong", "Mongolian"), ("Mroo", "Mro"), ("Mult", "Multani"),
   ("Mymr", "Myanmar"), ("Nbat", "Nabataean"), ("Nagm", "Nag_Mundari"),
   ("Nand", "Nandinagari"), ("Talu", "New_Tai_Lue"), ("Newa", "Newa"), ("Nkoo", "Nko"),
   ("Nshu", "Nushu"), ("Hmnp", "Nyiakeng_Puachue_Hmong"), ("Ogam", "Ogham"),
   ("Olck", "Ol_Chiki"), ("Onao", "Ol_Onal"), ("Hung", "Old_Hungarian"),
   ("Ital", "Old_Italic"), ("Narb", "Old_North_Arabian"), ("Perm", "Old_Permic"),
   ("Xpeo", "Old_Persian"), ("Sogo", "Old_Sogdian"), ("Sarb", "Old_South_Arabian"),
   ("Orkh", "Old_Turkic"), ("Ougr", "Old_Uyghur"), ("Orya", "Oriya"), ("Osge", "Osage"),
   ("Osma", "Osmanya"), ("Hmng", "Pahawh_Hmong"), ("Palm", "Palmyrene"),
   ("Pauc", "Pau_Cin_Hau"), ("Phag", "Phags_Pa"), ("Phnx", "Phoenician"),
   ("Phlp", "Psalter_Pahlavi"), ("Rjng", "Rejang"), ("Runr", "Runic"),
   ("Samr", "Samaritan"), ("Saur", "Saurashtra"), ("Shrd", "Sharada"), ("Shaw", "Shavian"),
   ("Sidd", "Siddham"), ("Sgnw", "SignWriting"), ("Sinh", "Sinhala"), ("Sogd", "Sogdian"),
   ("Sora", "Sora_Sompeng"), ("Soyo", "Soyombo"), ("Sund", "Sundanese"),
   ("Sunu", "Sunuwar"), ("Sylo", "Syloti_Nagri"), ("Syrc", "Syriac"), ("Tglg", "Tagalog"),
   ("Tagb", "Tagbanwa"), ("Tale", "Tai_Le"), ("Lana", "Tai_Tham"), ("Tavt", "Tai_Viet"),
   ("Takr", "Takri"), ("Taml", "Tamil"), ("Tnsa", "Tangsa"), ("Tang", "Tangut"),
   ("Telu", "Telugu"), ("Thaa", "Thaana"), ("Thai", "Thai"), ("Tibt", "Tibetan"),
   ("Tfng", "Tifinagh"), ("Tirh", "Tirhuta"), ("Todr", "Todhri"), ("Toto", "Toto"),
   ("Tutg", "Tulu_Tigalari"), ("Ugar", "Ugaritic"), ("Zzzz", "Unknown"), ("Vaii", "Vai"),
   ("Vith", "Vithkuqi"), ("Wcho", "Wancho"), ("Wara", "Warang_Citi"), ("Yezi", "Yezidi"),
   ("Yiii", "Yi"), ("Zanb", "Zanabazar_Square")]

def table : Runs :=
  Runs.ofText 2
    (String.join
      ["ay65cv26ay6cv26ay47cvay15cvay5cv23aycv31aycv449ay39cv5ay5am2ay20cf112bs4aybs3gh2bs4aybsgh4",
       "bsaybsaybs3ghbsghbs20ghbs63az14bs16bd133cf2bd169ghae38gh2ae50gh2ae3ghcc55gh8cc27gh4cc6gh11",
       "ad5ayad6ayad14ayad3ayad32ayad10cf11ad26cfad108ayad34fn14ghfn60gh2fn3ad48fy50gh14ea59gh2ea3",
       "fa46gh2fa15ghdg28gh2dgghfn11gh5ad31ghad2gh5ad75ayad29bf81cf4bf15ay2bf26ak4ghak8gh2ak2gh2ak",
       "22ghak7ghakgh3ak4gh2ak9gh2ak2gh2ak4gh8akgh4ak2ghak5gh2ak25gh2bv3ghbv6gh4bv2gh2bv22ghbv7ghb",
       "v2ghbv2ghbv2gh2bvghbv5gh4bv2gh2bv3gh3bvgh7bv4ghbvgh7bv17gh10bt3ghbt9ghbt3ghbt22ghbt7ghbt2g",
       "hbt5gh2bt10ghbt3ghbt3gh2btgh15bt4gh2bt12gh7bt7ghep3ghep8gh2ep2gh2ep22ghep7ghep2ghep5gh2ep9",
       "gh2ep2gh2ep3gh7ep3gh4ep2ghep5gh2ep18gh10fu2ghfu6gh3fu3ghfu4gh3fu2ghfughfu2gh3fu2gh3fu3gh3f",
       "u12gh4fu5gh3fu3ghfu4gh2fugh6fugh14fu21gh5fx13ghfx3ghfx23ghfx16gh2fx9ghfx3ghfx4gh7fx2ghfx3g",
       "h2fxgh2fx4gh2fx10gh7fx9ck13ghck3ghck23ghck10ghck5gh2ck9ghck3ghck4gh7ck2gh6ck2ghck4gh2ck10g",
       "hck3gh12df13ghdf3ghdf51ghdf3ghdf6gh4df16gh2df26ghfg3ghfg18gh3fg24ghfg9ghfggh2fg7gh3fggh4fg",
       "6ghfgghfg8gh6fg10gh2fg3gh12fz58gh4ayfz28gh37cu2ghcughcu5ghcu24ghcughcu23gh2cu5ghcughcu7ghc",
       "u10gh2cu4gh32ga72ghga36gh4ga39ghga36ghga15ghga7ay4ga2gh37du160bo38ghbogh5bogh2bo43aybo4by2",
       "56bm73ghbm4gh2bm7ghbmghbm4gh2bm41ghbm4gh2bm33ghbm4gh2bm7ghbmghbm4gh2bm15ghbm57ghbm4gh2bm67",
       "gh2bm32gh3bm26gh6aw86gh2aw6gh2ar640ed29gh3ez75ay3ez11gh7fo22gh9foca21ay2gh9aq20gh12fp13ghf",
       "p3ghfp2gh12cq94gh2cq10gh6cq10gh6dr2ay2draydr20gh6dr89gh7dr43gh5ar70gh10cx31ghcx12gh4cx12gh",
       "4cxgh3cx12fq30gh2fq5gh11dy44gh4dy26gh6dy11gh3dy2cq32ap28gh2ap2fr63ghfr29gh2fr11gh6fr10gh6f",
       "r14gh2cf31gh49ag77ghag50fk64aj52gh8aj4cw56gh3cw15gh3cw3ee48bd11gh5bo43gh2bo3fk8gh8cf3aycf1",
       "3aycf7ay4cfay6cfay3cf2aygh5cv38bs5bdcv49bs5cv4bs5cv13bdcv70bscf64cv256bs22gh2bs6gh2bs38gh2",
       "bs6gh2bs8ghbsghbsghbsghbs31gh2bs53ghbs15ghbs14gh2bs6ghbs19gh2bs3ghbs9ghay12cf2ay87ghay11cv",
       "gh2ay11cvay15ghcv13gh3ay33gh15cf33gh15ay38bsay3cv2ay6cvay27cvay17cv41ay3gh4ay666gh22ay11gh",
       "21ay928ao256ay628gh2ay32ghay105bp96cv32az116gh5az7bo38ghbogh5bogh2gb56gh7gb2gh14gbbm23gh9b",
       "m7ghbm7ghbm7ghbm7ghbm7ghbm7ghbm7ghbm7ghbd32ay94gh34bx26ghbx89gh12bx214gh26ay21bxaybxay25bx",
       "9cf4by2ay8bx4ay4ghcd86gh2cf2ay2cd3aycl90ay2cl3gh5am43ghby94ghay16am32ay38gh9aycl16by31ghay",
       "64by31ay81cl47aycl88ay168bx6592ay64bx20992gn1165gh3gn55gh9da48gi300gh20bd96ah88gh8ay34cv10",
       "2ay3cv67gh2cv2ghcvghcv8gh21cv14fm45gh3ay10gh6ev56gh8fb70gh8fb12gh6bf32cn46aycney36gh11eyby",
       "29gh3ci78ghayci10gh4ci2du31ghav55gh9av14gh2av10gh2av4du32fs67gh24fs5dl23gh10bm6gh2bm6gh2bm",
       "6gh9bm7ghbm7ghcv43aycv9bscv4ay2gh4aw80dl46gh2dl10gh6by11172gh12by23gh4by49gh8452bx366gh2bx",
       "106gh38cv7gh12ae5gh5cc26ghcc5ghccghcc2ghcc2ghcc10ad115gh16ad363ay2ad80gh2ad54gh7adgh32ad16",
       "cf16ay10gh6cf14bd2ay35ghay19ghay4gh4ad5ghad135gh2ayghay32cv26ay6cv26ay11cl10aycl45ay2by31g",
       "h3by6gh2by6gh2by6gh2by3gh3ay7ghay7gh10ay5gh2cz12ghcz26ghcz19ghcz2ghcz15gh2cz14gh34cz123gh5",
       "ay3gh4ay45gh3ay9bs79ghay13gh3bsgh47ay45cfgh130db29gh3as49gh15cfay27gh4eh36gh9eh3bq27gh5ej4",
       "3gh5gg30ghggek36gh4ek14gh42be80fd48er30gh2er10gh6eq36gh4eq36gh4bk40gh8at52gh11atgj11ghgj15",
       "ghgj7ghgj2ghgj11ghgj15ghgj7ghgj2gh3gd52gh12cy311gh9cy22gh10cy8gh24cv6ghcv42ghcv9gh69bb6gh2",
       "bbghbb44ghbb2gh3bbgh2bbce22ghce9et32dv31gh8dv9gh48cb19ghcb2gh5cb5ew28gh3ewdc26gh5dcgh64do3",
       "2dn24gh4dn20gh2dn46co4ghco2gh5co8ghco3ghco29gh2co3gh4co10gh7co9gh7em32ei32gh32dh39gh4dh12g",
       "h9af54gh3af7ch22gh2ch8cg19gh5cg8ex18gh7ex4gh12ex7gh80en73gh55eg51gh13eg51gh7eg6bz40gh8bz10",
       "gh6bn38gh3bn29gh8bn2gh208ad31ghgm42ghgm3gh2gm2gh16ad3gh55ad4el40gh8fh42gh22eo26gh38ax28gh2",
       "0bl23gh9an78gh4an36gh9ancj67gh10cjgh2fi25gh7fi10gh6au53ghau18gh8dd39gh9fc96ghfg20gh11cr18g",
       "hcr47gh62dt7ghdtghdt4ghdt15ghdt11gh6cs59gh5cs10gh6br4ghbr8gh2br2gh2br22ghbr7ghbr2ghbr5ghcf",
       "br9gh2br2gh2br3gh2brgh6brgh5br7gh2br7gh3br5gh11gf10ghgfgh2gfghgf38ghgf10ghgfgh2gfghgf4ghgf",
       "10ghgf2gh8gf2gh29dz92ghdz5gh30gc72gh8gc10gh166fe54gh2fe38gh34dq69gh11dq10gh6dr13gh19ft58gh",
       "6ft10gh6du20gh28ab27gh2ab15gh4ab23gh185bh60gh100gl83gh12glbg7gh2bggh2bg8ghbg2ghbg30ghbg2gh",
       "2bg12gh9bg10gh70dx8gh2dx46gh2dx11gh27go72gh8fj83gh13ar16eu57gh7bf10gh182fl34gh14fl10gh6al9",
       "ghal45ghal14gh10al29gh3di32gh2di22ghdi14gh73dj7ghdj2ghdj44gh3djghdj2ghdj9gh8dj10gh6bu6ghbu",
       "2ghbu37ghbu2ghbu6gh7bu10gh310de25gh7cm17ghcm41gh3cm29gh85dagh15fu50gh13fuba922gh102ba111gh",
       "ba5gh11ba196gh2636bc99gh13bj1110gh10bj3995gh5ac583gh6841bw58gh1734ah569gh7ds31ghds10gh4ds2",
       "fv79ghfv10gh6ai30gh2ai6gh10es70gh10es10ghes7ghes21gh5es19gh432ct58gh198dk91gh101dp75gh4dp5",
       "7gh7dp17gh64fwebbx2cpgh11bx2gh14fw6136gh8fw768cp470gh41cpfw9gh8935cl4ghcl7ghcl2ghclcd287cl",
       "3gh15cdgh29cd3gh2clgh14cl4gh8eb396gh2308bi107gh5bi13gh3bi9gh7bi10gh2bi4ay4gh3932ay250gh6ay",
       "436gh76cf46gh2cf23gh9ay116gh60ay246gh10ay39gh2ay62cf3ay17cf8ay2cf7ay30cf4ay61gh21bs70gh122",
       "ay20gh12ay20gh12ay87gh9ay25gh135ay85ghay71ghay2gh2aygh2ay2gh2ay4ghay12ghayghay7ghay65ghay4",
       "gh2ay8ghay7ghay28ghay4ghay5ghaygh3ay7ghay340gh2ay292gh2ay50ff652gh15ff5ghff15gh1104cv31gh6",
       "cv6gh213bp7ghbp17gh2bp7ghbp2ghbp5gh5bd62gh33bdgh112ec45gh3ec14gh2ec10gh4ec2gh320ge31gh17gk",
       "58gh5gkgh464dw42gh214ef43gh4efgh480bm7ghbm4ghbm2ghbm15ghdm197gh2dm16gh41aa76gh4aa10gh4aa2g",
       "h785ay68gh76ay61gh194ad4ghad27ghad2ghadgh2adghad10ghad4ghadghadgh6adgh4adghadghadghad3ghad",
       "2ghadgh2adghadghadghadghadghad2ghadgh2ad4ghad7ghad4ghad4ghadghad10ghad17gh5ad3ghad5ghad17g",
       "h52ad2gh270ay44gh4ay100gh12ay15gh2ay15ghay15ghay37gh10ay174gh56ay26cday2gh13ay44gh4ay9gh7a",
       "y2gh14ay6gh154ay984gh4ay17gh3ay13gh3ay119gh4ay95gh6ay12gh4aygh15ay12gh4ay56gh8ay10gh6ay40g",
       "h8ay30gh2ay12gh4ay2gh62ay340gh12ay14gh2ay13gh3ay10gh5ay56gh7ay15gh2ay11gh6ay9gh7ay147ghay1",
       "02gh1030bx42720gh32bx4154gh6bx222gh2bx5762gh14bx7473gh15bx622gh2466bx542gh1506bx4939gh5bx4",
       "192gh711761aygh30ay96gh128cf240gh196112"])

def label (number : Nat) : List Char :=
  [Char.ofNat ('a'.toNat + number / 26), Char.ofNat ('a'.toNat + number % 26)]

def codeSet (number : Nat) : CodeSet := table.select (· == label number)

end PageSketch.Unicode.Script
