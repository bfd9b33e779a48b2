import PageSketch.Unicode.Script

/-! # Scripts in which code points are used

Most code points are used in their own script alone. Some are shared by several, or
used in others than their own. -/

namespace PageSketch.Unicode.ScriptExtension

/-- The code points that are not used in exactly their own script, with the short
names of the scripts in which they are. -/
def shared : List (CodeRange × String) :=
  [(⟨183, 183⟩,
      "Avst Cari Copt Dupl Elba Geor Glag Gong Goth Grek Hani Latn Lydi Mahj Perm Shaw"),
   (⟨700, 700⟩, "Beng Cyrl Deva Latn Lisu Thai Toto"), (⟨711, 711⟩, "Bopo Latn"),
   (⟨713, 715⟩, "Bopo Latn"), (⟨717, 717⟩, "Latn Lisu"), (⟨727, 727⟩, "Latn Thai"),
   (⟨729, 729⟩, "Bopo Latn"), (⟨768, 768⟩, "Cher Copt Cyrl Grek Latn Perm Sunu Tale"),
   (⟨769, 769⟩, "Cher Cyrl Grek Latn Osge Sunu Tale Todr"),
   (⟨770, 770⟩, "Cher Cyrl Latn Tfng"), (⟨771, 771⟩, "Glag Latn Sunu Syrc Thai"),
   (⟨772, 772⟩, "Aghb Cher Copt Cyrl Goth Grek Latn Osge Syrc Tfng Todr"),
   (⟨773, 773⟩, "Copt Elba Glag Goth Kana Latn"), (⟨774, 774⟩, "Cyrl Grek Latn Perm"),
   (⟨775, 775⟩, "Copt Dupl Hebr Latn Perm Syrc Tale Tfng Todr"),
   (⟨776, 776⟩, "Armn Cyrl Dupl Goth Grek Hebr Latn Perm Syrc Tale"),
   (⟨777, 777⟩, "Latn Tfng"), (⟨778, 778⟩, "Dupl Latn Syrc"),
   (⟨779, 779⟩, "Cher Cyrl Latn Osge"), (⟨780, 780⟩, "Cher Latn Tale"),
   (⟨781, 781⟩, "Latn Sunu"), (⟨782, 782⟩, "Ethi Latn"), (⟨784, 784⟩, "Latn Sunu"),
   (⟨785, 785⟩, "Cyrl Latn Todr"), (⟨787, 787⟩, "Grek Latn Perm Todr"),
   (⟨800, 800⟩, "Latn Syrc"), (⟨803, 803⟩, "Cher Dupl Kana Latn Syrc"),
   (⟨804, 804⟩, "Cher Dupl Latn Syrc"), (⟨805, 805⟩, "Latn Syrc"),
   (⟨813, 813⟩, "Latn Sunu Syrc"), (⟨814, 814⟩, "Latn Syrc"), (⟨816, 816⟩, "Cher Latn Syrc"),
   (⟨817, 817⟩, "Aghb Cher Goth Latn Sunu Thai"), (⟨834, 834⟩, "Grek"), (⟨837, 837⟩, "Grek"),
   (⟨856, 856⟩, "Latn Osge"), (⟨862, 862⟩, "Aghb Latn Todr"), (⟨867, 879⟩, "Latn"),
   (⟨884, 885⟩, "Copt Grek"), (⟨1155, 1155⟩, "Cyrl Perm"), (⟨1156, 1156⟩, "Cyrl Glag"),
   (⟨1157, 1158⟩, "Cyrl Latn"), (⟨1159, 1159⟩, "Cyrl Glag"), (⟨1417, 1417⟩, "Armn Geor Glag"),
   (⟨1548, 1548⟩, "Arab Gara Nkoo Rohg Syrc Thaa Yezi"),
   (⟨1563, 1563⟩, "Arab Gara Nkoo Rohg Syrc Thaa Yezi"), (⟨1564, 1564⟩, "Arab Syrc Thaa"),
   (⟨1567, 1567⟩, "Adlm Arab Gara Nkoo Rohg Syrc Thaa Yezi"),
   (⟨1600, 1600⟩, "Adlm Arab Mand Mani Ougr Phlp Rohg Sogd Syrc"), (⟨1611, 1621⟩, "Arab Syrc"),
   (⟨1632, 1641⟩, "Arab Thaa Yezi"), (⟨1648, 1648⟩, "Arab Syrc"), (⟨1748, 1748⟩, "Arab Rohg"),
   (⟨2385, 2385⟩, "Beng Deva Gran Gujr Guru Knda Latn Mlym Orya Shrd Taml Telu Tirh"),
   (⟨2386, 2386⟩, "Beng Deva Gran Gujr Guru Knda Latn Mlym Orya Taml Telu Tirh"),
   (⟨2404, 2404⟩,
      "Beng Deva Dogr Gong Gonm Gran Gujr Guru Knda Mahj Mlym Nand Onao Orya Sind Sinh " ++
      "Sylo Takr Taml Telu Tirh"),
   (⟨2405, 2405⟩,
      "Beng Deva Dogr Gong Gonm Gran Gujr Gukh Guru Knda Limb Mahj Mlym Nand Onao Orya " ++
      "Sind Sinh Sylo Takr Taml Telu Tirh"),
   (⟨2406, 2415⟩, "Deva Dogr Kthi Mahj"), (⟨2534, 2543⟩, "Beng Cakm Sylo"),
   (⟨2662, 2671⟩, "Guru Mult"), (⟨2790, 2799⟩, "Gujr Khoj"), (⟨3046, 3059⟩, "Gran Taml"),
   (⟨3302, 3311⟩, "Knda Nand Tutg"), (⟨4160, 4169⟩, "Cakm Mymr Tale"),
   (⟨4347, 4347⟩, "Geor Glag Latn"), (⟨5867, 5869⟩, "Runr"),
   (⟨5941, 5942⟩, "Buhd Hano Tagb Tglg"), (⟨6146, 6147⟩, "Mong Phag"),
   (⟨6149, 6149⟩, "Mong Phag"), (⟨7376, 7376⟩, "Beng Deva Gran Knda"), (⟨7377, 7377⟩, "Deva"),
   (⟨7378, 7378⟩, "Beng Deva Gran Knda"), (⟨7379, 7379⟩, "Deva Gran Knda"),
   (⟨7380, 7380⟩, "Deva"), (⟨7381, 7382⟩, "Beng Deva"), (⟨7383, 7383⟩, "Deva Shrd"),
   (⟨7384, 7384⟩, "Beng Deva"), (⟨7385, 7385⟩, "Deva Shrd"),
   (⟨7386, 7386⟩, "Deva Knda Mlym Orya Taml Telu"), (⟨7387, 7387⟩, "Deva"),
   (⟨7388, 7389⟩, "Deva Shrd"), (⟨7390, 7391⟩, "Deva"), (⟨7392, 7392⟩, "Deva Shrd"),
   (⟨7393, 7393⟩, "Beng Deva"), (⟨7394, 7400⟩, "Deva"), (⟨7401, 7401⟩, "Deva Nand"),
   (⟨7402, 7402⟩, "Beng Deva"), (⟨7403, 7404⟩, "Deva"), (⟨7405, 7405⟩, "Beng Deva"),
   (⟨7406, 7409⟩, "Deva"),
   (⟨7410, 7410⟩, "Beng Deva Gran Knda Mlym Nand Orya Sinh Telu Tirh Tutg"),
   (⟨7411, 7411⟩, "Deva Gran"), (⟨7412, 7412⟩, "Deva Gran Knda Tutg"),
   (⟨7413, 7414⟩, "Beng Deva"), (⟨7415, 7415⟩, "Beng"), (⟨7416, 7417⟩, "Deva Gran"),
   (⟨7418, 7418⟩, "Nand"), (⟨7616, 7617⟩, "Grek"), (⟨7672, 7672⟩, "Cyrl Latn Syrc"),
   (⟨7674, 7674⟩, "Syrc"), (⟨8239, 8239⟩, "Latn Mong Phag"), (⟨8271, 8271⟩, "Adlm Arab"),
   (⟨8282, 8282⟩, "Cari Geor Glag Hung Lyci Orkh"), (⟨8285, 8285⟩, "Cari Grek Hung Mero"),
   (⟨8432, 8432⟩, "Deva Gran Latn"), (⟨11799, 11799⟩, "Copt Latn"),
   (⟨11824, 11824⟩, "Avst Orkh"), (⟨11825, 11825⟩, "Avst Cari Geor Hung Kthi Lydi Samr"),
   (⟨11836, 11836⟩, "Dupl"), (⟨11841, 11841⟩, "Adlm Arab Hung"), (⟨11843, 11843⟩, "Cyrl Glag"),
   (⟨12272, 12287⟩, "Hani Tang"), (⟨12289, 12289⟩, "Bopo Hang Hani Hira Kana Mong Yiii"),
   (⟨12290, 12290⟩, "Bopo Hang Hani Hira Kana Mong Phag Yiii"),
   (⟨12291, 12291⟩, "Bopo Hang Hani Hira Kana"), (⟨12294, 12294⟩, "Hani"),
   (⟨12296, 12297⟩, "Bopo Hang Hani Hira Kana Mong Tibt Yiii"),
   (⟨12298, 12299⟩, "Bopo Hang Hani Hira Kana Lisu Mong Tibt Yiii"),
   (⟨12300, 12305⟩, "Bopo Hang Hani Hira Kana Yiii"),
   (⟨12307, 12307⟩, "Bopo Hang Hani Hira Kana"),
   (⟨12308, 12315⟩, "Bopo Hang Hani Hira Kana Yiii"),
   (⟨12316, 12319⟩, "Bopo Hang Hani Hira Kana"), (⟨12330, 12333⟩, "Bopo Hani"),
   (⟨12336, 12336⟩, "Bopo Hang Hani Hira Kana"), (⟨12337, 12341⟩, "Hira Kana"),
   (⟨12343, 12343⟩, "Bopo Hang Hani Hira Kana"), (⟨12348, 12349⟩, "Hani Hira Kana"),
   (⟨12350, 12351⟩, "Hani"), (⟨12441, 12444⟩, "Hira Kana"), (⟨12448, 12448⟩, "Hira Kana"),
   (⟨12539, 12539⟩, "Bopo Hang Hani Hira Kana Yiii"), (⟨12540, 12540⟩, "Hira Kana"),
   (⟨12688, 12703⟩, "Hani"), (⟨12736, 12773⟩, "Hani"), (⟨12783, 12783⟩, "Hani Tang"),
   (⟨12832, 12871⟩, "Hani"), (⟨12928, 12976⟩, "Hani"), (⟨12992, 13003⟩, "Hani"),
   (⟨13055, 13055⟩, "Hani"), (⟨13144, 13168⟩, "Hani"), (⟨13179, 13183⟩, "Hani"),
   (⟨13280, 13310⟩, "Hani"), (⟨42607, 42607⟩, "Cyrl Glag"), (⟨42752, 42759⟩, "Hani Latn"),
   (⟨43056, 43058⟩,
      "Deva Dogr Gujr Guru Khoj Knda Kthi Mahj Mlym Modi Nand Shrd Sind Takr Tirh Tutg"),
   (⟨43059, 43061⟩,
      "Deva Dogr Gujr Guru Khoj Knda Kthi Mahj Modi Nand Shrd Sind Takr Tirh Tutg"),
   (⟨43062, 43063⟩, "Deva Dogr Gujr Guru Khoj Kthi Mahj Modi Sind Takr Tirh"),
   (⟨43064, 43064⟩, "Deva Dogr Gujr Guru Khoj Kthi Mahj Modi Shrd Sind Takr Tirh"),
   (⟨43065, 43065⟩, "Deva Dogr Gujr Guru Khoj Kthi Mahj Modi Sind Takr Tirh"),
   (⟨43249, 43249⟩, "Beng Deva Tutg"), (⟨43251, 43251⟩, "Deva Taml"),
   (⟨43310, 43310⟩, "Kali Latn Mymr"), (⟨43471, 43471⟩, "Bugi Java"),
   (⟨64830, 64831⟩, "Arab Nkoo"), (⟨65010, 65010⟩, "Arab Thaa"), (⟨65021, 65021⟩, "Arab Thaa"),
   (⟨65093, 65094⟩, "Bopo Hang Hani Hira Kana"),
   (⟨65377, 65381⟩, "Bopo Hang Hani Hira Kana Yiii"), (⟨65392, 65392⟩, "Hira Kana"),
   (⟨65438, 65439⟩, "Hira Kana"), (⟨65792, 65793⟩, "Cpmn Cprt Linb"),
   (⟨65794, 65794⟩, "Cprt Linb"), (⟨65799, 65843⟩, "Cprt Lina Linb"),
   (⟨65847, 65855⟩, "Cprt Linb"), (⟨66272, 66299⟩, "Arab Copt"), (⟨68338, 68338⟩, "Mani Ougr"),
   (⟨70401, 70401⟩, "Gran Taml"), (⟨70403, 70403⟩, "Gran Taml"), (⟨70459, 70460⟩, "Gran Taml"),
   (⟨73680, 73681⟩, "Gran Taml"), (⟨73683, 73683⟩, "Gran Taml"), (⟨113824, 113827⟩, "Dupl"),
   (⟨119648, 119665⟩, "Hani"), (⟨127568, 127569⟩, "Hani")]

def codeSet (number : Nat) : CodeSet :=
  let short := (Script.names[number]?).elim "" (·.1)
  let own := (Script.codeSet number).difference (.ofRanges (shared.map (·.1)))
  .ofRanges (own.ranges ++
    (shared.filter fun entry => (entry.2.splitOn " ").contains short).map (·.1))

end PageSketch.Unicode.ScriptExtension
