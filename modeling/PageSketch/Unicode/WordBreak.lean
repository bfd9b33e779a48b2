import PageSketch.Unicode.Runs

/-! # Word breaks

The table says what part each code point has in words. A dash marks those that have
none. -/

namespace PageSketch.Unicode.WordBreak

/-- The values, each with its letter in the table and its names. -/
def values : List (Char × List String) :=
  [('a', ["le", "aletter"]), ('h', ["hl", "hebrewletter"]), ('k', ["ka", "katakana"]),
   ('n', ["nu", "numeric"]), ('e', ["ex", "extendnumlet"]), ('m', ["ml", "midletter"]),
   ('u', ["mn", "midnum"]), ('b', ["mb", "midnumlet"]), ('s', ["sq", "singlequote"]),
   ('d', ["dq", "doublequote"]), ('x', ["extend"]), ('o', ["fo", "format"]),
   ('i', ["ri", "regionalindicator"]), ('z', ["zwj"]), ('w', ["wsegspace"]), ('r', ["cr"]),
   ('f', ["lf"]), ('l', ["nl", "newline"])]

def table : Runs :=
  Runs.ofText 1
    (String.join
      ["-10fl2r-18w-d-4s-4u-b-n10mu-5a26-4e-a26-10l-36a-2o-7a-m-2a-5a23-a31-a480-6a34x112a5-a2-2a4",
       "ua-6ama3-a-a20-a83-a139-x7a166-a38-2a4-ama41ua-6x45-x-x2-x2-x-8h27-4h4am-11n6-6u2-2x11-o-3",
       "a43x21n10-nu-a2xa99-ax7n-x6a2x2-x4a2n10a3-2a-15a2xa30x27-2a89x11a-14n10a33x9a2-2u-a-2x-2a2",
       "2x4ax9ax3ax5-18a25x3-4a11-5a24-a6-n2-5x9a42x24nx33a54x3ax18ax7a10x2-2n10-a16x3-a8-2a2-2a22",
       "-a7-a-3a4-2xax7-2x2-2x3a-8x-4a2-a3x2-2n10a2-10a-x-2x3-a6-4a2-2a22-a7-a2-a2-a2-2x-x5-4x2-2x",
       "3-3x-7a4-a-7n10x2a3x-11x3-a9-a3-a22-a7-a2-a5-2xax8-x3-x3-2a-15a2x2-2n10-9ax6-x3-a8-2a2-2a2",
       "2-a7-a2-a5-2xax7-2x2-2x3-7x3-4a2-a3x2-2n10-a-16xa-a6-3a3-a4-3a2-a-a2-3a2-3a3-3a12-4x5-3x3-",
       "x4-2a-6x-14n10-16x5a8-a3-a23-a16-2xax7-x3-x4-7x2-a3-2a-2a2x2-2n10-16ax3-a8-a3-a23-a10-a5-2",
       "xax7-x3-x4-7x2-6a2-a2x2-2n10-a2x-12x4a9-a3-a41x2ax7-x3-x4a-5a3x-7a3x2-2n10-10a6-x3-a18-3a2",
       "4-a9-a-2a7-3x-4x6-x-x8-6n10-2x2-61x-2x7-12x8-n10-87x-2x9-11x7-n10-38a-23x2-6n10-11x-x-x-4x",
       "2a8-a36-4x20-x2a5x11-x36-9x-100x20-n10-12x4-4x3-x3-2x7-3x4-13x12-xn10x4-2a38-a-5a-2a43-a33",
       "3-a4-2a7-a-a4-2a41-a4-2a33-a4-2a7-a-a4-2a15-a57-a4-2a67-2x3-32a16-16a86-2a6-3a620-2a17wa26",
       "-5a75-3a11-7a18x4-9a19x3-11a18x2-12a13-a3-x2-64x32-9x-2n10-33x3oxn10-6a89-7a5x2a34xa-5a70-",
       "10a31-x12-4x12-10n10-128n11-37a23x5-57x10-x29-2xn10-6n10-22x31-49x5a47x17a8-3n10-17x9-12x3",
       "a30x13a2n10a44x14-12a36x20-8n10-3a3n10a36-2a11-5a43-2a3-16x3-x21a4xa6xa2x3a-5a192x64a278-2",
       "a6-2a38-2a6-2a8-a-a-a-a31-2a53-a7-a-3a3-a7-3a4-2a6-4a13-5a3-a7-3w7-w3-xzo2-8b2-10b-2ml2o5e",
       "-15e2-3u-15e-10wo5-o10-a-13a-16a13-51x33-17a-4a-2a10-a-3a5-6a-a-a-a4-a11-2a4-5a5-4a-17a41-",
       "813a52-1814a229-6a4x3a2-12a38-a-5a-2a56-7a-15xa23-9a7-a7-a7-a7-a7-a7-a7-a7-x32-47a-464w-4a",
       "-36x6-k5-5a2-92x2k2-3k91-k4-5a43-a94-17a32-48k16-208k47-k88-27816a1165-67a46-2a269-3a16n10",
       "a2-20a47x4-x10-a31x2a80x2-22a198-2a2-a-a8-21a16xa3xa4xa23x5-4x-19a52-12x2a50x18-10n10-6x18",
       "a6-3a-a2xn10a28x8-2a23x13-12a29-3x4a47x14-14an10-11x-10n10-6a41x14-9a3xa8x2-2n10-33x3-50x-",
       "x3-2x2-5x2-x-30a11x5-2a3x2-10a6-2a6-2a6-9a7-a7-a58-6a115x8-x2-2n10-6a11172-12a23-4a49-8964",
       "a7-12a5-5hxh10-h13-h5-h-h2-h2-h10a98-33a363-18a64-2a54-40a12-4x16-3m-12x16-3e2-24e3u-b-um-",
       "26a5-a135-2o-7b-4u-b-n10mu-5a26-4e-a26-11k56x2a31-3a6-2a6-2a6-2a3-28o3-4a12-a26-a19-a2-a15",
       "-2a14-34a123-69a53-136x-130a29-3a49-15x-31a32-13a30-5a38x5-5a30-2a36-4a8-a5-42a158-2n10-6a",
       "36-4a36-4a40-8a52-12a11-a15-a7-a2-a11-a15-a7-a2-3a52-12a311-9a22-10a8-24a6-a42-a9-69a6-2a-",
       "a44-a2-3a-2a23-10a23-9a31-65a19-a2-10a22-10a26-70a56-6a2-64ax3-x2-5x4a4-a3-a29-2x3-4x-32a2",
       "9-3a29-35a8-a28x2-25a54-10a22-10a19-13a18-110a73-55a51-13a51-13a36x4-8n10-6n10a28-3x5-a23-",
       "250a42-x2-3a2-16a3-55x4a29-10a-8a22x11-31a18x4-42a21-27a23-9x3a53x15-31n10xa2x2a-9x4a45x11",
       "-2n-4x-10n-2a25-7n10-6x3a36x14-n10-4ax2a-8a35x-2a-9x3a48x14a4-4x4-x2n10a-a-35a18-a25x12-6x",
       "a2x-62a7-a-a4-a15-a10-7a47x12-5n10-6x4-a8-2a2-2a22-a7-a2-a5-x2ax7-2x2-2x3-2a-6x-5a5x2-2x7-",
       "3x5-11a10-a-2a-a38-ax9-x-2x-x4-x5axa-13x2-29a53x18a4-5n10-4xa3-30a48x20a2-a-8n10-166a47x7-",
       "2x9-23a4x2-34a48x17-3a-11n10-38a43x13a-7n10-6n20-57x15-4n10-198a44x15-101a64n10-21a8-2a-2a",
       "8-a2-a24x6-x2-2x4axax2-12n10-70a8-2a39x7-2x7a-ax-27ax10a40x7ax4-8x-8ax11a46x16-3a-18a73-19",
       "9a33-15n10-6a9-a37x8-x8a-15n10-24a30-2x22-x14-73a7-a2-a38x6-3x-x2-x7ax-8n10-6a6-a2-a32x5-x",
       "2-x5a-7n10-310a19x4-9x2axa13-a34x7-3x5-13n10x-85a-79a922-102a111-17a196-2636a97-15a1072o16",
       "xa6x15-10a3995-5a583-6841a30x18n10-1734a569-7a31-n10-6a79-n10-6a30-2x5-11a48x7-9a4-12n10-9",
       "a21-5a19-432a45-3n10-198a64-128a75-4xax55-7x4a13-64a2-ax-11x2-16382k4-k7-k2-k-287k3-50k-14",
       "k4-2712a107-5a13-3a9-7a10-3x2-o4-4172n10-518x46-2x23-542x5-3x6o8x8-2x7-30x4-148x3-443a85-a",
       "71-a2-2a-2a2-2a4-a12-a-a7-a65-a4-2a8-a7-a28-a4-a5-a-3a7-a340-2a25-a25-a31-a25-a31-a25-a31-",
       "a25-a31-a25-a8-2n50-512x55-4x50-8x-14x-22x5-x15-1104a31-6a6-213x7-x17-2x7-x2-x5-5a62-33x-1",
       "12a45-3x7a7-2n10-4a-321a30x-17a44x4n10-470a28x4n10-214a30x2an10-485a7-a4-a2-a15-a197-11x7-",
       "41a68x7a-4n10-1190a4-a27-a2-a-2a-a10-a4-a-a-6a-4a-a-a-a3-a2-a-2a-a-a-a-a-a2-a-2a4-a7-a4-a4",
       "-a-a10-a17-5a3-a5-a17-628a26-6a26-6a26-92i26-507x5-2032n10-787463o-30x96-128x240-196112"])

def codeSet? (name : String) : Option CodeSet := table.named? values name

end PageSketch.Unicode.WordBreak
