import PageSketch.Unicode.Runs

/-! # Sentence breaks

The table says what part each code point has in sentences. A dash marks those that
have none. -/

namespace PageSketch.Unicode.SentenceBreak

/-- The values, each with its letter in the table and its names. -/
def values : List (Char × List String) :=
  [('a', ["lo", "lower"]), ('A', ["up", "upper"]), ('o', ["le", "oletter"]),
   ('n', ["nu", "numeric"]), ('t', ["at", "aterm"]), ('s', ["st", "sterm"]),
   ('c', ["cl", "close"]), ('u', ["sc", "scontinue"]), ('p', ["sp"]), ('e', ["se", "sep"]),
   ('x', ["ex", "extend"]), ('m', ["fo", "format"]), ('r', ["cr"]), ('f', ["lf"])]

def table : Runs :=
  Runs.ofText 1
    (String.join
      ["-9pfp2r-18psc-4c3-2u2t-n10u2-3s-A26c-c-3a26c-c-7e-26p-9ac-m-7a-4ac-4A23-A7a24-a8AaAaAaAaAa",
       "AaAaAaAaAaAaAaAaAaAaAaAaAaAaAaAaAaAaAaAaAaAaAa2AaAaAaAaAaAaAaAa2AaAaAaAaAaAaAaAaAaAaAaAaAa",
       "AaAaAaAaAaAaAaAaAaAaA2aAaAa3A2aAaA2aA3a2A4aA2aA3a3A2aA2aAaAaA2aAa2AaA2aA3aAaA2a2oAa3o4A2aA",
       "2aA2aAaAaAaAaAaAaAaAa2AaAaAaAaAaAaAaAaAa2A2aAaA3aAaAaAaAaAaAaAaAaAaAaAaAaAaAaAaAaAaAaAaAaA",
       "aAaAaAaAaAaAaAaAa7A2aA2a2AaA4aAaAaAaAa69oa36o7a2-4o12-14a5-7o-o-17x112AaAao-Aa-2a4uA-6A-A3",
       "-A-A2aA17-A9a35Aa2A3a3AaAaAaAaAaAaAaAaAaAaAaAa5Aa-AaA2a2A51a48AaAaAaAaAaAaAaAaAaAaAaAaAaAa",
       "AaAaAa-x7AaAaAaAaAaAaAaAaAaAaAaAaAaAaAaAaAaAaAaAaAaAaAaAaAaAaAaA2aAaAaAaAaAaAa2AaAaAaAaAaA",
       "aAaAaAaAaAaAaAaAaAaAaAaAaAaAaAaAaAaAaAaAaAaAaAaAaAaAaAaAaAaAaAaAaAaAaAaAaAaAaAaAaAaAa-A38-",
       "2o-3u-2a41s-7x45-x-x2-x2-x-8o27-4o5-12n6-6u2-2x11-ms3o43x21n10-n2-o2xo99sox7n-x6o2x2-x4o2n",
       "10o3-2os3-12moxo30x27-2o89x11o-14n10o33x9o2-2uso-2x-2o22x4ox9ox3ox5-9s-s-3s2-o25x3-4o11-5o",
       "24-o6-n2-5x9o42x24nx33o54x3ox18ox7o10x2s2n10-o16x3-o8-2o2-2o22-o7-o-3o4-2xox7-2x2-2x3o-8x-",
       "4o2-o3x2-2n10o2-10o-x-2x3-o6-4o2-2o22-o7-o2-o2-o2-2x-x5-4x2-2x3-3x-7o4-o-7n10x2o3x-11x3-o9",
       "-o3-o22-o7-o2-o5-2xox8-x3-x3-2o-15o2x2-2n10-9ox6-x3-o8-2o2-2o22-o7-o2-o5-2xox7-2x2-2x3-7x3",
       "-4o2-o3x2-2n10-o-16xo-o6-3o3-o4-3o2-o-o2-3o2-3o3-3o12-4x5-3x3-x4-2o-6x-14n10-16x5o8-o3-o23",
       "-o16-2xox7-x3-x4-7x2-o3-2o-2o2x2-2n10-16ox3-o8-o3-o23-o10-o5-2xox7-x3-x4-7x2-6o2-o2x2-2n10",
       "-o2x-12x4o9-o3-o41x2ox7-x3-x4o-5o3x-7o3x2-2n10-10o6-x3-o18-3o24-o9-o-2o7-3x-4x6-x-x8-6n10-",
       "2x2-13o48xo2x7-5o7x8-n10-39o2-o-o5-o24-o-o10xo2x9o-2o5-o-x7-n10-2o4-32o-23x2-6n10-11x-x-xc",
       "4x2o8-o36-4x20-x2o5x11-x36-9x-57o43x20on10s2-4o6x4o4x3ox3o2x7o3x4o13x12oxn10x4-2A38-A-5A-2",
       "o43-ao332-o4-2o7-o-o4-2o41-o4-2o33-o4-2o7-o-o4-2o15-o57-o4-2o67-2x3-2s-4s2-23o16-16A86-2a6",
       "-3o620-so17po26c2-3o75-3o11-7o18x4-9o19x3s2-9o18x2-12o13-o3-x2-12o52x32s2-o-4ox-2n10-24us-",
       "4us-x3mxn10-6o89-7o5x2o34xo-5o70-10o31-x12-4x12-8s2n10o30-2o5-11o44-4o26-6n11-37o23x5-4o53",
       "x10-x29-2xn10-6n10-13os4-4x31-49x5o47x17o8-s2n10s2-2s2-11x9-9s3x3o30x13o2n10o44x14-12o36x2",
       "0-3s2-3n10-3o3n10o36s2a9Aa-5o43-2o3-16x3-x21o4xo6xo2x3o-5a192x64AaAaAaAaAaAaAaAaAaAaAaAaAa",
       "AaAaAaAaAaAaAaAaAaAaAaAaAaAaAaAaAaAaAaAaAaAaAaAaAaAaAaAaAaAaAaAaAaAaAaAaAaAaAaAaAaAaAaAaAa",
       "AaAaAaAaAaAaAaAaAaAaAaAaAaAaAaAaAa9AaAaAaAaAaAaAaAaAaAaAaAaAaAaAaAaAaAaAaAaAaAaAaAaAaAaAaA",
       "aAaAaAaAaAaAaAaAaAaAaAaAaAaAaAaAaAaAaAaAaAa9A8a6-2A6-2a8A8a8A8a6-2A6-2a8-A-A-A-Aa8A8a14-2a",
       "8A8a8A8a8A8a5-a2A5-a-3a3-a2A5-3a4-2a2A4-4a8A5-5a3-a2A5-3p11mx2m2-3u2-3c8-4t-3e2m5p-9c2-s2-",
       "7c2s3-21pm5-m10-a-11c2a-13c2-a13-51x33-17A-4A-2aA3a2A3a-A-3A5-6A-A-A-A4-aA4ao4a-2a2A2-5Aa4",
       "-4a-17A16a16o3Aao4-383c4-29c2-395A26a26-625c6-7c14-79c2-31c10-403c22-63c4-32c2-514A48a48Aa",
       "A3a2AaAaAaA4aAa2Aa8A3aAaAaAaAaAaAaAaAaAaAaAaAaAaAaAaAaAaAaAaAaAaAaAaAaAaAaAaAaAaAaAaAaAaAa",
       "AaAaAaAaAaAaAaAaAaAaAaAaAaAaAa2-6AaAax3Aa-5s3-4a38-a-5a-2o56-7o-15xo23-9o7-o7-o7-o7-o7-o7-",
       "o7-o7-x32c14-14c2-2c10-4so-12s-5c-16s2c8-419pus-2o3c10-2c8-c3-o9x6-o5-2o5-4o86-2x2-2o3-o90",
       "-o4-5o43-o94-17o32-48o16-512o6592-64o22157-67o46-so269-s2o16n10o2-20AaAaAaAaAaAaAaAaAaAaAa",
       "AaAaAaAaAaAaAaAaAaAaAaAaox4-x10-oAaAaAaAaAaAaAaAaAaAaAaAaAaAa3x2o80x2-s-3s-31o9-2AaAaAaAaA",
       "aAaAa3AaAaAaAaAaAaAaAaAaAaAaAaAaAaAaAaAaAaAaAaAaAaAaAaAaAaAaAaAaAaAa10AaAaA2aAaAaAaAao-2Aa",
       "AaoAaAa3AaAaAaAaAaAaAaAaAaAaA5aA5aAaAaAaAaAaAaAaA4aAaA2a-2Aa-a-aAaAaAaA-21a3Aaoa3o7xo3xo4x",
       "o23x5-4x-19o52-2s2-8x2o50x18-8s2n10-6x18o6-3o-o2xn10o28x8-so23x13-12o29-3x4o47x14-7s2-5on1",
       "0-6o5xo10n10o5-o41x14-9o3xo8x2-2n10-3s3o23-3ox3o50xox3o2x2o5x2oxo-24o3-2o11x5s2o3x2-10o6-2",
       "o6-2o6-9o7-o7-a43-a14-6a80o35x8sx2-2n10-6o11172-12o23-4o49-8452o366-2o106-38a7-12a5-5oxo10",
       "-o13-o5-o-o2-o2-o108-33o363c2-16o64-2o54-40o12-4x16u2su2s2c2-7x16-u2-2c16-2c2-7u2t-u2s2uc6",
       "-4u-12o5-o135-2m-s-6c2-2u2t-n10u2-3s-A26c-c-3a26c-c-c2sc2u-o56x2o31-3o6-2o6-2o6-2o3-28m3-4",
       "o12-o26-o19-o2-o15-2o14-34o123-69o53-136x-130o29-3o49-15x-31o32-13o30-5o38x5-5o30-2o36-4o8",
       "-o5-42A40a40o78-2n10-6A36-4a36-4o40-8o52-12A11-A15-A7-A2-a11-a15-a7-a2-3o52-12o311-9o22-10",
       "o8-24ao2a3-a42-a9-69o6-2o-o44-o2-3o-2o23-10o23-9o31-65o19-o2-10o22-10o26-70o56-6o2-64ox3-x",
       "2-5x4o4-o3-o29-2x3-4x-22s2-8o29-3o29-35o8-o28x2-25o54-10o22-10o19-13o18-110o73-55A51-13a51",
       "-13o36x4-8n10-6n10o6A22-3x5-oa22-250o42-x2-3o2-16o3-55x4o29-10o-8o22x11-4s5-22o18x4s4-38o2",
       "1-27o23-9x3o53x15s2-29n10xo2x2o-9x4o45x11-2ns4x-10n-2o25-7n10-6x3o36x14-n10-s3ox2o-8o35x-2",
       "o-9x3o48x14o4s2-2x4sx2n10o-o-s2-32o18-o25x12s2-s2-xo2x-62o7-o-o4-o15-o10s-6o47x12-5n10-6x4",
       "-o8-2o2-2o22-o7-o2-o5-x2ox7-2x2-2x3-2o-6x-5o5x2-2x7-3x5-11o10-o-2o-o38-ox9-x-2x-x4-x5oxos2",
       "-11x2-29o53x18o4s2-3n10-4xo3-30o48x20o2-o-8n10-166o47x7-2x9-s2-5s15o4x2-34o48x17s2-o-11n10",
       "-38o43x13o-7n10-6n20-28o27-2x15-4n10-2s3-o7-185o44x15-101A32a32n10-21o8-2o-2o8-o2-o24x6-x2",
       "-2x4oxox2s-s-9n10-70o8-2o39x7-2x7o-ox-27ox10o40x7ox4-3s2-3x-8ox11o46x16-s2o-18o73-199o33-1",
       "5n10-6o9-o37x8-x8os2-13n10-24o30-2x22-x14-73o7-o2-o38x6-3x-x2-x7ox-8n10-6o6-o2-o32x5-x2-x5",
       "o-7n10-310o19x4s2-7x2oxo13-o34x7-3x5s2-11n10x-85o-79o922-102o111-17o196-2636o97-15o1072m16",
       "xo6x15-10o3995-5o583-6841o30x18n10-1734o569-7o31-n10-4s2o79-n10-6o30-2x5s-10o48x7s2-7o4s-1",
       "1n10-9o21-5o19-432o45-s2n10-198A32a32-24s-103o75-4xox55-7x4o13-64o2-ox-11x2-14o6136-8o1238",
       "-41o10-8935o4-o7-o2-o291-15o-29o3-2o-14o4-8o396-2308o107-5o13-3o9-7o10-3x2sm4-4172n10-518x",
       "46-2x23-542x5-3x6m8x8-2x7-30x4-148x3-443A26a26A26a7-a18A26a26A-A2-2A-2A2-2A4-A8a4-a-a7-a11",
       "A26a26A2-A4-2A8-A7-a26A2-A4-A5-A-3A7-a26A26a26A26a26A26a26A26a26A26a26A26a28-2A25-a25-a6A2",
       "5-a25-a6A25-a25-a6A25-a25-a6A25-a25-a6Aa-2n50-512x55-4x50-8x-14x-3s-18x5-x15-1104a10oa20-6",
       "a6-213x7-x17-2x7-x2-x5-5a62-33x-112o45-3x7o7-2n10-4o-321o30x-17o44x4n10-470o28x4n10-214o30",
       "x2on10-485o7-o4-o2-o15-o197-11x7-41A34a34x7o-4n10-1190o4-o27-o2-o-2o-o10-o4-o-o-6o-4o-o-o-",
       "o3-o2-o-2o-o-o-o-o-o2-o-2o4-o7-o4-o4-o-o10-o17-5o3-o5-o17-628A26-6A26-6A26-1260c3-1399n10-",
       "1030o42720-32o4154-6o222-2o5762-14o7473-15o622-2466o542-1506o4939-5o4192-711761m-30x96-128",
       "x240-196112"])

def codeSet? (name : String) : Option CodeSet := table.named? values name

end PageSketch.Unicode.SentenceBreak
