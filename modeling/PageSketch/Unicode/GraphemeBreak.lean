import PageSketch.Unicode.Runs

/-! # Grapheme cluster breaks

The table says how each code point joins with its neighbours to one visible
character. A dash marks those that join with none. -/

namespace PageSketch.Unicode.GraphemeBreak

/-- The values, each with its letter in the table and its names. -/
def values : List (Char × List String) :=
  [('r', ["cr"]), ('f', ["lf"]), ('c', ["cn", "control"]), ('x', ["ex", "extend"]), ('l', ["l"]),
   ('v', ["v"]), ('t', ["t"]), ('w', ["lv"]), ('u', ["lvt"]), ('p', ["pp", "prepend"]),
   ('s', ["sm", "spacingmark"]), ('i', ["ri", "regionalindicator"]), ('z', ["zwj"])]

def table : Runs :=
  Runs.ofText 1
    (String.join
      ["c10fc2rc18-95c33-13c-594x112-275x7-263x45-x-x2-x2-x-56p6-10x11-c-46x21-16x-101x7p-x6-2x2-x",
       "4-33p-x-30x27-91x11-58x9-9x-24x4-x9-x3-x5-43x3-52p2-5x9-42x24px32s-54xsx-s3x8s4xs2-x7-10x2",
       "-29xs2-56x-xs2x4-2s2-2s2x-9x-10x2-26x-2x2s-56x-s3x2-4x2-2x3-3x-30x2-3x-11x2s-56x-s3x5-x2s-",
       "s2x-20x2-22x6-xs2-56x-x2sx4-2s2-2s2x-7x3-10x2-30x-59xsxs2-3s3-s3x-9x-40xs3x-55x-x3s4-x3-x4",
       "-7x2-11x2-29xs2-56x-sx2sxs2-x3-x4-7x2-11x2-15s-12x2s2-55x2-xs2x4-s3-s3xp-8x-10x2-29xs2-70x",
       "-4xs2x3-x-s7x-18s2-61x-sx7-12x8-98x-sx9-11x7-73x2-27x-x-x-4s2-49x14sx5-x2-5x11-x36-9x-102x",
       "4sx6-x2s2x2-23s2x2-4x3-16x4-13x-sx2-6x-15x-98l96v72t88-349x3-946x4-28x3-29x2-30x2-64x2sx7s",
       "8xs2x11-9x-45x3cx-117x2-34x-118x3s4x2s3-4s2xs6x3-219x2s2x-57sxsx7-x-x-2x8s6x10-2x-48x31-49",
       "x4s-47x10s4x3-38x9-12x2s-30sx4s2x6-56xsx2s3xsx5-48s8x8s2x2-152x3-x13sx7-4x-6x-2sx2-198x64-",
       "523cxzc2-24c7-49c16-96x33-3070x3-141x-96x32-554x6-105x2-30164x4-x10-32x2-80x2-272x-3x-4x-2",
       "3s2x2s-4x-83s2-50s16x2-26x18-13x-38x8-25x11sx-12l29-3x3s-47xs2x4s2x2s2x-36x-67x6s2x2s2x2-1",
       "2x-8xs-46x-51x-x3-2x2-5x2-x-41sx2s2-5sx-236s2xs2xs2-sx-18wu27wu27wu27wu27wu27wu27wu27wu27w",
       "u27wu27wu27wu27wu27wu27wu27wu27wu27wu27wu27wu27wu27wu27wu27wu27wu27wu27wu27wu27wu27wu27wu2",
       "7wu27wu27wu27wu27wu27wu27wu27wu27wu27wu27wu27wu27wu27wu27wu27wu27wu27wu27wu27wu27wu27wu27w",
       "u27wu27wu27wu27wu27wu27wu27wu27wu27wu27wu27wu27wu27wu27wu27wu27wu27wu27wu27wu27wu27wu27wu2",
       "7wu27wu27wu27wu27wu27wu27wu27wu27wu27wu27wu27wu27wu27wu27wu27wu27wu27wu27wu27wu27wu27wu27w",
       "u27wu27wu27wu27wu27wu27wu27wu27wu27wu27wu27wu27wu27wu27wu27wu27wu27wu27wu27wu27wu27wu27wu2",
       "7wu27wu27wu27wu27wu27wu27wu27wu27wu27wu27wu27wu27wu27wu27wu27wu27wu27wu27wu27wu27wu27wu27w",
       "u27wu27wu27wu27wu27wu27wu27wu27wu27wu27wu27wu27wu27wu27wu27wu27wu27wu27wu27wu27wu27wu27wu2",
       "7wu27wu27wu27wu27wu27wu27wu27wu27wu27wu27wu27wu27wu27wu27wu27wu27wu27wu27wu27wu27wu27wu27w",
       "u27wu27wu27wu27wu27wu27wu27wu27wu27wu27wu27wu27wu27wu27wu27wu27wu27wu27wu27wu27wu27wu27wu2",
       "7wu27wu27wu27wu27wu27wu27wu27wu27wu27wu27wu27wu27wu27wu27wu27wu27wu27wu27wu27wu27wu27wu27w",
       "u27wu27wu27wu27wu27wu27wu27wu27wu27wu27wu27wu27wu27wu27wu27wu27wu27wu27wu27wu27wu27wu27wu2",
       "7wu27wu27wu27wu27wu27wu27wu27wu27wu27wu27wu27wu27wu27wu27wu27wu27wu27wu27wu27wu27wu27wu27w",
       "u27wu27wu27wu27wu27wu27wu27wu27wu27wu27wu27wu27wu27wu27wu27wu27wu27wu27wu27wu27wu27wu27wu2",
       "7wu27wu27wu27wu27wu27wu27wu27wu27wu27wu27wu27wu27wu27wu27wu27wu27wu27wu27wu27wu27wu27wu27w",
       "u27wu27wu27wu27wu27wu27wu27wu27wu27wu27wu27wu27wu27wu27wu27wu27wu27wu27wu27wu27wu27wu27wu2",
       "7wu27wu27wu27wu27wu27wu27wu27wu27wu27wu27wu27wu27wu27wu27wu27wu27wu27wu27wu27wu27wu27wu27w",
       "u27wu27wu27wu27wu27wu27wu27wu27wu27wu27wu27wu27wu27wu27wu27wu27wu27wu27wu27wu27wu27wu27wu2",
       "7wu27wu27wu27wu27wu27wu27wu27wu27-12v23-4t49-8994x-737x16-16x16-207c-158x2-80c12-513x-226x",
       "-149x5-1670x3-x2-5x4-40x3-4x-165x2-573x4-65x5-317x2-79x4-70x11-49x4-122sxs-53x15-41x-2x2-1",
       "0x3s-45s3x4s2x2-2p-4x-10p-50x3-36x5sx8-16s2-44x-12x2s-48s3x9sx-p2-5x4-sx-92s3x3s2x4-6x-2x-",
       "157xs3x8-21x2s2-55x2-xsxs4-2s2-2s2x-9x-10s2-2x7-3x5-67xs2x6-x-2x-x3s-s2x3px-14x2-82s3x8s2x",
       "3sx-23x-81xs2x6sxs2xsx2sx2-235xs2x4-2s4x2sx2-27x2-82s3x8s2xsx2-106xsxs2x8-101xsx-2x4sx5-25",
       "6s3x9sx2-245xs5-s2-2x4pspsx-141s3x4-2x2s4x-3s-28x10-40x6spx4-8x-9x6s2x3-40p6x13sx2-405sx7-",
       "x6sx-82x22-sx7sx2sx2-122x6-3x-x2-x7px-66s5-x2-s2xsx-347x2s2-9x2ps-48s2x5-3s2x3-23x-5333c16",
       "x-6x15-11464x12s3x3-2496x5-59x7-556v-3v4-484x-s55-7x4-81x-11x2-19627x2-c4-4700x46-2x23-542",
       "x5-3x6c8x8-2x7-30x4-148x3-1979x55-4x50-8x-14x-22x5-x15-1360x7-x17-2x7-x2-x5-100x-160x7-375",
       "x-61x4-508x4-254x2-736x7-109x7-2203i26-507x5-789504c32x96c128x240c3600-192512"])

def codeSet? (name : String) : Option CodeSet := table.named? values name

end PageSketch.Unicode.GraphemeBreak
