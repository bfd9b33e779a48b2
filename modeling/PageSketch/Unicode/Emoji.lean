import PageSketch.Unicode.Runs

/-! # Pictures

Code points that are shown as pictures, and their modifiers. -/

namespace PageSketch.Unicode.Emoji

def emoji : CodeSet :=
  CodeSet.ofText
    (String.join
      ["n35yn6yn5y10n111yn4yn8077yn12yn216yn22yn90y6n15y2n367y2n12yn166yn25y11n4y3n199yn231y2n10yn",
       "9yn58y4ny5n9yn2yn2y2n2yn4yn2yny2n2yn3yn3y2n8y3n5ynyn5y12n11y2n2yny2nyn18yn2y2n18y6nyny2n3y",
       "2n5yn2y2n4y2n11y2n5y2n2yn5y2nyny2n20y2n5y6ny4n2yn4yn2yn2y6nyn2ynynyn6yn3yn6yn10y2n15yn2yn4",
       "ynyn4y3nyn11y2n48y3n9yn14yn14yn372y2n463y3n19y2n51yn4yn1242yn12yn601ynyn114026yn202yn160y2",
       "n12y2n14yn2y10n75y26ny2n23yn20yn2y9n21y2n174y34n2y112n2y2ny3n2y83n2y3ny263ny63n11y6ny24n7y",
       "2n2y8n12yn2y4n2yn4y2n13y2n2yn8y2n9yn5y3n12y3n8y3n2ynyn4yn6yn3yn6y86n48y70n5y8n2y3n4y10n3yn",
       "y2n3yn2y10n227y12n4yn283y47ny10ny185n112y13n3y10n5y56n7y15n2y11n6y9n984327"])

/-- Shown as pictures unless marked. -/
def presentation : CodeSet :=
  CodeSet.ofText
    (String.join
      ["n8986y2n205y4n3yn2yn521y2n21y2n50y12n43yn19yn13yn8y2n17y2n5y2n8yn5yn21yn7y2nyn4yn2yn7yn4y2",
       "n28yn35ynyn4y3nyn61y3n24yn14yn859y2n51yn4yn115886yn202yn190yn2y10n75y26nyn24yn20yn2y5ny3n2",
       "1y2n174y33n12y9ny70ny22n12y43n4y5n12y17n3yn3y71nyny187n2y63n13y4ny24n18yn26y2n13yn86y85n48",
       "y70n6yn3y3n2y3n4y4n11y2n7y9n227y12n4yn283y47ny10ny185n112y13n3y10n5y56n7y15n2y11n6y9n98432",
       "7"])

/-- Pictures, and places for further ones. -/
def pictographic : CodeSet :=
  CodeSet.ofText
    (String.join
      ["n169yn4yn8077yn12yn216yn22yn90y6n15y2n367y2n12yn95yn70yn25y11n4y3n199yn231y2n10yn9yn58y4ny",
       "6ny12ny114n10y118n2y11nynyn6yn3yn6yn10y2n15yn2yn4ynyn4y3nyn11y5n45y3n9yn14yn14yn372y2n463y",
       "3n19y2n51yn4yn1242yn12yn601ynyn114022y256n13y3n31yn60y6n12y2n14yn2y10n18y57n27y15n10yn20yn",
       "2y9ny4n9y434n5y318n8y266n48y128n116y12n85y43n12y4n56y8n10y6n40y8n30y82n12y47ny10ny441n256y",
       "1022n983042"])

/-- Parts of sequences that are no pictures on their own. -/
def component : CodeSet :=
  ⟨[⟨35, 35⟩, ⟨42, 42⟩, ⟨48, 57⟩, ⟨8205, 8205⟩, ⟨8419, 8419⟩, ⟨65039, 65039⟩,
    ⟨127462, 127487⟩, ⟨127995, 127999⟩, ⟨129456, 129459⟩, ⟨917536, 917631⟩]⟩

def modifier : CodeSet :=
  ⟨[⟨127995, 127999⟩]⟩

def modifierBase : CodeSet :=
  ⟨[⟨9757, 9757⟩, ⟨9977, 9977⟩, ⟨9994, 9997⟩, ⟨127877, 127877⟩, ⟨127938, 127940⟩,
    ⟨127943, 127943⟩, ⟨127946, 127948⟩, ⟨128066, 128067⟩, ⟨128070, 128080⟩, ⟨128102, 128120⟩,
    ⟨128124, 128124⟩, ⟨128129, 128131⟩, ⟨128133, 128135⟩, ⟨128143, 128143⟩, ⟨128145, 128145⟩,
    ⟨128170, 128170⟩, ⟨128372, 128373⟩, ⟨128378, 128378⟩, ⟨128400, 128400⟩, ⟨128405, 128406⟩,
    ⟨128581, 128583⟩, ⟨128587, 128591⟩, ⟨128675, 128675⟩, ⟨128692, 128694⟩, ⟨128704, 128704⟩,
    ⟨128716, 128716⟩, ⟨129292, 129292⟩, ⟨129295, 129295⟩, ⟨129304, 129311⟩, ⟨129318, 129318⟩,
    ⟨129328, 129337⟩, ⟨129340, 129342⟩, ⟨129399, 129399⟩, ⟨129461, 129462⟩, ⟨129464, 129465⟩,
    ⟨129467, 129467⟩, ⟨129485, 129487⟩, ⟨129489, 129501⟩, ⟨129731, 129733⟩, ⟨129776, 129784⟩]⟩

def regionalIndicator : CodeSet :=
  ⟨[⟨127462, 127487⟩]⟩

end PageSketch.Unicode.Emoji
