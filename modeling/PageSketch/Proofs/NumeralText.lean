import Mathlib.Data.List.TakeWhile
import PageSketch.Decimal.Numeral
import PageSketch.Proofs.Characters

/-! # The text of numerals

A numeral is read from a text exactly if the text is made up of the parts of a numeral: a sign,
digits with a point, and a power of ten, of which only some digits are needed; or a sign and one
of the words. -/

namespace PageSketch.Numeral

open Text (isAlpha_of_toLower isAlpha_of_isDigit)

/-- A sign, which may be left out, and whether it is a minus. -/
inductive SignText : List Char → Bool → Prop
  | absent : SignText [] false
  | plus : SignText ['+'] false
  | minus : SignText ['-'] true

/-- A row of decimal digits, which may be empty. -/
def Digits (text : List Char) : Prop := ∀ digit ∈ text, digit.isDigit = true

/-- Digits with an optional point among or beside them, the value of all digits, and how many
of them stand behind the point. -/
inductive MantissaText : List Char → Nat → Nat → Prop
  | whole {digits : List Char} (nonempty : digits ≠ []) (decimal : Digits digits) :
      MantissaText digits (Nat.ofDigitChars 10 digits 0) 0
  | pointed {whole fraction : List Char} (nonempty : whole ≠ [] ∨ fraction ≠ [])
      (decimalWhole : Digits whole) (decimalFraction : Digits fraction) :
      MantissaText (whole ++ '.' :: fraction) (Nat.ofDigitChars 10 (whole ++ fraction) 0)
        fraction.length

/-- A power of ten, which may be left out. -/
inductive ExponentText : List Char → Int → Prop
  | absent : ExponentText [] 0
  | marked {mark : Char} {sign digits : List Char} {negative : Bool}
      (letter : mark = 'e' ∨ mark = 'E') (signed : SignText sign negative)
      (nonempty : digits ≠ []) (decimal : Digits digits) :
      ExponentText (mark :: (sign ++ digits))
        (if negative then -(Nat.ofDigitChars 10 digits 0 : Int) else Nat.ofDigitChars 10 digits 0)

/-- Digits with a power of ten, without a sign. -/
inductive UnsignedText : List Char → Nat → Int → Prop
  | intro {mantissa power : List Char} {digits decimals : Nat} {exponent : Int}
      (mantissaText : MantissaText mantissa digits decimals)
      (exponentText : ExponentText power exponent) :
      UnsignedText (mantissa ++ power) digits (exponent - decimals)

/-- How a decimal numeral is written. -/
inductive DecimalText : List Char → Bool → Nat → Int → Prop
  | intro {sign body : List Char} {negative : Bool} {digits : Nat} {exponent : Int}
      (signed : SignText sign negative) (unsigned : UnsignedText body digits exponent) :
      DecimalText (sign ++ body) negative digits exponent

/-- How a numeral is written, the words included. -/
inductive Written : List Char → Numeral → Prop
  | decimal {text : List Char} {negative : Bool} {digits : Nat} {exponent : Int}
      (written : DecimalText text negative digits exponent) :
      Written text (.decimal negative digits exponent)
  | infinity {sign word : List Char} {negative : Bool} (signed : SignText sign negative)
      (named : word.map Char.toLower ∈ ["inf".toList, "infinity".toList]) :
      Written (sign ++ word) (.infinity negative)
  | notANumber {sign word : List Char} {negative : Bool} (signed : SignText sign negative)
      (named : word.map Char.toLower = "nan".toList) : Written (sign ++ word) .notANumber

variable {text body sign digits : List Char} {negative : Bool} {numeral : Numeral}

/-! ## Signs -/

/-- Nothing at the start of the text is taken for a sign. -/
def Unsigned (text : List Char) : Prop := ∀ first ∈ text.head?, first ≠ '-' ∧ first ≠ '+'

theorem splitSign_append (signed : SignText sign negative) (unsigned : Unsigned body) :
    splitSign (sign ++ body) = (negative, body) := by
  cases signed with
  | absent =>
      cases body with
      | nil => rfl
      | cons first rest =>
          rcases unsigned first rfl with ⟨noMinus, noPlus⟩
          rw [List.nil_append, splitSign.eq_def]
          split
          · next equal => exact absurd (List.cons.inj equal).1 noMinus
          · next equal => exact absurd (List.cons.inj equal).1 noPlus
          · rfl
  | plus => rfl
  | minus => rfl

theorem signText_of_splitSign (split : splitSign text = (negative, body)) :
    ∃ sign, text = sign ++ body ∧ SignText sign negative := by
  rw [splitSign.eq_def] at split
  split at split <;> cases split
  · exact ⟨['-'], rfl, .minus⟩
  · exact ⟨['+'], rfl, .plus⟩
  · exact ⟨[], rfl, .absent⟩

/-! ## Digits -/

theorem Digits.unsigned (decimal : Digits text) : Unsigned text := by
  intro first head
  have digit := decimal first (List.mem_of_head? head)
  constructor <;> rintro rfl <;> cases digit

theorem digitsValue_append (whole fraction : List Char) :
    digitsValue (digitsValue 0 whole) fraction = Nat.ofDigitChars 10 (whole ++ fraction) 0 :=
  (Nat.ofDigitChars_append 0).symm

theorem takeWhile_digits {rest : List Char} (decimal : Digits digits)
    (ends : ∀ first ∈ rest.head?, first.isDigit = false) :
    (digits ++ rest).takeWhile Char.isDigit = digits ∧
      (digits ++ rest).dropWhile Char.isDigit = rest := by
  rw [List.takeWhile_append_of_pos decimal, List.dropWhile_append_of_pos decimal]
  cases rest with
  | nil => exact ⟨List.append_nil digits, rfl⟩
  | cons first rest =>
      have other : ¬first.isDigit = true := by simp [ends first rfl]
      rw [List.takeWhile_cons_of_neg other, List.dropWhile_cons_of_neg other]
      exact ⟨List.append_nil digits, rfl⟩

/-! ## Powers of ten -/

theorem readExponent?_eq_some {exponent : Int} :
    readExponent? text = some exponent ↔ ExponentText text exponent := by
  constructor
  · intro read
    cases text with
    | nil =>
        cases read
        exact .absent
    | cons mark rest =>
        rw [readExponent?] at read
        rcases split : splitSign rest with ⟨negative, digits⟩
        rw [split] at read
        dsimp only at read
        split at read
        · next fine =>
            rcases fine with ⟨letter, nonempty, decimal⟩
            rcases signText_of_splitSign split with ⟨sign, rfl, signed⟩
            cases read
            exact .marked letter signed nonempty (List.all_eq_true.mp decimal)
        · cases read
  · intro written
    cases written with
    | absent => rfl
    | marked letter signed nonempty decimal =>
        rw [readExponent?, splitSign_append signed decimal.unsigned]
        exact if_pos ⟨letter, nonempty, List.all_eq_true.mpr decimal⟩

theorem ExponentText.head {exponent : Int} (written : ExponentText text exponent) :
    ∀ first ∈ text.head?, first.isDigit = false ∧ first ≠ '.' := by
  cases written with
  | absent => exact nofun
  | marked letter =>
      intro first head
      cases head
      rcases letter with rfl | rfl <;> decide

/-! ## Numerals without a sign -/

theorem readUnsigned?_whole {rest : List Char} (decimal : Digits digits)
    (ends : ∀ first ∈ rest.head?, first.isDigit = false ∧ first ≠ '.') :
    readUnsigned? negative (digits ++ rest) =
      if digits = [] then none
      else (readExponent? rest).map (.decimal negative (Nat.ofDigitChars 10 digits 0)) := by
  rcases takeWhile_digits decimal fun first head => (ends first head).1 with ⟨taken, dropped⟩
  rw [readUnsigned?, taken, dropped]
  split
  next fraction behind cut =>
  split at cut
  · exact absurd rfl (ends '.' rfl).2
  · cases cut
    simp [digitsValue_append]

theorem readUnsigned?_pointed {whole fraction rest : List Char} (decimalWhole : Digits whole)
    (decimalFraction : Digits fraction) (ends : ∀ first ∈ rest.head?, first.isDigit = false) :
    readUnsigned? negative (whole ++ '.' :: (fraction ++ rest)) =
      if whole = [] ∧ fraction = [] then none
      else (readExponent? rest).map fun exponent =>
        .decimal negative (Nat.ofDigitChars 10 (whole ++ fraction) 0)
          (exponent - fraction.length) := by
  have point : ∀ first ∈ ('.' :: (fraction ++ rest)).head?, first.isDigit = false := by
    rintro _ ⟨⟩
    rfl
  rcases takeWhile_digits decimalWhole point with ⟨before, behind⟩
  rcases takeWhile_digits decimalFraction ends with ⟨taken, dropped⟩
  simp only [readUnsigned?, before, behind, taken, dropped, digitsValue_append]

/-- A text begins with digits and perhaps a point with more digits. -/
theorem exists_digits (text : List Char) :
    (∃ digits rest, text = digits ++ rest ∧ Digits digits ∧
        ∀ first ∈ rest.head?, first.isDigit = false ∧ first ≠ '.') ∨
      ∃ whole fraction rest, text = whole ++ '.' :: (fraction ++ rest) ∧ Digits whole ∧
        Digits fraction ∧ ∀ first ∈ rest.head?, first.isDigit = false := by
  have taken : ∀ part : List Char, Digits (part.takeWhile Char.isDigit) :=
    fun _ _ => List.mem_takeWhile_imp
  have ends : ∀ part : List Char, ∀ first ∈ (part.dropWhile Char.isDigit).head?,
      first.isDigit = false := by
    intro part first head
    have stopped := List.head?_dropWhile_not Char.isDigit part
    rwa [Option.mem_def.mp head] at stopped
  have split := List.takeWhile_append_dropWhile (p := Char.isDigit) (l := text)
  by_cases point : (text.dropWhile Char.isDigit).head? = some '.'
  · rcases List.head?_eq_some_iff.mp point with ⟨rest, behind⟩
    have inner := List.takeWhile_append_dropWhile (p := Char.isDigit) (l := rest)
    exact .inr ⟨_, _, _, by rw [inner, ← behind, split], taken text, taken rest, ends rest⟩
  · exact .inl ⟨_, _, split.symm, taken text,
      fun first head => ⟨ends text first head, fun equal => point (equal ▸ head)⟩⟩

theorem readUnsigned?_eq_some : readUnsigned? negative text = some numeral ↔
    ∃ digits exponent, UnsignedText text digits exponent ∧
      numeral = .decimal negative digits exponent := by
  constructor
  · intro read
    rcases exists_digits text with ⟨digits, rest, rfl, decimal, ends⟩ |
      ⟨whole, fraction, rest, rfl, decimalWhole, decimalFraction, ends⟩
    · rw [readUnsigned?_whole decimal ends] at read
      split at read
      · cases read
      · next nonempty =>
          rcases Option.map_eq_some_iff.mp read with ⟨exponent, powered, rfl⟩
          have text := UnsignedText.intro (.whole nonempty decimal)
            (readExponent?_eq_some.mp powered)
          exact ⟨_, _, text, by simp⟩
    · rw [readUnsigned?_pointed decimalWhole decimalFraction ends] at read
      split at read
      · cases read
      · next nonempty =>
          rcases Option.map_eq_some_iff.mp read with ⟨exponent, powered, rfl⟩
          have text := UnsignedText.intro
            (.pointed (not_and_or.mp nonempty) decimalWhole decimalFraction)
            (readExponent?_eq_some.mp powered)
          rw [List.append_assoc, List.cons_append] at text
          exact ⟨_, _, text, rfl⟩
  · rintro ⟨_, _, ⟨mantissa, powered⟩, rfl⟩
    have ends := powered.head
    have exponent := readExponent?_eq_some.mpr powered
    cases mantissa with
    | whole nonempty decimal =>
        rw [readUnsigned?_whole decimal ends, if_neg nonempty, exponent]
        simp
    | pointed nonempty decimalWhole decimalFraction =>
        rw [List.append_assoc, List.cons_append, readUnsigned?_pointed decimalWhole
          decimalFraction fun first head => (ends first head).1, if_neg (not_and_or.mpr nonempty),
          exponent]
        rfl

/-! ## Numerals -/

/-- A digit or a point begins the numeral. -/
theorem UnsignedText.head {value : Nat} {exponent : Int}
    (written : UnsignedText text value exponent) :
    ∃ first, text.head? = some first ∧ (first.isDigit = true ∨ first = '.') := by
  rcases written with ⟨mantissa, _⟩
  cases mantissa with
  | whole nonempty decimal =>
      rcases List.exists_cons_of_ne_nil nonempty with ⟨first, rest, rfl⟩
      exact ⟨first, rfl, .inl (decimal first List.mem_cons_self)⟩
  | @pointed whole fraction nonempty decimalWhole decimalFraction =>
      cases whole with
      | nil => exact ⟨'.', rfl, .inr rfl⟩
      | cons first rest => exact ⟨first, rfl, .inl (decimalWhole first List.mem_cons_self)⟩

theorem UnsignedText.unsigned {value : Nat} {exponent : Int}
    (written : UnsignedText text value exponent) : Unsigned text := by
  rcases written.head with ⟨first, head, begins⟩
  intro other here
  cases head.symm.trans here
  rcases begins with digit | rfl
  · constructor <;> rintro rfl <;> cases digit
  · decide

/-- A word is made of letters only. -/
structure IsWord (text : List Char) : Prop where
  nonempty : text ≠ []
  letters : ∀ letter ∈ text, letter.isAlpha = true

theorem IsWord.of_map_toLower (lower : IsWord (text.map Char.toLower)) : IsWord text where
  nonempty := mt List.map_eq_nil_iff.mpr lower.nonempty
  letters _ member := isAlpha_of_toLower (lower.letters _ (List.mem_map_of_mem member))

theorem IsWord.unsigned (word : IsWord text) : Unsigned text := by
  intro first head
  constructor <;> rintro rfl <;> cases word.letters _ (List.mem_of_head? head)

theorem Unsigned.append (unsigned : Unsigned text) (nonempty : text ≠ []) (rest : List Char) :
    Unsigned (text ++ rest) := by
  rcases List.exists_cons_of_ne_nil nonempty with ⟨first, others, rfl⟩
  exact unsigned

/-- No word is the beginning of a decimal numeral without a sign. -/
theorem UnsignedText.not_isWord {value : Nat} {exponent : Int} {rest word more : List Char}
    (written : UnsignedText text value exponent) (isWord : IsWord word) :
    text ++ rest ≠ word ++ more := by
  rcases written.head with ⟨first, head, begins⟩
  rcases List.exists_cons_of_ne_nil isWord.nonempty with ⟨letter, others, rfl⟩
  rcases List.head?_eq_some_iff.mp head with ⟨behind, rfl⟩
  intro equal
  have alpha := isWord.letters letter List.mem_cons_self
  rw [← (List.cons.inj equal).1] at alpha
  rcases begins with digit | rfl
  · rw [isAlpha_of_isDigit digit] at alpha
    cases alpha
  · cases alpha

theorem isWord_of_named
    (named : text.map Char.toLower ∈ ["inf".toList, "infinity".toList, "nan".toList]) :
    IsWord text := by
  have each : ∀ word ∈ ["inf".toList, "infinity".toList, "nan".toList],
      word ≠ [] ∧ word.all Char.isAlpha = true := by decide
  exact .of_map_toLower ⟨(each _ named).1, List.all_eq_true.mp (each _ named).2⟩

theorem ofChars?_eq_some : ofChars? text = some numeral ↔ Written text numeral := by
  constructor
  · intro read
    rcases split : splitSign text with ⟨negative, body⟩
    rcases signText_of_splitSign split with ⟨sign, rfl, signed⟩
    rw [ofChars?, split] at read
    dsimp only at read
    split at read
    · next named =>
        cases read
        exact .notANumber signed named
    · split at read
      · next named =>
          cases read
          exact .infinity signed (by simpa using named)
      · rcases readUnsigned?_eq_some.mp read with ⟨digits, exponent, unsigned, rfl⟩
        exact .decimal ⟨signed, unsigned⟩
  · intro written
    cases written with
    | decimal written =>
        rcases written with @⟨sign, body, _, _, _, signed, unsigned⟩
        have noWord : body.map Char.toLower ∉ ["inf".toList, "infinity".toList, "nan".toList] :=
          fun named => unsigned.not_isWord (isWord_of_named named) (rfl : body ++ [] = body ++ [])
        simp only [List.mem_cons, List.not_mem_nil, or_false, not_or] at noWord
        rw [ofChars?, splitSign_append signed unsigned.unsigned]
        dsimp only
        rw [if_neg noWord.2.2, if_neg (not_or.mpr ⟨noWord.1, noWord.2.1⟩),
          readUnsigned?_eq_some.mpr ⟨_, _, unsigned, rfl⟩]
    | @infinity sign word negative signed named =>
        have lower : word.map Char.toLower = "inf".toList ∨
            word.map Char.toLower = "infinity".toList := by simpa using named
        have isWord : IsWord word := isWord_of_named (List.mem_append_left ["nan".toList] named)
        rw [ofChars?, splitSign_append signed isWord.unsigned]
        dsimp only
        rw [if_neg, if_pos lower]
        rcases lower with equal | equal <;> rw [equal] <;> decide
    | @notANumber sign word negative signed named =>
        have isWord : IsWord word := isWord_of_named (by simp [named])
        rw [ofChars?, splitSign_append signed isWord.unsigned]
        exact if_pos named

/-- A numeral that is not decimal is a sign with a word. -/
theorem Written.exists_word (written : Written text numeral) (special : ¬numeral.IsDecimal) :
    ∃ sign word, text = sign ++ word ∧ (∃ negative, SignText sign negative) ∧ IsWord word := by
  cases written with
  | decimal => exact absurd trivial special
  | infinity signed named =>
      exact ⟨_, _, rfl, ⟨_, signed⟩, isWord_of_named (List.mem_append_left ["nan".toList] named)⟩
  | notANumber signed named =>
      exact ⟨_, _, rfl, ⟨_, signed⟩, isWord_of_named (by simp [named])⟩

theorem Written.exists_decimalText (written : Written text numeral) (decimal : numeral.IsDecimal) :
    ∃ negative digits exponent, numeral = .decimal negative digits exponent ∧
      DecimalText text negative digits exponent := by
  cases written with
  | decimal written => exact ⟨_, _, _, rfl, written⟩
  | infinity => exact decimal.elim
  | notANumber => exact decimal.elim

/-- A text that begins with a decimal numeral begins with none of the words. -/
theorem DecimalText.not_special {value : Nat} {exponent : Int} {special rest more : List Char}
    (written : DecimalText text negative value exponent) (named : Written special numeral)
    (noDecimal : ¬numeral.IsDecimal) : text ++ rest ≠ special ++ more := by
  rcases written with @⟨sign, body, _, _, _, signed, unsigned⟩
  rcases named.exists_word noDecimal with ⟨otherSign, word, rfl, ⟨other, otherSigned⟩, isWord⟩
  rcases unsigned.head with ⟨first, head, _⟩
  have nonempty : body ≠ [] := by
    rintro rfl
    cases head
  rw [List.append_assoc, List.append_assoc]
  intro equal
  have same := congrArg splitSign equal
  rw [splitSign_append signed (unsigned.unsigned.append nonempty rest),
    splitSign_append otherSigned (isWord.unsigned.append isWord.nonempty more)] at same
  exact unsigned.not_isWord isWord (Prod.mk.inj same).2

/-! ## Characters of numerals -/

/-- Whatever is written before a text, it ends as the text does. -/
theorem getLast?_append_of_some {before : List Char} {last : Char}
    (ends : text.getLast? = some last) : (before ++ text).getLast? = some last := by
  rw [List.getLast?_append, ends, Option.some_or]

theorem Digits.last (decimal : Digits text) (nonempty : text ≠ []) :
    ∃ last, text.getLast? = some last ∧ (last.isDigit = true ∨ last = '.') :=
  ⟨_, List.getLast?_eq_some_getLast nonempty, .inl (decimal _ (List.getLast_mem nonempty))⟩

theorem UnsignedText.last {value : Nat} {exponent : Int}
    (written : UnsignedText text value exponent) :
    ∃ last, text.getLast? = some last ∧ (last.isDigit = true ∨ last = '.') := by
  rcases written with ⟨mantissa, powered⟩
  cases powered with
  | absent =>
      rw [List.append_nil]
      cases mantissa with
      | whole nonempty decimal => exact decimal.last nonempty
      | @pointed whole fraction nonempty decimalWhole decimalFraction =>
          by_cases none : fraction = []
          · exact ⟨'.', by rw [none, List.getLast?_concat], .inr rfl⟩
          · rcases decimalFraction.last none with ⟨last, ends, final⟩
            rw [List.append_cons]
            exact ⟨last, getLast?_append_of_some ends, final⟩
  | @marked mark sign digits negative letter signed nonempty decimal =>
      rcases decimal.last nonempty with ⟨last, ends, final⟩
      rw [← List.cons_append, ← List.append_assoc]
      exact ⟨last, getLast?_append_of_some ends, final⟩

/-- No decimal numeral ends in a letter, whatever letters are in it. -/
theorem DecimalText.last {value : Nat} {exponent : Int}
    (written : DecimalText text negative value exponent) :
    ∃ last, text.getLast? = some last ∧ last.isAlpha = false := by
  rcases written with ⟨signed, unsigned⟩
  rcases unsigned.last with ⟨last, ends, digit | rfl⟩
  · exact ⟨last, getLast?_append_of_some ends, isAlpha_of_isDigit digit⟩
  · exact ⟨'.', getLast?_append_of_some ends, rfl⟩

/-- The characters of which decimal numerals are made. -/
theorem DecimalText.characters {value : Nat} {exponent : Int}
    (written : DecimalText text negative value exponent) :
    ∀ character ∈ text, character.isDigit = true ∨ character ∈ ['+', '-', '.', 'e', 'E'] := by
  have sign : ∀ {part : List Char} {minus : Bool}, SignText part minus →
      ∀ character ∈ part, character ∈ ['+', '-', '.', 'e', 'E'] := by
    rintro _ _ (_ | _ | _) <;> simp
  rcases written with ⟨signed, mantissa, powered⟩
  simp only [List.forall_mem_append]
  refine ⟨fun character member => .inr (sign signed character member), ?_, ?_⟩
  · cases mantissa with
    | whole nonempty decimal => exact fun character member => .inl (decimal character member)
    | pointed nonempty decimalWhole decimalFraction =>
        simp only [List.forall_mem_append, List.forall_mem_cons]
        exact ⟨fun character member => .inl (decimalWhole character member), .inr (by decide),
          fun character member => .inl (decimalFraction character member)⟩
  · cases powered with
    | absent => exact nofun
    | marked letter inner nonempty decimal =>
        simp only [List.forall_mem_append, List.forall_mem_cons]
        refine ⟨.inr ?_, fun character member => .inr (sign inner character member),
          fun character member => .inl (decimal character member)⟩
        rcases letter with rfl | rfl <;> decide

end PageSketch.Numeral
