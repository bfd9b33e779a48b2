/-! # Arguments

Options have a name, written behind two dashes, and perhaps a letter, written behind
one. Their value follows as the next argument or is attached; letters without a
value can be written together. Behind two dashes alone there are no options. No
option can be given twice.

Arguments are read in order up to the first that settles the matter: one that is not
valid, or an option that only asks for information. A value that is not attached is
looked at when the next argument has been recognized. -/

namespace PageSketch.CommandLine

structure OptionRule where
  name : String
  letter : Option Char := none
  takesValue : Bool := true
  /-- The option asks for information about the command, and for nothing else. -/
  isQuestion : Bool := false
  /-- Whether a text is a value of the option. -/
  accepts : String → Bool := fun _ => true

structure ArgumentRules where
  options : List OptionRule
  /-- What the arguments have to satisfy that belong to no option. All are required. -/
  positionals : List (String → Bool)

structure Arguments where
  /-- The options by name. The value is empty for one that takes none. -/
  options : List (String × String) := []
  positionals : List String := []
deriving DecidableEq, Repr

/-- Why the arguments are not read to their end. -/
inductive ArgumentStop where
  | question
  | invalid
deriving DecidableEq, Repr

/-- What has been recognized last and not been looked at. -/
inductive PendingArgument where
  /-- An option whose value has to come next. -/
  | option (rule : OptionRule)
  | value (rule : OptionRule) (text : String)
  | positional (text : String)

structure ArgumentReader where
  arguments : Arguments := {}
  pending : Option PendingArgument := none
  /-- There are no more options. -/
  isEscaped : Bool := false

namespace ArgumentReader

/-- Takes an option, unless it has been given before or its value is not accepted. -/
def addOption (reader : ArgumentReader) (rule : OptionRule) (value : String) :
    Except ArgumentStop ArgumentReader :=
  if rule.isQuestion then
    .error .question
  else if (reader.arguments.options.lookup rule.name).isSome || !rule.accepts value then
    .error .invalid
  else
    .ok { reader with
      arguments :=
        { reader.arguments with options := reader.arguments.options ++ [(rule.name, value)] } }

def addPositional (rules : ArgumentRules) (reader : ArgumentReader) (text : String) :
    Except ArgumentStop ArgumentReader :=
  if (rules.positionals[reader.arguments.positionals.length]?).any (· text) then
    .ok { reader with
      arguments :=
        { reader.arguments with positionals := reader.arguments.positionals ++ [text] } }
  else
    .error .invalid

def settle (rules : ArgumentRules) (reader : ArgumentReader) :
    Except ArgumentStop ArgumentReader :=
  let settled := { reader with pending := none }
  match reader.pending with
  | none => .ok reader
  | some (.option _) => .error .invalid
  | some (.value rule text) => settled.addOption rule text
  | some (.positional text) => settled.addPositional rules text

/-- Takes an option with the value attached to it. Only an option that takes a value
can have one, and if none is attached it comes next. -/
def takeOption (rules : ArgumentRules) (reader : ArgumentReader) (rule : OptionRule)
    (attached : Option String) : Except ArgumentStop ArgumentReader := do
  match attached, rule.takesValue with
  | some value, true => (← reader.settle rules).addOption rule value
  | none, true => return { ← reader.settle rules with pending := some (.option rule) }
  | none, false => (← reader.settle rules).addOption rule ""
  | some _, false => .error .invalid

def takeName (rules : ArgumentRules) (reader : ArgumentReader) (text : List Char) :
    Except ArgumentStop ArgumentReader :=
  match rules.options.find? (·.name = String.ofList (text.takeWhile (· ≠ '='))) with
  | none => .error .invalid
  | some rule =>
      match text.dropWhile (· ≠ '=') with
      | [] => reader.takeOption rules rule none
      | _ :: value => reader.takeOption rules rule (some (String.ofList value))

/-- Takes options by their letters. What follows a letter that takes a value is the
value, perhaps behind an equals sign. -/
def takeLetters (rules : ArgumentRules) (reader : ArgumentReader) :
    List Char → Except ArgumentStop ArgumentReader
  | [] => .ok reader
  | letter :: rest =>
      match rules.options.find? (·.letter = some letter) with
      | none => .error .invalid
      | some rule =>
          if rule.takesValue then
            match rest with
            | [] => reader.takeOption rules rule none
            | '=' :: value => reader.takeOption rules rule (some (String.ofList value))
            | value => reader.takeOption rules rule (some (String.ofList value))
          else
            (reader.takeOption rules rule none).bind (takeLetters rules · rest)

/-- Takes an argument that is no option: a value if one has to come, unless there are
no more options. -/
def takeText (rules : ArgumentRules) (reader : ArgumentReader) (text : String) :
    Except ArgumentStop ArgumentReader :=
  match reader.pending, reader.isEscaped with
  | some (.option rule), false => .ok { reader with pending := some (.value rule text) }
  | _, _ =>
      (reader.settle rules).bind fun reader =>
        if reader.arguments.positionals.length < rules.positionals.length then
          .ok { reader with pending := some (.positional text) }
        else
          .error .invalid

/-- Reads one more argument. A single dash is no option. -/
def step (rules : ArgumentRules) (reader : ArgumentReader) (argument : String) :
    Except ArgumentStop ArgumentReader :=
  if reader.isEscaped then
    reader.takeText rules argument
  else
    match argument.toList with
    | ['-', '-'] => .ok { reader with isEscaped := true }
    | '-' :: '-' :: text => reader.takeName rules text
    | '-' :: letter :: rest => reader.takeLetters rules (letter :: rest)
    | _ => reader.takeText rules argument

end ArgumentReader

namespace Arguments

def read (rules : ArgumentRules) (arguments : List String) : Except ArgumentStop Arguments := do
  let reader ← (← arguments.foldlM (ArgumentReader.step rules) {}).settle rules
  if reader.arguments.positionals.length = rules.positionals.length then
    return reader.arguments
  else
    .error .invalid

/-- The value of an option, or a default if it is not given. There is none if the
value given cannot be read. -/
def value? {β : Type} (arguments : Arguments) (name : String) (read : String → Option β)
    (default : β) : Option β :=
  match arguments.options.lookup name with
  | some text => read text
  | none => some default

end Arguments

def questions : List OptionRule :=
  [{ name := "help", letter := some 'h', takesValue := false, isQuestion := true },
    { name := "version", letter := some 'V', takesValue := false, isQuestion := true }]

example :
    (Arguments.read
      ⟨{ name := "unit", letter := some 'u' } ::
        { name := "debug", letter := some 'd', takesValue := false } :: questions,
        [fun _ => true]⟩
      ["-du=pt", "x"]).toOption = some ⟨[("debug", ""), ("unit", "pt")], ["x"]⟩ := by
  decide +kernel

end PageSketch.CommandLine
