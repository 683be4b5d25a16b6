/-!
# Command line options

Arguments are read from left to right against a table of options. An option has a long name after
two hyphens and perhaps a letter after one. A value follows an equals sign, or is the next argument;
after a letter it may follow at once. All other arguments are operands, and so is a single hyphen.
Two hyphens make operands of all arguments after them.
-/

namespace AccessorUpgrade.CommandLine

/-- What an option is for. -/
inductive OptionKind where
  /-- It takes a value. -/
  | value
  /-- It is given or not. -/
  | switch
  /-- It asks for the help text. -/
  | help
  /-- It asks for the version. -/
  | version
deriving DecidableEq, Repr

/-- An option that is known. Options are told apart by their keys. -/
structure KnownOption (κ : Type) where
  key : κ
  long : String
  letter : Option Char
  kind : OptionKind
deriving Repr

/-- Why arguments are not carried out. -/
inductive Halt where
  | help
  | version
  | unexpectedArgument (arg : String)
  | unexpectedValue (option : String)
  | missingValue (option : String)
  | invalidValue (option : String) (value : String)
  | repeated (option : String)
  | missingOperand (operand : String)
deriving DecidableEq, Repr

/-- What arguments say. -/
structure Given (κ : Type) where
  /-- Options and their values, in order; the value of a switch is empty. -/
  options : List (κ × String)
  operands : List String
deriving Repr

namespace Given

variable {κ : Type} [BEq κ]

/-- No arguments. -/
def empty : Given κ := ⟨[], []⟩

/-- The value of an option. -/
def value? (g : Given κ) (key : κ) : Option String := (g.options.find? (·.1 == key)).map (·.2)

/-- Adds an option, unless it has been given before. -/
def add (g : Given κ) (o : KnownOption κ) (value : String) : Except Halt (Given κ) :=
  if (g.value? o.key).isSome then .error (.repeated o.long)
  else .ok { g with options := g.options ++ [(o.key, value)] }

/-- Adds an operand, if fewer than `most` have been given. -/
def addOperand (g : Given κ) (most : Nat) (arg : String) : Except Halt (Given κ) :=
  if g.operands.length < most then .ok { g with operands := g.operands ++ [arg] }
  else .error (.unexpectedArgument arg)

/-- Adds operands. -/
def addOperands (g : Given κ) (most : Nat) (args : List String) : Except Halt (Given κ) :=
  args.foldlM (·.addOperand most) g

/-- Adds an option that takes no value. -/
def addSwitch (g : Given κ) (o : KnownOption κ) : Except Halt (Given κ) :=
  match o.kind with
  | .help => .error .help
  | .version => .error .version
  | _ => g.add o ""

end Given

/-- How an argument is written. -/
inductive Shape where
  /-- Two hyphens alone. -/
  | separator
  /-- A long name, and what follows the first equals sign. -/
  | long (name : String) (value : Option String)
  /-- Letters after a hyphen. -/
  | letters (letters : List Char)
  | operand
deriving DecidableEq, Repr

/-- The form of an argument. -/
def Shape.of (arg : String) : Shape :=
  match arg.toList with
  | ['-', '-'] => separator
  | '-' :: '-' :: rest =>
    let value :=
      match rest.dropWhile (· != '=') with
      | [] => none
      | _ :: value => some (String.ofList value)
    long (String.ofList (rest.takeWhile (· != '='))) value
  | '-' :: first :: rest => letters (first :: rest)
  | _ => operand

/-- The options so far, and the one that the next argument has to be the value of. -/
abbrev Step (κ : Type) := Given κ × Option (KnownOption κ)

section

variable {κ : Type} [BEq κ]

/-- Reads an option that is given by its long name. -/
def readLong (known : List (KnownOption κ)) (g : Given κ) (name : String) (value : Option String) :
    Except Halt (Step κ) :=
  match known.find? (·.long == name) with
  | none => .error (.unexpectedArgument ("--" ++ name))
  | some o =>
    match o.kind, value with
    | .value, some value => (g.add o value).map (·, none)
    | .value, none => .ok (g, some o)
    | _, some _ => .error (.unexpectedValue name)
    | _, none => (g.addSwitch o).map (·, none)

/-- Reads options that are given by letters. -/
def readLetters (known : List (KnownOption κ)) (g : Given κ) : List Char → Except Halt (Step κ)
  | [] => .ok (g, none)
  | letter :: rest =>
    match known.find? (·.letter == some letter) with
    | none => .error (.unexpectedArgument ("-" ++ String.singleton letter))
    | some o =>
      match o.kind, rest with
      | .value, [] => .ok (g, some o)
      | .value, '=' :: value => (g.add o (String.ofList value)).map (·, none)
      | .value, value => (g.add o (String.ofList value)).map (·, none)
      | _, rest =>
        match g.addSwitch o with
        | .error halt => .error halt
        | .ok g => readLetters known g rest

/-- Reads arguments after others. An option that waits for its value takes the next argument, if
that is an operand. -/
def readArguments (known : List (KnownOption κ)) (most : Nat) :
    Given κ → Option (KnownOption κ) → List String → Except Halt (Given κ)
  | g, none, [] => .ok g
  | _, some o, [] => .error (.missingValue o.long)
  | g, waiting, arg :: rest =>
    match Shape.of arg, waiting with
    | .operand, some o =>
      match g.add o arg with
      | .error halt => .error halt
      | .ok g => readArguments known most g none rest
    | .operand, none =>
      match g.addOperand most arg with
      | .error halt => .error halt
      | .ok g => readArguments known most g none rest
    | _, some o => .error (.missingValue o.long)
    | .separator, none => g.addOperands most rest
    | .long name value, none =>
      match readLong known g name value with
      | .error halt => .error halt
      | .ok (g, waiting) => readArguments known most g waiting rest
    | .letters letters, none =>
      match readLetters known g letters with
      | .error halt => .error halt
      | .ok (g, waiting) => readArguments known most g waiting rest

end

end AccessorUpgrade.CommandLine
