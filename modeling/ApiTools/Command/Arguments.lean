import ApiTools.Text.Blank

set_option autoImplicit false

/-!
# Command lines

A command line is a list of words. A word that begins with a dash is an option: `--name`,
`--name=value`, or a row of letters such as `-qv`, of which the last one may be followed by its
value. An option that takes a value and has none takes the next word, whatever it looks like.
Every other word is an argument, and two dashes make arguments of all words that follow.
-/

namespace ApiTools.Command

structure OptionRule where
  name : String
  letter : Option Char := none
  takesValue : Bool := false
  help : String
  deriving Repr, DecidableEq

/-- What is wrong with a command line. -/
inductive Misuse where
  | unknownOption (word : String)
  | missingValue (name : String)
  /-- An option that takes no value was given one. -/
  | unwantedValue (name : String)
  | missingCommand
  | unknownCommand (name : String)
  | missingArgument (name : String)
  | extraArgument (word : String)
  /-- The number of workers is not a positive integer. -/
  | badNumber (text : String)
  deriving Repr, DecidableEq

/-- An option as it was given, with its value if it takes one. -/
structure Given where
  name : String
  value : String := ""
  deriving Repr, DecidableEq

/-- The options and arguments of a command line, in order. -/
structure Arguments where
  options : List Given := []
  words : List String := []
  deriving Repr, DecidableEq

/-- The options in a word, and the one among them that still waits for its value. -/
structure WordOptions where
  options : List Given := []
  waiting : Option String := none
  deriving Repr, DecidableEq

namespace Arguments

def readLong (rules : List OptionRule) (word : List Char) : Except Misuse WordOptions :=
  let (name, value) := match Text.cut? ['='] word with
    | some (name, value) => (String.ofList name, some (String.ofList value))
    | none => (String.ofList word, none)
  match rules.find? (·.name == name), value with
  | none, _ => .error (.unknownOption ("--" ++ name))
  | some r, some value =>
    if r.takesValue then .ok { options := [⟨r.name, value⟩] } else .error (.unwantedValue name)
  | some r, none =>
    if r.takesValue then .ok { waiting := some r.name } else .ok { options := [⟨r.name, ""⟩] }

/-- Reads a row of letters. What follows a letter that takes a value is its value. -/
def readLetters (rules : List OptionRule) : List Char → Except Misuse WordOptions
  | [] => .ok {}
  | c :: rest =>
    match rules.find? (·.letter == some c) with
    | none => .error (.unknownOption (String.ofList ['-', c]))
    | some r =>
      if r.takesValue then
        if rest.isEmpty then .ok { waiting := some r.name }
        else .ok { options := [⟨r.name, String.ofList rest⟩] }
      else do
        let more ← readLetters rules rest
        return { more with options := ⟨r.name, ""⟩ :: more.options }

/-- Reads words. An option may still wait for its value. Options end at the first argument
unless they may be mixed with arguments. -/
def readFrom (rules : List OptionRule) (mixed : Bool) (waiting : Option String) :
    List String → Except Misuse Arguments
  | [] =>
    match waiting with
    | some name => .error (.missingValue name)
    | none => .ok {}
  | w :: rest =>
    match waiting with
    | some name => do
      let more ← readFrom rules mixed none rest
      return { more with options := ⟨name, w⟩ :: more.options }
    | none =>
      match w.toList with
      | ['-', '-'] => .ok { words := rest }
      | '-' :: '-' :: name => do
        let here ← readLong rules name
        let more ← readFrom rules mixed here.waiting rest
        return { more with options := here.options ++ more.options }
      | '-' :: c :: letters => do
        let here ← readLetters rules (c :: letters)
        let more ← readFrom rules mixed here.waiting rest
        return { more with options := here.options ++ more.options }
      | _ =>
        if mixed then do
          let more ← readFrom rules mixed none rest
          return { more with words := w :: more.words }
        else .ok { words := w :: rest }

def read (rules : List OptionRule) (mixed : Bool) (line : List String) :
    Except Misuse Arguments :=
  readFrom rules mixed none line

def has (a : Arguments) (name : String) : Bool := a.options.any (·.name == name)

/-- The value of an option: the last one that was given. -/
def value? (a : Arguments) (name : String) : Option String :=
  ((a.options.filter (·.name == name)).getLast?).map (·.value)

end Arguments

end ApiTools.Command
