import ApiTools.Command.Request
import ApiTools.Crash
import ApiTools.Rendering.Context

set_option autoImplicit false

/-!
# Help

The pages of help list commands and options; a misuse is answered with the first line of a page
and what is wrong. Help goes to the output and misuse to the channel for errors.
-/

namespace ApiTools.Command

/-! ## Exit codes -/

def successCode : Nat := 0

/-- The code for a failure without a code of its own. -/
def failureCode : Nat := 1

def misuseCode : Nat := 2

/-- The code for a document that cannot be loaded or has no paths. -/
def documentCode : Nat := 7

def invalidCode : Nat := 8

/-! ## Pages -/

structure Entry where
  name : String
  help : String

def verbEntries : List Entry :=
  [⟨"generate", "Generate an MCP server from an OpenAPI or Swagger document."⟩,
   ⟨"batch", "Generate one MCP server from several documents."⟩,
   ⟨"validate", "Validate an OpenAPI or Swagger document."⟩,
   ⟨"inspect", "Preview tools, schemas, and auth."⟩]

def aspectEntries : List Entry :=
  [⟨"tools", "List the tools that would be generated."⟩,
   ⟨"tool", "Print one tool descriptor as JSON."⟩,
   ⟨"schemas", "List the named schemas, with their type and up to five properties."⟩,
   ⟨"auth", "Show security schemes and the variables generated servers read."⟩,
   ⟨"info", "Show API metadata, base URL, and counts."⟩]

/-- The words that stand on a command line after the program's name. -/
def Page.usage : Page → String
  | .program => "[OPTIONS] COMMAND [ARGS]..."
  | .verb .generate => "generate [OPTIONS] SOURCE"
  | .verb .batch => "batch [OPTIONS] BATCH_FILE"
  | .verb .validate => "validate [OPTIONS] SOURCE"
  | .verb .inspect => "inspect [OPTIONS] COMMAND [ARGS]..."
  | .aspect .tool => "inspect tool [OPTIONS] SOURCE NAME"
  | .aspect a => "inspect " ++ a.name ++ " [OPTIONS] SOURCE"

def Page.rules : Page → List OptionRule
  | .program => programRules
  | .verb v => v.rules
  | .aspect a => a.rules

def Page.entries : Page → List Entry
  | .program => verbEntries
  | .verb .inspect => aspectEntries
  | _ => []

def OptionRule.spelling (r : OptionRule) : String :=
  (match r.letter with
    | some c => "-" ++ c.toString ++ ", "
    | none => "") ++ "--" ++ r.name ++ (if r.takesValue then " TEXT" else "")

/-- A line of a page, and those around it. -/
def titled (title : String) (lines : List String) : List String :=
  if lines.isEmpty then [] else ["", title] ++ lines

def Page.usageLine (p : Page) : String := "Usage: " ++ Crash.programName ++ " " ++ p.usage

def Page.text (p : Page) : String :=
  "\n".intercalate <|
    [p.usageLine]
      ++ titled "Options:" (p.rules.map fun r => "  " ++ r.spelling ++ "  " ++ r.help)
      ++ titled "Commands:" (p.entries.map fun e => "  " ++ e.name ++ "  " ++ e.help)

def versionText : String := Crash.programName ++ " " ++ Rendering.generatorVersion

def Misuse.message : Misuse → String
  | unknownOption word => "No such option: " ++ word
  | missingValue name => "Option '--" ++ name ++ "' requires an argument."
  | unwantedValue name => "Option '--" ++ name ++ "' does not take a value."
  | missingCommand => "Missing command."
  | unknownCommand name => "No such command '" ++ name ++ "'."
  | missingArgument name => "Missing argument '" ++ name ++ "'."
  | extraArgument word => "Got unexpected extra argument (" ++ word ++ ")"
  | badNumber text => "Invalid value for '--max-workers': '" ++ text ++ "' is not in range."

/-- Answers a command line that is no request, and gives the exit code. -/
def Refusal.answer : Refusal → Action Nat
  | .help page => do
    Console.data page.text
    return successCode
  | .nothing page => do
    Console.data page.text
    return misuseCode
  | .version => do
    Console.data versionText
    return successCode
  | .misuse m => do
    Action.say .err (Page.usageLine .program ++ "\n\nError: " ++ m.message ++ "\n")
    return misuseCode

end ApiTools.Command
