import ApiTools.Action.Basic
import ApiTools.Console.Markup
import ApiTools.Json.Writer
import ApiTools.Log

set_option autoImplicit false

/-!
# The console

Data goes to the output, and everything that is said about it goes to the channel for errors, so
that the data can be passed on. A console knows the form of the data, whether colour is allowed,
and which messages the user wants to see. For a reader at a terminal data is drawn: how that looks,
with colours, frames and cells cut to the width of the terminal, is left to a drawing.
-/

namespace ApiTools

/-- The forms of data. -/
inductive Format where
  | json
  | plain
  /-- For a reader at a terminal. -/
  | rich
  deriving Repr, DecidableEq

namespace Format

def all : List Format := [json, plain, rich]

def name : Format → String
  | json => "json"
  | plain => "plain"
  | rich => "rich"

def ofName? (s : String) : Option Format := all.find? (·.name == s)

end Format

structure Console where
  format : Format := .plain
  /-- Whether messages may have colour. -/
  colour : Bool := false
  quiet : Bool := false
  verbose : Bool := false
  deriving Repr, DecidableEq

inductive Message where
  | info (text : String)
  /-- Something was done. -/
  | success (text : String)
  | warning (text : String)
  | error (text : String)
  /-- What the user may do next. -/
  | suggestion (text : String)
  | debug (text : String)
  deriving Repr, DecidableEq

def Message.ofNote (n : Log.Note) : Message :=
  match n.level with
  | .error => .error n.text
  | .warning => .warning n.text
  | .info => .info n.text
  | .debug => .debug n.text

/-- How data is drawn for a reader at a terminal: the text of a JSON value, and a table with its
title, its headers and its rows. There may be a cause why a table cannot be drawn, such as a title
that is no markup. -/
structure Drawing where
  json : String → String
  table : Option String → List String → List (List String) → Except String String

namespace Console

/-! ## Opening a console -/

def forbidsColour (noColour terminalKind : Option String) : Bool :=
  noColour.isSome || terminalKind == some "dumb"

/-- The form of the data: the one that is wanted, or else what suits the output. -/
def chooseFormat (wanted : Option Format) (colour terminal : Bool) : Format :=
  wanted.getD (if terminal && colour then .rich else .plain)

def start (wanted : Option Format) (noColour quiet verbose : Bool) : Action Console := do
  let forbidden := forbidsColour (← Action.ask "NO_COLOR") (← Action.ask "TERM")
  let colour := !(noColour || forbidden)
  let terminal ← Action.terminal .done
  return {
    format := chooseFormat wanted colour terminal
    colour := colour
    quiet := quiet
    verbose := verbose }

/-! ## Messages -/

def shows (c : Console) : Message → Bool
  | .info _ | .success _ | .suggestion _ => !c.quiet
  | .warning _ | .error _ => true
  | .debug _ => c.verbose

/-- A message in a style, after a heading in that style if there is one. -/
def lay (c : Console) (style heading : String) (text : String) : String :=
  if !c.colour then (if heading.isEmpty then text else heading ++ " " ++ text)
  else
    let body := Markup.escape text.toList
    String.ofList <| Markup.plain <|
      if style.isEmpty then body
      else if heading.isEmpty then Markup.styled style body
      else Markup.styled style heading.toList ++ ' ' :: body

def line (c : Console) : Message → String
  | .info s => c.lay "" "" s
  | .success s => c.lay "green" "" s
  | .warning s => c.lay "yellow" "Warning:" s
  | .error s => c.lay "bold red" "Error:" s
  | .suggestion s => c.lay "dim" "" ("→ " ++ s)
  | .debug s => c.lay "dim" "" ("[debug] " ++ s)

def tell (c : Console) (m : Message) : Action Unit :=
  if c.shows m then Action.say .err (c.line m ++ "\n") else .done ()

def tellAll (c : Console) : List Message → Action Unit
  | [] => .done ()
  | m :: rest => do
    c.tell m
    c.tellAll rest

/-- The least level of notes that are passed on to the user. -/
def noteLevel (quiet verbose : Bool) : Log.Level :=
  if verbose then .debug else if quiet then .error else .warning

/-- Passes the notes of a level and above on to the user. -/
def logFrom (c : Console) (level : Log.Level) (notes : List Log.Note) : Action Unit :=
  c.tellAll ((Log.atLeast level notes).map Message.ofNote)

/-- Passes notes on to the user, as many as the user wants to see. -/
def log (c : Console) (notes : List Log.Note) : Action Unit :=
  c.logFrom (noteLevel c.quiet c.verbose) notes

/-! ## Data -/

def data (text : String) : Action Unit := Action.say .out (text ++ "\n")

def json (d : Drawing) (c : Console) (v : Value) : Action Unit :=
  let text := Json.write Json.indented v
  match c.format with
  | .rich => Action.say .out (d.json text)
  | .json | .plain => data text

/-- A row of a table as a mapping. Of columns with one name, the last one counts. -/
def record (headers row : List String) : Value :=
  .map (Value.ofMembers ((headers.zip row).map fun (h, cell) => (.str h, .str cell)))

/-- The cells of a row, with tabs between them. -/
def rowText (row : List String) : String := "\t".intercalate row

/-- The text of a table: a list of mappings, lines of cells, or a drawing. -/
def tableText (d : Drawing) (c : Console) (title : Option String) (headers : List String)
    (rows : List (List String)) : Except String String :=
  match c.format with
  | .json => .ok (Json.write Json.indented (.list (rows.map (record headers))) ++ "\n")
  | .plain => .ok ("\n".intercalate ((headers :: rows).map rowText) ++ "\n")
  | .rich => d.table title headers rows

/-- Writes a table as data, unless it cannot be drawn. -/
def table (d : Drawing) (c : Console) (title : Option String) (headers : List String)
    (rows : List (List String)) : Action (Except String Unit) :=
  match c.tableText d title headers rows with
  | .error cause => .done (.error cause)
  | .ok text => do
    Action.say .out text
    return .ok ()

end Console

/-- The drawing that leaves data as it is in the plain form. -/
def Drawing.plain : Drawing :=
  { json := fun text => text ++ "\n"
    table := fun _ headers rows =>
      .ok ("\n".intercalate ((headers :: rows).map Console.rowText) ++ "\n") }

end ApiTools
