import ApiTools.Json.Writer
import ApiTools.Rendering.Context

set_option autoImplicit false

/-!
# Plain templates

An engine for templates that only have gaps and loops. A gap between double braces shows a value,
as it is or as JSON; a tag between a brace and a percent sign opens or closes a loop over a list. A
tag that stands alone on a line leaves no trace of that line. A name that means nothing is a fault.
-/

namespace ApiTools.Rendering

/-- A name with the attributes that are asked for. -/
structure Reference where
  name : String
  attributes : List String := []
  deriving Repr, DecidableEq

inductive TemplatePart where
  | text (s : List Char)
  | value (r : Reference) (asJson : Bool)
  | each (name : String) (r : Reference) (body : List TemplatePart)

namespace Template

inductive Failure where
  | malformed
  /-- A name means nothing. -/
  | undefined (name : String)
  /-- A value has no such attribute. -/
  | noAttribute (name : String)
  /-- A value is not what it is used for: the template asks for what cannot be done. -/
  | misused
  deriving Repr, DecidableEq

def Failure.message : Failure → String
  | malformed => "malformed template"
  | undefined name => "'" ++ name ++ "' is undefined"
  | noAttribute name => "no attribute " ++ name
  | misused => "a value is not what it is used for"

def Failure.toEngine : Failure → EngineFailure
  | misused => .broken misused.message
  | f => .fault f.message

/-! ## Tokens -/

/-- A piece of a template: text, the inside of a gap, or the inside of a tag. -/
inductive Token where
  | text (s : List Char)
  | gap (s : List Char)
  | tag (s : List Char)
  deriving Repr, DecidableEq

/-- Where a scan stands. -/
inductive Mode where
  | text
  | gap
  | tag
  | comment

/-- The text before a tag: blanks at its end are dropped if nothing else stands before the tag on
its line. -/
def beforeTag (atLineStart : Bool) (s : List Char) : List Char :=
  let back := s.reverse.dropWhile fun c => Text.isBlank c && c != '\n'
  match back with
  | [] => if atLineStart then [] else s
  | '\n' :: _ => back.reverse
  | _ => s

def textToken (s : List Char) : List Token := if s.isEmpty then [] else [.text s]

/-- Cuts a template into tokens. What was read since the last cut comes last character first. -/
def scan (mode : Mode) (atLineStart : Bool) (read : List Char) : List Char → Option (List Token)
  | [] =>
    match mode with
    | .text => some (textToken read.reverse)
    | _ => none
  | '\x7b' :: '\x7b' :: rest =>
    match mode with
    | .text => (scan .gap false [] rest).map (textToken read.reverse ++ ·)
    | _ => none
  | '\x7b' :: '%' :: rest =>
    match mode with
    | .text => (scan .tag false [] rest).map (textToken (beforeTag atLineStart read.reverse) ++ ·)
    | _ => none
  | '\x7b' :: '#' :: rest =>
    match mode with
    | .text =>
      (scan .comment false [] rest).map (textToken (beforeTag atLineStart read.reverse) ++ ·)
    | _ => none
  | '\x7d' :: '\x7d' :: rest =>
    match mode with
    | .gap => (scan .text false [] rest).map (.gap read.reverse :: ·)
    | m => scan m atLineStart ('\x7d' :: '\x7d' :: read) rest
  | '%' :: '\x7d' :: '\n' :: rest =>
    match mode with
    | .tag => (scan .text true [] rest).map (.tag read.reverse :: ·)
    | m => scan m atLineStart ('\n' :: '\x7d' :: '%' :: read) rest
  | '%' :: '\x7d' :: rest =>
    match mode with
    | .tag => (scan .text false [] rest).map (.tag read.reverse :: ·)
    | m => scan m atLineStart ('\x7d' :: '%' :: read) rest
  | '#' :: '\x7d' :: '\n' :: rest =>
    match mode with
    | .comment => scan .text true [] rest
    | m => scan m atLineStart ('\n' :: '\x7d' :: '#' :: read) rest
  | '#' :: '\x7d' :: rest =>
    match mode with
    | .comment => scan .text false [] rest
    | m => scan m atLineStart ('\x7d' :: '#' :: read) rest
  | c :: rest => scan mode atLineStart (c :: read) rest

/-! ## Parts -/

/-- A name: letters, digits and underscores, and no digit in front. -/
def isName (cs : List Char) : Bool :=
  match cs with
  | [] => false
  | c :: _ => !Text.isAsciiDigit c && cs.all fun d => Text.isAsciiAlnum d || d == '_'

def reference? (cs : List Char) : Option Reference :=
  let names := Text.pieces (· != '.') (Text.trim cs)
  if names.all isName then
    match names.map String.ofList with
    | n :: attributes => some ⟨n, attributes⟩
    | [] => none
  else none

def gap? (cs : List Char) : Option TemplatePart :=
  match Text.pieces (· != '|') cs with
  | [r] => (reference? r).map fun r => .value r false
  | [r, f] =>
    if Text.trim f == "tojson".toList then (reference? r).map fun r => .value r true else none
  | _ => none

/-- A loop that is open: its name, what it runs over, and the parts before it. -/
structure OpenLoop where
  name : String
  target : Reference
  before : List TemplatePart

def opening? (cs : List Char) : Option (String × Reference) :=
  match (Text.words cs).map String.ofList with
  | ["for", name, "in", target] => (reference? target.toList).map fun r => (name, r)
  | _ => none

def isClosing (cs : List Char) : Bool := (Text.words cs).map String.ofList == ["endfor"]

/-- The parts that tokens make. The parts of the loop that was opened last come last one
first. -/
def parts? (loops : List OpenLoop) (read : List TemplatePart) :
    List Token → Option (List TemplatePart)
  | [] => if loops.isEmpty then some read.reverse else none
  | .text s :: rest => parts? loops (.text s :: read) rest
  | .gap s :: rest => (gap? s).bind fun p => parts? loops (p :: read) rest
  | .tag s :: rest =>
    if isClosing s then
      match loops with
      | [] => none
      | l :: outer => parts? outer (.each l.name l.target read.reverse :: l.before) rest
    else (opening? s).bind fun (name, target) => parts? (⟨name, target, read⟩ :: loops) [] rest

def read? (s : String) : Option (List TemplatePart) :=
  (scan .text true [] s.toList).bind (parts? [] [])

/-! ## Rendering -/

/-- What a name stands for. Tools have attributes and no JSON of their own. -/
inductive Meaning where
  | value (v : Value)
  | tool (t : Tool)
  | tools (ts : List Tool)

/-- What names stand for; of two entries for a name the first one counts. -/
abbrev Meanings := List (String × Meaning)

def meaning (env : Meanings) (name : String) : Except Failure Meaning :=
  match env.find? (·.1 == name) with
  | some (_, m) => .ok m
  | none => .error (.undefined name)

def attributesOf (t : Tool) : List (String × Value) :=
  [("name", .str t.name), ("description", .str t.description), ("method", .str t.method),
   ("path", .str t.path), ("base_url", (t.baseUrl.map Value.str).getD .null)]

/-- The members that attributes are looked up in. -/
def Meaning.members : Meaning → Members
  | .value (.map ms) => ms
  | .tool t => (attributesOf t).map fun (k, v) => (.str k, v)
  | _ => []

def attributeOf (m : Meaning) (name : String) : Except Failure Meaning :=
  match Value.member? m.members name with
  | some v => .ok (.value v)
  | none => .error (.noAttribute name)

def resolve (env : Meanings) (r : Reference) : Except Failure Meaning := do
  r.attributes.foldlM attributeOf (← meaning env r.name)

/-- What is shown of something. -/
def Meaning.text : Meaning → String
  | .value v => v.plainText
  | .tool t => t.name
  | .tools ts => ", ".intercalate (ts.map Tool.name)

def shown (env : Meanings) (r : Reference) (asJson : Bool) : Except Failure String :=
  match resolve env r, asJson with
  | .ok m, false => .ok m.text
  | .ok (.value v), true => .ok (Json.write Json.embedded v)
  | .ok _, true => .error .misused
  | .error (.undefined _), true => .error .misused
  | .error f, _ => .error f

/-- What a loop runs over. -/
def items (env : Meanings) (r : Reference) : Except Failure (List Meaning) := do
  match ← resolve env r with
  | .tools ts => return ts.map .tool
  | .value (.list xs) => return xs.map .value
  | .value (.map ms) => return ms.map fun (k, _) => .value k
  | .value (.str s) => return s.toList.map fun c => .value (.str (String.singleton c))
  | _ => throw .misused

mutual

def renderPart (env : Meanings) : TemplatePart → Except Failure String
  | .text s => .ok (String.ofList s)
  | .value r asJson => shown env r asJson
  | .each name r body => do
    let xs ← items env r
    let texts ← xs.mapM fun x => renderParts ((name, x) :: env) body
    return String.join texts

def renderParts (env : Meanings) : List TemplatePart → Except Failure String
  | [] => .ok ""
  | p :: ps => do
    let s ← renderPart env p
    return s ++ (← renderParts env ps)

end

def meanings (c : Context) : Meanings :=
  let usage := c.usage.map fun (v, users) => (v, Value.list (users.map .str))
  [("server_name", .value (.str c.serverName)), ("title", .value (.str c.title)),
   ("version", .value (.str c.version)), ("description", .value (.str c.description)),
   ("base_url", .value (.str c.baseUrl)), ("base_url_env", .value (.str c.baseUrlVariable)),
   ("tools", .tools c.tools), ("tool_count", .value (.int c.tools.length)),
   ("env_variables", .value (.list (c.credentials.map .str))),
   ("env_usage", .value (Value.object usage)),
   ("generator_version", .value (.str c.generatorVersion))]

def render (c : Context) (template : String) : Except Failure String :=
  match read? template with
  | some parts => renderParts (meanings c) parts
  | none => .error .malformed

/-- The engine for plain templates. -/
def engine : Engine := fun c _ template => (render c template).mapError Failure.toEngine

end Template

end ApiTools.Rendering
