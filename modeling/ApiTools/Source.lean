import ApiTools.Action.Basic
import ApiTools.Document
import ApiTools.Log
import ApiTools.Text.Case
import ApiTools.Text.Charset
import ApiTools.Text.Encoding

set_option autoImplicit false

/-!
# Sources of documents

A document comes from the input, from an address on the web, or from a file. The ending of the
file's name or the type that the server tells may say in which format it is written.
-/

namespace ApiTools

/-- Where a document comes from. -/
inductive Source where
  | input
  | web (url : String)
  | file (path : String)
  deriving Repr, DecidableEq

namespace Source

def isWeb (s : String) : Bool :=
  Text.beginsWith "http://".toList s.toList || Text.beginsWith "https://".toList s.toList

def ofText (s : String) : Source :=
  if s == "-" then .input else if isWeb s then .web s else .file s

/-- Why no document can be had from a source. -/
inductive Failure where
  | noInput
  | unreadableInput (reason : String)
  /-- The input is not in its encoding. -/
  | inputNotText
  /-- The server answered with a code that is no success. -/
  | refused (status : Nat) (url : String)
  | unreachable (url reason : String)
  /-- The request went wrong in a way that requests are not known to. -/
  | broken (url cause : String)
  /-- The body of the answer is no text in its set of characters: it lacks the mark that would tell
  the order of its bytes, for example. -/
  | undecodable (url : String)
  | notFound (path : String)
  /-- The disk does not tell what is at a path. -/
  | unseen (path reason : String)
  | unreadable (path reason : String)
  /-- The file has nothing but blanks. -/
  | empty (path : String)
  /-- The file is not in UTF-8. -/
  | notText (path : String)
  /-- The text, of which only the length is kept, is nested too deep for the stack. -/
  | tooDeep (length : Nat)
  /-- The text is no document. -/
  | problem (p : Document.Problem)
  deriving Repr, DecidableEq

def Failure.message : Failure → String
  | noInput => "No input received from stdin"
  | unreadableInput reason => "Failed to read from stdin: " ++ reason
  | inputNotText => "The input is no text"
  | refused status url => "HTTP " ++ toString status ++ " fetching document from " ++ url
  | unreachable url reason => "Failed to fetch document from " ++ url ++ ": " ++ reason
  | broken url cause => "Cannot ask for " ++ url ++ ": " ++ cause
  | undecodable url => "Document is no text in its set of characters: " ++ url
  | notFound path => "Document not found: " ++ path
  | unseen path reason => "Cannot look at " ++ path ++ ": " ++ reason
  | unreadable path reason => "Failed to read " ++ path ++ ": " ++ reason
  | empty path => "Document is empty: " ++ path
  | notText path => "Document is not in UTF-8: " ++ path
  | tooDeep _ => "Document is nested too deep"
  | problem p => p.message

/-- Whether a failure was reckoned with. The others are faults of this program. -/
def Failure.isExpected : Failure → Bool
  | inputNotText | broken _ _ | undecodable _ | unseen _ _ | notText _ | tooDeep _ => false
  | problem (.impossible _) | problem .tooLong => false
  | _ => true

/-- A text with what is known about its format. -/
abbrev Hinted := String × Hint

/-- What the type that a server tells says about the format. -/
def hintOfType (contentType : String) : Hint :=
  if Text.contains contentType "json" then .json
  else if Text.contains contentType "yaml" || Text.contains contentType "yml" then .yaml
  else .none

/-- What the ending of a file's name says about the format. -/
def hintOfPath (p : Path) : Hint :=
  let ending := Text.lowercase p.suffix
  if ending == ".json" then .json
  else if ending == ".yaml" || ending == ".yml" then .yaml
  else .none

def ofInput : Intake → Except Failure Hinted
  | .failed reason => .error (.unreadableInput reason)
  | .notText => .error .inputNotText
  | .text s => if Text.isAllBlank s then .error .noInput else .ok (s, .none)

/-- The text of a body. It is in UTF-8 unless its type tells another set of characters. -/
def bodyText? (contentType : String) (body : ByteArray) (foreign : Option (Option String)) :
    Option String :=
  match Text.charsetOfType? contentType, foreign with
  | some charset, _ => charset.decode? body.toList
  | none, some text => text
  | none, none => Text.Charset.utf8.decode? body.toList

def ofReply (url : String) : Reply → Except Failure Hinted
  | .failed reason => .error (.unreachable url reason)
  | .broken cause => .error (.broken url cause)
  | .answered status contentType body foreign =>
    if 200 ≤ status && status < 300 then
      match bodyText? contentType body foreign with
      | some text => .ok (text, hintOfType contentType)
      | none => .error (.undecodable url)
    else .error (.refused status url)

def ofContent (path : String) : Attempt ByteArray → Except Failure Hinted
  | .error reason => .error (.unreadable path reason)
  | .ok content =>
    match Text.ofFile? content with
    | none => .error (.notText path)
    | some text =>
      if Text.isAllBlank text then .error (.empty path)
      else .ok (text, hintOfPath (Path.ofText path))

def rawText : Source → Action (Except Failure Hinted)
  | .input => .input fun r => .done (ofInput r)
  | .web url => .fetch url fun r => .done (ofReply url r)
  | .file path => .look (Path.ofText path) fun
    | .ok .file => .read (Path.ofText path) fun r => .done (ofContent path r)
    | .ok _ => .done (.error (.notFound path))
    | .error reason => .done (.error (.unseen path reason))

/-- Gets the text from a source, unless it is nested too deep to be decoded. -/
def text (s : Source) : Action (Except Failure Hinted) := do
  match ← s.rawText with
  | .error f => return .error f
  | .ok hinted =>
    if ← Action.overflows hinted.1 .done then return .error (.tooDeep hinted.1.length)
    else return .ok hinted

def lengthNote (source : String) (length : Nat) : Log.Note :=
  Log.debug ("Loaded " ++ toString length ++ " characters from " ++ source)

/-- The document in a text from a source, and a note about the length of the text. -/
def decode (source : String) :
    Except Failure Hinted → Except Failure Value × List Log.Note
  | .error (.tooDeep length) => (.error (.tooDeep length), [lengthNote source length])
  | .error f => (.error f, [])
  | .ok (text, hint) =>
    ((Document.parse text hint).mapError .problem, [lengthNote source text.length])

/-- Gets the document from the source that a text names. -/
def load (source : String) : Action (Except Failure Value × List Log.Note) := do
  return decode source (← (ofText source).text)

end Source

end ApiTools
