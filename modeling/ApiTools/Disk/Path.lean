import ApiTools.Text.Blank

set_option autoImplicit false

/-!
# Paths

A path is a list of names, taken from the root or from the working directory. Empty names and
single points say nothing and are dropped; double points stay, since where they lead depends on
the disk. The empty relative path is written as a single point.
-/

namespace ApiTools

structure Path where
  /-- The slashes it begins with: none, one, or two. -/
  root : String := ""
  names : List String := []
  deriving Repr, DecidableEq

namespace Path

/-- The slashes that a path begins with. Exactly two of them are kept apart from one. -/
def rootOf : List Char → String
  | '/' :: '/' :: '/' :: _ => "/"
  | '/' :: '/' :: _ => "//"
  | '/' :: _ => "/"
  | _ => ""

def ofText (s : String) : Path :=
  { root := rootOf s.toList
    names := ((Text.runs (· != '/') s.toList).map String.ofList).filter (· != ".") }

def text (p : Path) : String :=
  if p.root.isEmpty && p.names.isEmpty then "." else p.root ++ "/".intercalate p.names

def isAbsolute (p : Path) : Bool := !p.root.isEmpty

/-- Whether a text can be handed to a disk as a path at all. -/
def isPossible (p : Path) : Bool := !p.text.toList.contains '\x00'

/-- The most bytes that a path may have. -/
def longestPath : Nat := 4095

/-- The most bytes that a name may have. -/
def longestName : Nat := 255

def isLongName (name : String) : Bool := longestName < name.utf8ByteSize

def isLong (p : Path) : Bool := longestPath < p.text.utf8ByteSize

/-- A path below another; an absolute one stands for itself. -/
def join (base p : Path) : Path :=
  if p.isAbsolute then p else { base with names := base.names ++ p.names }

def parent (p : Path) : Path := { p with names := p.names.dropLast }

def name (p : Path) : String := p.names.getLast?.getD ""

/-- The last name cut before its last point, unless that stands at one of its ends. -/
def splitName (p : Path) : String × String :=
  let cs := p.name.toList
  let ending := (cs.reverse.takeWhile (· != '.')).reverse
  let stem := cs.take (cs.length - ending.length - 1)
  if ending.length < cs.length && !ending.isEmpty && !stem.isEmpty then
    (String.ofList stem, String.ofList ('.' :: ending))
  else (p.name, "")

/-- The last name without its ending. -/
def stem (p : Path) : String := p.splitName.1

/-- The ending of the last name, with its point. -/
def suffix (p : Path) : String := p.splitName.2

end Path

end ApiTools
