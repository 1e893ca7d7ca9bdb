import ApiTools.Disk.Path

set_option autoImplicit false

/-!
# Disks

A disk holds files and directories at places, which are lists of names from the root. A path
leads to a place: each of its names has to be a directory, except for the last one, and double
points lead back. A disk refuses names and paths that are too long; a name is only looked at where
the directory around it exists.
-/

namespace ApiTools

/-- A place on a disk. -/
abbrev Place := List String

/-- What is found at a place. -/
inductive DiskEntry where
  | directory
  | file (content : ByteArray)

/-- A disk: its entries, in the order in which they were made. -/
structure Disk where
  entries : List (Place × DiskEntry) := []

namespace Disk

/-- What is at a place. The root is always there. -/
def at? (d : Disk) (p : Place) : Option DiskEntry :=
  if p.isEmpty then some .directory else (d.entries.find? (·.1 == p)).map (·.2)

def isDirectory (d : Disk) (p : Place) : Bool :=
  match d.at? p with
  | some .directory => true
  | _ => false

def content? (d : Disk) (p : Place) : Option ByteArray :=
  match d.at? p with
  | some (.file c) => some c
  | _ => none

/-- Puts an entry at a place, instead of the one that was there. -/
def put (d : Disk) (p : Place) (e : DiskEntry) : Disk :=
  if d.entries.any (·.1 == p) then
    { entries := d.entries.map fun x => if x.1 == p then (p, e) else x }
  else { entries := d.entries ++ [(p, e)] }

def remove (d : Disk) (p : Place) : Disk :=
  { entries := d.entries.filter fun x => !(x.1 == p) }

def files (d : Disk) : List (Place × ByteArray) :=
  d.entries.filterMap fun (p, e) =>
    match e with
    | .file c => some (p, c)
    | .directory => none

/-! ## Paths -/

/-- Where a path leads. -/
inductive Target where
  | place (p : Place)
  /-- A name on the way is no directory. -/
  | nowhere
  /-- The path or a name on the way is too long. -/
  | refused
  deriving Repr, DecidableEq

def follow (d : Disk) (start : Place) : List String → Target
  | [] => .place start
  | n :: rest =>
    if !d.isDirectory start then .nowhere
    else if n == ".." then d.follow start.dropLast rest
    else if Path.isLongName n then .refused
    else d.follow (start ++ [n]) rest

/-- Where a path leads, seen from a working directory. -/
def target (d : Disk) (here : Place) (p : Path) : Target :=
  if p.isLong then .refused else d.follow (if p.isAbsolute then [] else here) p.names

/-- The place that a path leads to, seen from a working directory. -/
def locate? (d : Disk) (here : Place) (p : Path) : Option Place :=
  match d.target here p with
  | .place place => some place
  | _ => none

/-- Makes a directory where nothing is yet; nothing if that is impossible. -/
def makeOne? (d : Disk) (here : Place) (p : Path) : Option Disk :=
  match d.locate? here p with
  | none => none
  | some place =>
    match d.at? place with
    | some .directory => some d
    | some (.file _) => none
    | none => some (d.put place .directory)

/-- Makes the directories along the given names, one after the other. -/
def makeAlong? (d : Disk) (here : Place) (base : Path) : List String → Option Disk
  | [] => d.makeOne? here base
  | n :: rest =>
    (d.makeOne? here base).bind fun d =>
      d.makeAlong? here { base with names := base.names ++ [n] } rest

def makeDirectories? (d : Disk) (here : Place) (p : Path) : Option Disk :=
  d.makeAlong? here { p with names := [] } p.names

end Disk

end ApiTools
