import ApiTools.Yaml.Tag
import ApiTools.Yaml.Token.Lexer

set_option autoImplicit false

/-!
# Nodes of a YAML text

A text is a graph of scalars, sequences and mappings. Collections name their nodes by number, so
that an alias is the number of the node that its anchor stands for. A collection is numbered
before its nodes are read, and may therefore hold itself.
-/

namespace ApiTools.Yaml

/-- What a node consists of. -/
inductive Content where
  | scalar (text : String)
  | sequence (items : List Nat)
  | mapping (entries : List (Nat × Nat))
  deriving Repr, DecidableEq

/-- A node with the kind of value it stands for. -/
structure Node where
  tag : Tag
  content : Content
  deriving Repr, DecidableEq

/-- The nodes of a text, and the number of the one that stands for the whole. -/
structure Graph where
  nodes : Array Node
  root : Nat

namespace Node

def empty : Node := ⟨.null, .scalar ""⟩

/-- The remaining tokens, and what is known from the tokens before them. -/
structure State where
  tokens : List Token
  /-- What is wrong behind the remaining tokens. -/
  fault : Option Fault
  /-- What the handles of tags stand for. -/
  handles : List (String × String) := [("!", "!"), ("!!", Tag.stem)]
  /-- The nodes so far. -/
  nodes : Array Node := #[]
  /-- The numbers of nodes by name. -/
  anchors : List (String × Nat) := []

/-- A step that takes tokens and may fail. -/
abbrev Read (α : Type) := StateT State (Except Fault) α

def malformed {α : Type} : Read α := throw .malformed

/-- The next token, which is not taken. -/
def peek : Read (Option Token) := do
  let s ← get
  match s.tokens, s.fault with
  | [], some f => throw f
  | ts, _ => return ts.head?

def drop : Read Unit := modify fun s => { s with tokens := s.tokens.tail }

def accept (t : Token) : Read Bool := do
  if (← peek) == some t then do
    drop
    return true
  else return false

/-- Takes the next token, which has to be the given one. -/
def expect (t : Token) : Read Unit := do
  if !(← accept t) then malformed

/-- Whether the next token is one of the given ones. -/
def atAny (ts : List Token) : Read Bool := do
  return (← peek).any ts.contains

/-- The full name of a tag; a lone mark is no name. -/
def tagName (handle : Option String) (rest : String) : Read (Option String) := do
  let name ← match handle with
    | none => pure rest
    | some h =>
      match (← get).handles.find? (·.1 == h) with
      | some (_, stem) => pure (stem ++ rest)
      | none => malformed
  return if name == "!" then none else some name

def takeAnchor : Read (Option String) := do
  match ← peek with
  | some (.anchor a) =>
    drop
    return some a
  | _ => return none

/-- Takes a tag, which is a handle and a rest. -/
def takeTag : Read (Option (Option String × String)) := do
  match ← peek with
  | some (.tag h r) =>
    drop
    return some (h, r)
  | _ => return none

/-- What stands in front of a node: an anchor, and a tag, whose name is missing when it is a
lone mark. -/
structure Properties where
  anchor : Option String
  tag : Option (Option String)

/-- Takes the anchor and the tag in front of a node, in either order. -/
def takeProperties : Read Properties := do
  let before ← takeAnchor
  let tag ← takeTag
  let anchor ← if before.isNone && tag.isSome then takeAnchor else pure before
  match tag with
  | none => return ⟨anchor, none⟩
  | some (h, r) => return ⟨anchor, some (← tagName h r)⟩

/-- Whether a node has an anchor or a tag. -/
def Properties.any (p : Properties) : Bool := p.anchor.isSome || p.tag.isSome

/-- The name of an anchor must be new. -/
def checkAnchor (p : Properties) : Read Unit := do
  let s ← get
  if p.anchor.any fun a => s.anchors.any (·.1 == a) then malformed

def add (n : Node) : Read Nat := do
  let s ← get
  set { s with nodes := s.nodes.push n }
  return s.nodes.size

/-- Adds a node with what stood in front of it. -/
def addNamed (p : Properties) (n : Node) : Read Nat := do
  let i ← add n
  match p.anchor with
  | none => return i
  | some a =>
    modify fun s => { s with anchors := (a, i) :: s.anchors }
    return i

/-- Says what a node consists of, once that is known. -/
def fill (i : Nat) (c : Content) : Read Unit :=
  modify fun s => { s with nodes := s.nodes.modify i fun n => { n with content := c } }

def addEmpty : Read Nat := add empty

def Properties.kind (p : Properties) (usual : Tag) : Tag :=
  match p.tag with
  | some (some name) => Tag.ofName name
  | _ => usual

/-- The kind of a scalar: from its tag, or from its spelling when it is plain or marked. -/
def Properties.scalarKind (p : Properties) (text : String) (plain : Bool) : Tag :=
  match p.tag with
  | some (some name) => Tag.ofName name
  | some none => Tag.ofPlain text
  | none => if plain then Tag.ofPlain text else .str

def addScalar (p : Properties) (text : String) (plain : Bool) : Read Nat :=
  addNamed p ⟨p.scalarKind text plain, .scalar text⟩

/-- Adds a sequence, whose items are read next. -/
def addSequence (p : Properties) (items : Read (List Nat)) : Read Nat := do
  let i ← addNamed p ⟨p.kind .seq, .sequence []⟩
  fill i (.sequence (← items))
  return i

/-- Adds a mapping, whose entries are read next. -/
def addMapping (p : Properties) (entries : Read (List (Nat × Nat))) : Read Nat := do
  let i ← addNamed p ⟨p.kind .map, .mapping []⟩
  fill i (.mapping (← entries))
  return i

structure Place where
  /-- Block collections may begin here. -/
  block : Bool
  /-- A sequence that is not indented may begin here. -/
  loose : Bool

def inBlock : Place := ⟨true, false⟩
def inMapping : Place := ⟨true, true⟩
def inFlow : Place := ⟨false, false⟩

mutual

/-- The number of a node. The fuel bounds the depth of the calls; two for every token are
enough. -/
def read : Nat → Place → Read Nat
  | 0, _ => malformed
  | fuel + 1, place => do
    match ← peek with
    | some (.alias a) =>
      drop
      match (← get).anchors.find? (·.1 == a) with
      | some (_, i) => return i
      | none => malformed
    | _ =>
      let p ← takeProperties
      let next ← peek
      checkAnchor p
      match next with
      | some (.scalar text plain) =>
        drop
        addScalar p text plain
      | some .flowSequenceStart => addSequence p do
        drop
        flowItems fuel true
      | some .flowMappingStart => addMapping p do
        drop
        flowEntries fuel true
      | _ =>
        if place.loose && next == some .blockEntry then addSequence p (looseItems fuel)
        else if place.block && next == some .blockSequenceStart then
          addSequence p do
            drop
            blockItems fuel
        else if place.block && next == some .blockMappingStart then
          addMapping p do
            drop
            blockEntries fuel
        else if p.any then addScalar p "" true
        else malformed

/-- A node, or an empty place if one of the given tokens follows. -/
def readUnless : Nat → Place → List Token → Read Nat
  | 0, _, _ => malformed
  | fuel + 1, place, ends => do
    if ← atAny ends then addEmpty else read fuel place

/-- The items of a block sequence, up to its end. -/
def blockItems : Nat → Read (List Nat)
  | 0 => malformed
  | fuel + 1 => do
    if ← accept .blockEntry then
      let n ← readUnless fuel inBlock [.blockEntry, .blockEnd]
      return n :: (← blockItems fuel)
    else
      expect .blockEnd
      return []

/-- The items of a sequence that is not indented; nothing marks its end. -/
def looseItems : Nat → Read (List Nat)
  | 0 => malformed
  | fuel + 1 => do
    if ← accept .blockEntry then
      let n ← readUnless fuel inBlock [.blockEntry, .key, .value, .blockEnd]
      return n :: (← looseItems fuel)
    else return []

/-- The entries of a block mapping, up to its end. -/
def blockEntries : Nat → Read (List (Nat × Nat))
  | 0 => malformed
  | fuel + 1 => do
    if ← accept .key then
      let ends := [Token.key, .value, .blockEnd]
      let k ← readUnless fuel inMapping ends
      let v ← if ← accept .value then readUnless fuel inMapping ends else addEmpty
      return (k, v) :: (← blockEntries fuel)
    else
      expect .blockEnd
      return []

/-- The items of a sequence in brackets, up to the closing one; a pair in it is a mapping. -/
def flowItems : Nat → Bool → Read (List Nat)
  | 0, _ => malformed
  | fuel + 1, first => do
    if ← accept .flowSequenceEnd then return []
    else
      if !first then expect .flowEntry
      if ← accept .key then
        let k ← readUnless fuel inFlow [.value, .flowEntry, .flowSequenceEnd]
        let v ← if ← accept .value then readUnless fuel inFlow [.flowEntry, .flowSequenceEnd]
          else addEmpty
        return (← add ⟨.map, .mapping [(k, v)]⟩) :: (← flowItems fuel false)
      else if ← accept .flowSequenceEnd then return []
      else
        let n ← read fuel inFlow
        return n :: (← flowItems fuel false)

/-- The entries of a mapping in braces, up to the closing one; a node alone is a key. -/
def flowEntries : Nat → Bool → Read (List (Nat × Nat))
  | 0, _ => malformed
  | fuel + 1, first => do
    if ← accept .flowMappingEnd then return []
    else
      if !first then expect .flowEntry
      if ← accept .key then
        let k ← readUnless fuel inFlow [.value, .flowEntry, .flowMappingEnd]
        let v ← if ← accept .value then readUnless fuel inFlow [.flowEntry, .flowMappingEnd]
          else addEmpty
        return (k, v) :: (← flowEntries fuel false)
      else if ← accept .flowMappingEnd then return []
      else
        let k ← read fuel inFlow
        return (k, ← addEmpty) :: (← flowEntries fuel false)

end

/-! ## Documents -/

/-- Takes the directives in front of a document: at most one version, whose major number is 1,
and no handle twice. -/
def takeDirectives : Nat → Bool → List (String × String) → Read (List (String × String))
  | 0, _, _ => malformed
  | fuel + 1, versioned, own => do
    match ← peek with
    | some (.version major) =>
      drop
      if versioned || major != 1 then malformed else takeDirectives fuel true own
    | some (.tagHandle h stem) =>
      drop
      if own.any (·.1 == h) then malformed else takeDirectives fuel versioned ((h, stem) :: own)
    | some .otherDirective =>
      drop
      takeDirectives fuel versioned own
    | _ => return own

def dropEnds : Nat → Read Unit
  | 0 => malformed
  | fuel + 1 => do
    if ← accept .documentEnd then dropEnds fuel

def opensDocument : Token → Bool
  | .version _ | .tagHandle _ _ | .otherDirective | .documentStart => true
  | _ => false

/-- The node of a document; an empty text has none. -/
def document (fuel : Nat) : Read (Option Nat) := do
  match ← peek with
  | none => return none
  | some t =>
    if !opensDocument t then
      let n ← read fuel inBlock
      dropEnds fuel
      return some n
    else
      let own ← takeDirectives fuel false []
      modify fun s => { s with handles := own ++ s.handles }
      expect .documentStart
      let next ← peek
      let n ←
        if next.all fun t => opensDocument t || t == .documentEnd then addEmpty
        else read fuel inBlock
      dropEnds fuel
      return some n

/-- Nothing may follow the only document of a text. -/
def finish (fuel : Nat) : Read Unit := do
  match ← peek with
  | none => return
  | some _ =>
    let _ ← takeDirectives fuel false []
    let _ ← peek
    malformed

end Node

def Graph.ofText (s : List Char) : Except Fault (Option Graph) := do
  let (ts, fault) := tokens s
  let fuel := 2 * ts.length + 4
  let read : Node.Read (Option Nat) := do
    let root ← Node.document fuel
    Node.finish fuel
    return root
  let (root, state) ← read.run { tokens := ts, fault := fault }
  return root.map fun r => ⟨state.nodes, r⟩

end ApiTools.Yaml
