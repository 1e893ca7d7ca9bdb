import ApiTools.Value.SetOrder
import ApiTools.Yaml.Node
import ApiTools.Yaml.ScalarValue

set_option autoImplicit false

/-!
# From nodes to drafts of values

What each node of a graph stands for, as a draft: a finished value for a scalar, and for a
collection the numbers of the nodes in it. Collections are filled in the order in which they were
met, so a graph with loops is no obstacle, and of several faults the one that is met first counts.

Before a mapping is filled, the mappings that are merged into it are put in front of its own
entries. That changes the nodes themselves, and an alias sees the change.
-/

namespace ApiTools.Yaml

/-- A member of a mapping. -/
structure Member where
  /-- The number of the node of the key. -/
  origin : Nat
  key : Value
  /-- A NaN that was not made by its name is no other key than itself. -/
  unique : Bool
  /-- The number of the node of the value. -/
  value : Nat

/-- What a node has become. -/
inductive Draft where
  | plain (v : Value)
  | list (items : List Nat)
  | pairs (entries : List (Nat × Nat))
  | set (keys : List Value)
  | map (members : List Member)

/-- The nodes, and what has become of them. -/
structure Drafting where
  nodes : Array Node
  /-- The drafts so far, by the number of the node. -/
  drafts : Array (Option Draft)
  /-- The mappings that need no more merging, by the number of the node. -/
  merged : Array Bool
  /-- The collections to be filled, in order. -/
  waiting : Array Nat
  /-- The number of entries and items of all nodes at the beginning. -/
  size : Nat

namespace Drafting

/-- A step that may fail. -/
abbrev Make (α : Type) := StateT Drafting (Except Fault) α

/-- The number of entries and items of all nodes. -/
def sizeOf (nodes : Array Node) : Nat :=
  nodes.foldl (fun n x => n + match x.content with
    | .scalar _ => 1
    | .sequence items => items.length + 1
    | .mapping es => es.length + 1) 0

def start (g : Graph) : Drafting :=
  { nodes := g.nodes
    drafts := Array.replicate g.nodes.size none
    merged := Array.replicate g.nodes.size false
    waiting := #[]
    size := sizeOf g.nodes }

def node (d : Drafting) (i : Nat) : Node := d.nodes[i]?.getD Node.empty

def entries (d : Drafting) (i : Nat) : List (Nat × Nat) :=
  match (d.node i).content with
  | .mapping es => es
  | _ => []

def setEntries (i : Nat) (es : List (Nat × Nat)) : Make Unit :=
  modify fun d => { d with nodes := d.nodes.modify i fun n => { n with content := .mapping es } }

def setTag (i : Nat) (t : Tag) : Make Unit :=
  modify fun d => { d with nodes := d.nodes.modify i fun n => { n with tag := t } }

def setDraft (i : Nat) (x : Draft) : Make Unit :=
  modify fun d => { d with drafts := d.drafts.set! i (some x) }

/-! ## Merging -/

mutual

/-- Merges what is to be merged into a mapping. The fuel bounds the depth of the calls. -/
def merge : Nat → Nat → Make Unit
  | 0, _ => throw .endless
  | fuel + 1, i => do
    if (← get).merged[i]?.getD true then return
    let found ← mergeEntries fuel i [] ((← get).entries i)
    setEntries i (found ++ (← get).entries i)
    modify fun d => { d with merged := d.merged.set! i true }

/-- The entries that a mapping gets from others. `kept` are the entries that were passed already,
the last one first. A sign for a default value is a plain text when it is a key. -/
def mergeEntries : Nat → Nat → List (Nat × Nat) → List (Nat × Nat) → Make (List (Nat × Nat))
  | 0, _, _, _ => throw .endless
  | _, _, _, [] => return []
  | fuel + 1, i, kept, (k, v) :: rest => do
    match ((← get).node k).tag with
    | .merge =>
      setEntries i (kept.reverse ++ rest)
      let found ← mergeSource fuel v
      if (← get).merged[i]?.getD true then return found
      else return found ++ (← mergeEntries fuel i kept rest)
    | .value =>
      setTag k .str
      mergeEntries fuel i ((k, v) :: kept) rest
    | _ => mergeEntries fuel i ((k, v) :: kept) rest

def mergeSource : Nat → Nat → Make (List (Nat × Nat))
  | 0, _ => throw .endless
  | fuel + 1, i => do
    match ((← get).node i).content with
    | .mapping _ =>
      merge fuel i
      return (← get).entries i
    | .sequence items => mergeSources fuel items
    | .scalar _ => throw .malformed

/-- The entries that a list of mappings brings: those of later ones come first. -/
def mergeSources : Nat → List Nat → Make (List (Nat × Nat))
  | 0, _ => throw .endless
  | _, [] => return []
  | fuel + 1, i :: rest => do
    match ((← get).node i).content with
    | .mapping _ =>
      merge fuel i
      let found := (← get).entries i
      return (← mergeSources fuel rest) ++ found
    | _ => throw .malformed

end

/-- Merges what is to be merged into a mapping. Every merging takes an entry away for good, so no
chain of calls passes more lists than there are entries. -/
def mergeAll (i : Nat) : Make Unit := do
  let size := (← get).size
  merge ((size + 2) * (size + 2)) i

/-! ## Scalars -/

/-- The text of a scalar, or of a mapping that has a default value. -/
def textOf (d : Drafting) : Nat → Nat → Except Fault String
  | 0, _ => .error .endless
  | fuel + 1, i =>
    match (d.node i).content with
    | .scalar text => .ok text
    | .mapping es =>
      match es.find? fun (k, _) => (d.node k).tag == .value with
      | some (_, v) => d.textOf fuel v
      | none => .error .malformed
    | .sequence _ => .error .malformed

/-- The text of a node that is not tagged as a collection. -/
def text (d : Drafting) (i : Nat) : Except Fault String := d.textOf (d.nodes.size + 1) i

/-- The value of a node that is not tagged as a collection. -/
def plainValue (d : Drafting) (i : Nat) : Except Fault Value :=
  let n := d.node i
  match n.tag, n.content with
  | .merge, _ | .value, _ | .unknown, _ => .error .malformed
  | .timestamp, .mapping _ => do
    let _ ← d.text i
    throw .timeOfMapping
  | tag, _ => do Scalar.valueOf tag (← d.text i)

/-! ## Collections -/

def isCollection : Tag → Bool
  | .seq | .map | .set | .omap | .pairs => true
  | _ => false

/-- Begins the draft of a node: a scalar is finished at once, a collection is filled later. -/
def begin (i : Nat) : Make Unit := do
  let d ← get
  if (d.drafts[i]?.getD none).isNone then
    if isCollection (d.node i).tag then
      setDraft i (.list [])
      modify fun d => { d with waiting := d.waiting.push i }
    else setDraft i (.plain (← d.plainValue i))

/-- The finished value of a node that is a key: collections cannot be keys. -/
def key (i : Nat) : Make Value := do
  begin i
  match (← get).drafts[i]? with
  | some (some (.plain v)) => return v
  | _ => throw .malformed

/-- Whether the value of a node is a NaN that was not made by its name. -/
def isUniqueNaN (d : Drafting) (i : Nat) : Value → Bool
  | .float x => x.isNaN && !((d.text i).toOption.any Scalar.isNaNName)
  | _ => false

def sameKey (a b : Member) : Bool :=
  if a.unique || b.unique then a.origin == b.origin else a.key.sameKey b.key

/-- Adds a member; a key that is there already keeps its place and gets the new value. -/
def insert (m : Member) : List Member → List Member
  | [] => [m]
  | x :: rest => if sameKey x m then { x with value := m.value } :: rest else x :: insert m rest

/-- The members of a mapping, after those that were read already. -/
def members (before : List Member) : List (Nat × Nat) → Make (List Member)
  | [] => return before
  | (k, v) :: rest => do
    let key ← key k
    begin v
    members (insert ⟨k, key, (← get).isUniqueNaN k key, v⟩ before) rest

/-- The pairs in a sequence of mappings with one entry each. -/
def pairs : List Nat → Make (List (Nat × Nat))
  | [] => return []
  | i :: rest => do
    match ((← get).node i).content with
    | .mapping [(k, v)] =>
      begin k
      begin v
      return (k, v) :: (← pairs rest)
    | _ => throw .malformed

def fill (i : Nat) : Make Unit := do
  let n := (← get).node i
  match n.tag, n.content with
  | .seq, .sequence items =>
    items.forM begin
    setDraft i (.list items)
  | .map, .mapping _ =>
    mergeAll i
    setDraft i (.map (← members [] ((← get).entries i)))
  | .set, .mapping _ =>
    mergeAll i
    let ms ← members [] ((← get).entries i)
    setDraft i (.set (Value.inSetOrder (ms.map Member.key)))
  | .omap, .sequence items | .pairs, .sequence items => setDraft i (.pairs (← pairs items))
  | _, _ => throw .malformed

/-- Fills the collections from the given place in the queue on. No node waits twice, so the
number of nodes is fuel enough. -/
def fillFrom : Nat → Nat → Make Unit
  | 0, _ => return
  | fuel + 1, place => do
    match (← get).waiting[place]? with
    | none => return
    | some i =>
      fill i
      fillFrom fuel (place + 1)

end Drafting

/-- The drafts of all nodes that the whole text needs. -/
def Graph.drafts (g : Graph) : Except Fault (Array (Option Draft)) := do
  let make : Drafting.Make Unit := do
    Drafting.begin g.root
    Drafting.fillFrom (g.nodes.size + 1) 0
  let (_, d) ← make.run (Drafting.start g)
  return d.drafts

end ApiTools.Yaml
