import ApiTools.Property.Convert

set_option autoImplicit false

/-!
# Flattening a body

The body of a request is a nested object. Flattening walks through its schema and turns every
leaf into a property of its own, named by the way to it: `owner_address_city`. Each leaf keeps
that way, the registry entries that were entered on it, and whether the value is required, which
it is only if every object around it is required too.
-/

namespace ApiTools.Property

open Schema

structure Leaf where
  /-- The property names from the body to the leaf. -/
  path : List String
  /-- The registry entries that were entered on the way, the latest first. -/
  entered : List String
  required : Bool
  property : Property

def Leaf.name (l : Leaf) : String := "_".intercalate l.path

/-- What the walk through a body meets. -/
inductive Event where
  | note (n : Log.Note)
  | leaf (l : Leaf)

def notesOf (events : List Event) : List Log.Note :=
  events.filterMap fun
    | .note n => some n
    | .leaf _ => none

def leavesOf (events : List Event) : List Leaf :=
  events.filterMap fun
    | .note _ => none
    | .leaf l => some l

/-- The events behind the given ones. -/
def eventsAfter (before : List Event) (r : Except Unending (List Event)) :
    Except Unending (List Event) :=
  match r with
  | .ok events => .ok (before ++ events)
  | .error u => .error (u.after (notesOf before))

/-- The events that the elements of a list give one after the other; the function learns that its
argument is one of them. -/
def collect {α : Type} : (xs : List α) → ((x : α) → x ∈ xs → Except Unending (List Event)) →
    Except Unending (List Event)
  | [], _ => .ok []
  | x :: xs, f => do
    let here ← f x List.mem_cons_self
    eventsAfter here (collect xs fun y hy => f y (List.mem_cons_of_mem x hy))

/-- Whether a collapsed schema is taken apart. -/
def isNested (s : Schema) : Bool := s.isObjectLike && !s.propertyList.isEmpty

/-- The walk from a property of the body on. -/
def walk (reg : Registry) (g : Guard) (path : List String) (required : Bool) (s : Schema) :
    Except Unending (List Event) :=
  let place := ".".intercalate path
  let leaf (entered : List String) (p : Property) : Event :=
    .leaf ⟨path, entered, required, p.withPlace path⟩
  let notes := (followNotes reg g s).map Event.note
  match _hf : follow reg g s with
  | .dangling =>
    .ok (notes ++
      [.note (Log.warning ("Dangling reference " ++ s.ref?.getD "None" ++ " at '" ++ place
          ++ "'; treating as string")),
        leaf g.visited (plainText (describe [descriptionOf s]))])
  | .cycle =>
    .ok (notes ++
      [.note (Log.debug ("Cycle at '" ++ place ++ "'; emitting an opaque object")),
        leaf g.visited (opaqueObject (describe [descriptionOf s]))])
  | .at t g' =>
    let composed := compose reg t
    if isNested composed then
      eventsAfter notes <| collect (parts reg t) fun p _ =>
        walk reg (p.guard g') (path ++ [p.name])
          (required && composed.requiredNames.contains p.name) p.schema
    else if isArray composed then
      match itemStep reg g' t with
      | .none => .ok (notes ++ [leaf g'.visited (ofSchema composed (descriptionOf s) none)])
      | .unending => .error ⟨followNotes reg g s⟩
      | .into i g'' => eventsAfter notes do
        let (item, itemNotes) ← convertFrom reg g'' i none
        return itemNotes.map Event.note
          ++ [leaf g'.visited (ofSchema composed (descriptionOf s) (some item))]
    else .ok (notes ++ [leaf g'.visited (ofSchema composed (descriptionOf s) none)])
termination_by extent reg g s
decreasing_by exact extent_follow _hf (extent_part ‹_› (follow_names _hf))

def walkBody (reg : Registry) (s : Schema) : Except Unending (List Event) :=
  let notes := (followNotes reg {} s).map Event.note
  match follow reg {} s with
  | .dangling | .cycle => .ok notes
  | .at t g =>
    let composed := compose reg t
    eventsAfter notes <| collect (parts reg t) fun p _ =>
      walk reg (p.guard g) [p.name] (composed.requiredNames.contains p.name) p.schema

/-- The flat properties of a body and the names of the required ones. -/
structure Flat where
  properties : Properties
  required : List String

/-- The properties of leaves; of two leaves with one name the later one counts. -/
def Flat.ofLeaves (leaves : List Leaf) : Flat :=
  { properties := Named.ofList (leaves.map fun l => (l.name, l.property))
    required := (leaves.filter (·.required)).map Leaf.name }

def flatten (reg : Registry) (s : Schema) : Except Unending (Log.Noted Flat) := do
  let events ← walkBody reg s
  return (Flat.ofLeaves (leavesOf events), notesOf events)

end ApiTools.Property
