import ApiTools.Yaml.Draft

set_option autoImplicit false

/-!
# From drafts to values

The value that a whole text stands for. A node that several aliases name becomes as many equal
values. A collection that holds itself is laid out again and again to some depth.
-/

namespace ApiTools.Yaml

/-- What is still to be laid out. -/
structure Layout where
  drafts : Array (Option Draft)
  /-- How often a collection may be laid out inside itself. -/
  rounds : Nat

/-- A step that may lay out a limited number of values, and finds none when that is not
enough. -/
abbrev Limited (α : Type) := StateT Nat Option α

/-- Takes one from the number of values that may be laid out. -/
def spend : Limited Unit := do
  match ← get with
  | 0 => failure
  | n + 1 => set n

/-- A value, and the numbers of the nodes that were found inside themselves in it. -/
abbrev Laid := Value × List Nat

/-- A collection that holds itself is marked as such. -/
def knotted (i : Nat) (v : Value) (found : List Nat) : Laid :=
  if found.contains i then (.knot i v, found) else (v, found)

def union (a b : List Nat) : List Nat := a ++ b.filter (!a.contains ·)

/-- A collection of the kind of a draft with nothing in it. -/
def Draft.emptied : Draft → Value
  | .map _ => .map []
  | _ => .list []

mutual

/-- Lays out a node, which lies in the collections of the given path. The fuel bounds the depth of
nesting. -/
def Layout.value (l : Layout) : Nat → List Nat → Nat → Limited Laid
  | 0, _, _ => failure
  | fuel + 1, path, i => do
    spend
    let path' := i :: path
    match l.drafts[i]?.getD none with
    | none => return (.null, [])
    | some (.plain v) => return (v, [])
    | some (.set keys) => return (.set keys, [])
    | some draft =>
      if path.count i > l.rounds then return (.knot i draft.emptied, [i])
      else
        let (v, found) ← match draft with
          | .list items => do
            let (vs, found) ← l.values fuel path' items
            pure (Value.list vs, found)
          | .pairs es => do
            let (vs, found) ← l.pairs fuel path' es
            pure (Value.list vs, found)
          | .map ms => do
            let (vs, found) ← l.members fuel path' ms
            pure (Value.map vs, found)
          | _ => pure (Value.null, [])
        return knotted i v (if path.contains i then union [i] found else found)

def Layout.values (l : Layout) : Nat → List Nat → List Nat → Limited (List Value × List Nat)
  | 0, _, _ => failure
  | _, _, [] => return ([], [])
  | fuel + 1, path, i :: rest => do
    let (v, found) ← l.value fuel path i
    let (vs, more) ← l.values fuel path rest
    return (v :: vs, union found more)

def Layout.pairs (l : Layout) : Nat → List Nat → List (Nat × Nat) →
    Limited (List Value × List Nat)
  | 0, _, _ => failure
  | _, _, [] => return ([], [])
  | fuel + 1, path, (k, v) :: rest => do
    let (k, found) ← l.value fuel path k
    let (v, found') ← l.value fuel path v
    let (vs, more) ← l.pairs fuel path rest
    return (.pair k v :: vs, union found (union found' more))

def Layout.members (l : Layout) : Nat → List Nat → List Member →
    Limited (Members × List Nat)
  | 0, _, _ => failure
  | _, _, [] => return ([], [])
  | fuel + 1, path, m :: rest => do
    let (v, found) ← l.value fuel path m.value
    let (vs, more) ← l.members fuel path rest
    return ((m.key, v) :: vs, union found more)

end

/-- The number of nodes in a draft, counting itself. -/
def Draft.size : Draft → Nat
  | .plain _ | .set _ => 1
  | .list items => items.length + 1
  | .pairs es => 2 * es.length + 1
  | .map ms => ms.length + 1

/-- Lays out a whole text. No path passes a node more often than there are rounds and two. -/
def layOut (drafts : Array (Option Draft)) (root rounds most : Nat) : Option Value :=
  let size := drafts.foldl (fun n d => n + ((d.map Draft.size).getD 0 + 1)) 0
  let l : Layout := ⟨drafts, rounds⟩
  ((l.value ((rounds + 2) * (size + 2)) [] root).run' most).map (·.1)

/-- The numbers of rounds that are tried, and the most values that may come of them. -/
def attempts : List (Nat × Nat) :=
  [(40, 20000), (6, 50000), (3, 50000), (1, 50000), (0, Nat.pow 2 64)]

/-- The value that a text stands for; an empty text stands for null. -/
def read (s : String) : Except Fault Value := do
  match ← Graph.ofText s.toList with
  | none => return .null
  | some g =>
    let drafts ← g.drafts
    return (attempts.findSome? fun (rounds, most) => layOut drafts g.root rounds most).getD .null

end ApiTools.Yaml
