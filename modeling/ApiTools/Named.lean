set_option autoImplicit false

/-!
# Named things in order

Lists of things with names, in the order in which the names first came up. A thing that is added
under a name that is there already takes the place of the former one.
-/

namespace ApiTools.Named

variable {α : Type}

def get? (xs : List (String × α)) (name : String) : Option α :=
  (xs.find? (·.1 == name)).map (·.2)

def has (xs : List (String × α)) (name : String) : Bool := xs.any (·.1 == name)

/-- Adds a thing; a name that is there already keeps its place. -/
def insert (xs : List (String × α)) (name : String) (x : α) : List (String × α) :=
  match xs with
  | [] => [(name, x)]
  | (n, y) :: rest => if n == name then (n, x) :: rest else (n, y) :: insert rest name x

def insertAll (xs more : List (String × α)) : List (String × α) :=
  more.foldl (fun acc (n, x) => insert acc n x) xs

/-- The names in the order of their first occurrence, each with its last thing. -/
def ofList (xs : List (String × α)) : List (String × α) := insertAll [] xs

/-- Names in the order of their first occurrence, each once. -/
def distinct (names : List String) : List String :=
  (names.foldl (fun acc n => if acc.contains n then acc else n :: acc) []).reverse

/-- The names, in order. -/
def names (xs : List (String × α)) : List String := xs.map (·.1)

end ApiTools.Named
