import ApiTools.Log
import ApiTools.Named
import ApiTools.Schema.Basic
import ApiTools.Text.Blank

set_option autoImplicit false

/-!
# References

A document keeps its named schemas in a registry. A reference is a text that begins with the
place of the registry and goes on with a name, in which a slash and a tilde are escaped.
-/

namespace ApiTools

open Text

/-- The named schemas of a document, in order. -/
abbrev Registry := List (String × Schema)

namespace Registry

def get? (reg : Registry) (name : String) : Option Schema := Named.get? reg name

end Registry

namespace Reference

/-- The places where registries are kept. -/
def places : List String := ["#/components/schemas/", "#/definitions/"]

/-- A name with its escapes decoded: `~1` is a slash and `~0` a tilde. -/
def decode : List Char → List Char
  | '~' :: '1' :: cs => '/' :: decode cs
  | '~' :: '0' :: cs => '~' :: decode cs
  | c :: cs => c :: decode cs
  | [] => []

/-- The name that a reference points at; none if the reference has another form or no name. -/
def name? (ref : String) : Option String :=
  match places.findSome? fun place => after? place.toList ref.toList with
  | none | some [] => none
  | some cs => some (String.ofList (decode cs))

def resolve? (reg : Registry) (ref : String) : Option Schema := (name? ref).bind reg.get?

def notes (reg : Registry) (ref : String) : List Log.Note :=
  match name? ref with
  | none => [Log.debug ("Unsupported $ref form: " ++ ref)]
  | some name => if (reg.get? name).isNone then [Log.debug ("Dangling $ref: " ++ ref)] else []

end Reference

namespace Schema

/-- The schema itself, or what it refers to; only one reference is followed. -/
def target? (reg : Registry) (s : Schema) : Option Schema :=
  match s.ref? with
  | none => some s
  | some ref => Reference.resolve? reg ref

def targetNotes (reg : Registry) (s : Schema) : List Log.Note :=
  match s.ref? with
  | none => []
  | some ref => Reference.notes reg ref

end Schema

end ApiTools
