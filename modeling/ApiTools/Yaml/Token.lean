import ApiTools.Yaml.Cursor

set_option autoImplicit false

/-!
# Tokens of YAML

The pieces that a YAML text consists of. Indentation is made explicit: a block collection is
opened and closed by tokens of its own, and every key of a mapping is announced by a token.
-/

namespace ApiTools.Yaml

/-- A piece of a text. -/
inductive Token where
  | version (major : Nat)
  | tagHandle (handle stem : String)
  | otherDirective
  | documentStart
  | documentEnd
  | blockSequenceStart
  | blockMappingStart
  | blockEnd
  | flowSequenceStart
  | flowSequenceEnd
  | flowMappingStart
  | flowMappingEnd
  | flowEntry
  | blockEntry
  | key
  | value
  | alias (name : String)
  | anchor (name : String)
  | tag (handle : Option String) (rest : String)
  | scalar (text : String) (plain : Bool)
  deriving Repr, DecidableEq

end ApiTools.Yaml
