import ApiTools.Property.Writer
import ApiTools.Tool.Basic

set_option autoImplicit false

/-!
# Writing tools

A tool as a mapping with keys in camel case. What is not set is left out.
-/

namespace ApiTools

def InputSchema.toValue (s : InputSchema) : Value :=
  Value.object
    [("type", .str "object"),
     ("properties", Value.object (s.properties.map fun (n, p) => (n, p.toValue))),
     ("required", .list (s.required.map .str))]

def Authentication.toValue : Authentication → Value
  | .apiKey place name v =>
    Value.object
      [("type", .str "apiKey"), ("location", .str place.name), ("name", .str name),
       ("envVariable", .str v)]
  | a => Value.object [("type", .str a.kindName), ("envVariable", .str a.envVariable)]

def ResponseHandling.toValue (r : ResponseHandling) : Value :=
  Value.object
    [("successCodes", .list (r.successCodes.map .int)),
     ("responseType", .str r.responseType.name)]

def ErrorHandling.toValue (e : ErrorHandling) : Value :=
  Value.object
    [("retryCount", .int e.retryCount), ("timeoutMs", .int e.timeoutMs),
     ("errorCodes", Value.object (e.errorCodes.map fun (c, s) => (toString c, .str s)))]

namespace Tool

open Property (entry)

/-- The members of a tool, given those of its inputs. -/
def entries (t : Tool) (input : Value) : List (String × Value) :=
  [("name", .str t.name), ("description", .str t.description), ("inputSchema", input),
    ("method", .str t.method), ("path", .str t.path)]
  ++ entry "baseUrl" t.baseUrl .str
  ++ entry "authentication" t.authentication Authentication.toValue
  ++ [("responseHandling", t.responses.toValue), ("errorHandling", t.errors.toValue)]

def toValue (t : Tool) : Value := Value.object (t.entries t.input.toValue)

/-- How many levels a tool takes up, which are those of its inputs. -/
def levels (t : Tool) : Nat := (t.input.properties.map fun (_, p) => p.levels).foldr max 0

/-- Serialises a tool, with a limit for levels. -/
def toDict (limit : Nat) (t : Tool) : Except Value.Flaw Value :=
  Value.serialised limit t.levels t.toValue

end Tool

end ApiTools
