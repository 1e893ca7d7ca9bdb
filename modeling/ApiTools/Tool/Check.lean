import ApiTools.Named
import ApiTools.Tool.Basic
import ApiTools.Validation.Report

set_option autoImplicit false

/-!
# Checking tools

A tool has to have a name, a method and a path, and may only require inputs that it has.
-/

namespace ApiTools.Tool

/-- The inputs that a tool requires and does not have. -/
def undeclared (t : Tool) : List String :=
  t.input.required.filter (!Named.has t.input.properties ·)

def faultsFound (t : Tool) : List String :=
  (if t.name.isEmpty then ["MCP tool missing name"] else [])
    ++ (if t.method.isEmpty then ["MCP tool " ++ t.label ++ " missing HTTP method"] else [])
    ++ (if t.path.isEmpty then ["MCP tool " ++ t.label ++ " missing path"] else [])
    ++ t.undeclared.map fun n =>
      "MCP tool " ++ t.label ++ " requires undeclared property '" ++ n ++ "'"

def doubts (t : Tool) : List String :=
  (if t.description.isEmpty then ["MCP tool " ++ t.label ++ " missing description"] else [])
    ++ (if t.input.properties.isEmpty then
        ["MCP tool " ++ t.label ++ " inputSchema has no properties"] else [])

def check (t : Tool) : Report := { errors := t.faultsFound, warnings := t.doubts }

end ApiTools.Tool
