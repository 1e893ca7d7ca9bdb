import ApiTools.Rendering.Context

set_option autoImplicit false

/-!
# The text beside a server

A generated server comes with a text that tells how to run it, which credentials it needs, and
which tools it has.
-/

namespace ApiTools.Rendering.Readme

def baseLine (c : Context) : String :=
  if c.baseUrl.isEmpty then
    "The API document declares no base URL; set `" ++ c.baseUrlVariable ++ "` before starting."
  else
    "Requests go to `" ++ c.baseUrl ++ "` unless `" ++ c.baseUrlVariable ++ "` is set."

def credentialLines (c : Context) : List String :=
  match c.usage with
  | [] => []
  | usage =>
    ["## Credentials", "", "| Variable | Used by |", "| --- | --- |"]
      ++ usage.map (fun (v, users) => "| `" ++ v ++ "` | " ++ ", ".intercalate users ++ " |")
      ++ [""]

/-- The longest description that is shown in full. -/
def fullLength : Nat := 125

/-- The length to which a longer description is cut, before it is cut back to whole words. -/
def cutLength : Nat := 117

/-- The text before the last blank, or all of it if there is none. -/
def beforeLastBlank (cs : List Char) : List Char :=
  match cs.reverse.dropWhile (· != ' ') with
  | [] => cs
  | _ :: rest => rest.reverse

/-- A text that fits into a table. -/
def shorten (cs : List Char) : List Char :=
  if cs.length ≤ fullLength then cs else beforeLastBlank (cs.take cutLength) ++ ['.', '.', '.']

/-- A description on one line, in which no bar ends a cell of a table. -/
def cell (description : String) : String :=
  let onLine := description.toList.flatMap fun c =>
    if c = '|' then ['\\', '|'] else if c = '\n' then [' '] else [c]
  String.ofList (shorten onLine)

def toolLine (t : Tool) : String :=
  "| `" ++ t.name ++ "` | " ++ t.method ++ " | `" ++ t.path ++ "` | " ++ cell t.description ++ " |"

def lines (c : Context) : List String :=
  ["# " ++ c.serverName, "", c.description, "",
   "Generated by specmcp " ++ c.generatorVersion ++ " from " ++ c.title ++ " " ++ c.version ++ ".",
   "", "## Running", "", "```bash", "pip install mcp httpx", "python server.py", "```", "",
   baseLine c, ""]
  ++ credentialLines c
  ++ ["## Tools (" ++ toString c.tools.length ++ ")", "",
    "| Tool | Method | Path | Description |", "| --- | --- | --- | --- |"]
  ++ c.tools.map toolLine

def text (c : Context) : String := String.join ((lines c).map (· ++ "\n"))

end ApiTools.Rendering.Readme
