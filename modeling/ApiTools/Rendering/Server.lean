import ApiTools.Rendering.Context

set_option autoImplicit false

/-!
# The text of a server

A generated server is a program that reads the tools from the manifest beside it and turns every
call into a request. Only its opening comment, its name and its base address depend on the tools.
-/

namespace ApiTools.Rendering.Server

/-! ## The part that depends on the tools -/

/-- The credentials, as the opening comment lists them. -/
def credentialLines (credentials : List String) : List String :=
  match credentials with
  | [] => []
  | vs => ["", "Credentials are read from the environment:", ""] ++ vs.map ("    " ++ ·)

def openingLines (c : Context) : List String :=
  ["\"\"\"" ++ c.serverName ++ " -- MCP server generated by specmcp " ++ c.generatorVersion ++ ".",
   "",
   "Source API: " ++ c.title ++ " " ++ c.version,
   "Tools: " ++ toString c.tools.length,
   "",
   "Tool descriptors are read from tools.json next to this file. Every tool call",
   "is translated into one HTTP request against the API."]
    ++ credentialLines c.credentials
    ++ ["", "The base URL can be overridden with " ++ c.baseUrlVariable ++ ".", "\"\"\""]

/-- A text as a literal of the generated program. -/
def literal (s : String) : String := Json.write Json.embedded (.str s)

def constantLines (c : Context) : List String :=
  ["SERVER_NAME = " ++ literal c.serverName,
   "BASE_URL = os.environ.get(" ++ literal c.baseUrlVariable ++ ", " ++ literal c.baseUrl ++ ")"]

/-! ## The part that is always the same -/

def importLines : List String :=
  ["from __future__ import annotations",
   "",
   "import asyncio",
   "import base64",
   "import json",
   "import os",
   "from pathlib import Path",
   "from typing import Any",
   "from urllib.parse import quote",
   "",
   "import httpx",
   "import mcp.types as types",
   "from mcp.server.lowlevel import Server",
   "from mcp.server.stdio import stdio_server",
   ""]

def settingsLines : List String :=
  ["",
   "_MANIFEST = json.loads(Path(__file__).with_name(\"tools.json\").read_text(encoding=\"utf-8\"))",
   "TOOLS: list[dict[str, Any]] = _MANIFEST[\"tools\"]",
   "TOOLS_BY_NAME = \x7btool[\"name\"]: tool for tool in TOOLS\x7d",
   "",
   "# JSON Schema keywords forwarded to clients; reconstruction metadata stays here.",
   "_SCHEMA_KEYS = (",
   "    \"type\", \"description\", \"default\", \"enum\", \"format\", \"items\",",
   "    \"minimum\", \"maximum\", \"exclusiveMinimum\", \"exclusiveMaximum\", \"multipleOf\",",
   "    \"minLength\", \"maxLength\", \"pattern\", \"minItems\", \"maxItems\", \"uniqueItems\",",
   ")",
   "",
   "server = Server(SERVER_NAME)"]

def publicSchemaLines : List String :=
  ["def _public_schema(prop: dict[str, Any]) -> dict[str, Any]:",
   "    schema = \x7bkey: prop[key] for key in _SCHEMA_KEYS if key in prop\x7d",
   "    if isinstance(schema.get(\"items\"), dict):",
   "        schema[\"items\"] = _public_schema(schema[\"items\"])",
   "    if prop.get(\"nullable\"):",
   "        schema[\"type\"] = [schema.get(\"type\", \"string\"), \"null\"]",
   "    return schema"]

def inputSchemaLines : List String :=
  ["def _input_schema(tool: dict[str, Any]) -> dict[str, Any]:",
   "    spec = tool[\"inputSchema\"]",
   "    return \x7b",
   "        \"type\": \"object\",",
   "        \"properties\": \x7bname: _public_schema(prop) for name, prop in spec[\"properties\"].items()\x7d,",
   "        \"required\": spec.get(\"required\", []),",
   "    \x7d"]

def assignmentLines : List String :=
  ["def _assign(target: dict[str, Any], dotted: str, value: Any) -> None:",
   "    *parents, leaf = dotted.split(\".\")",
   "    for part in parents:",
   "        target = target.setdefault(part, \x7b\x7d)",
   "    target[leaf] = value"]

def applyAuthLines : List String :=
  ["def _apply_auth(auth: dict[str, Any] | None, headers: dict[str, str], query: dict[str, Any], cookies: dict[str, str]) -> None:",
   "    if not auth:",
   "        return",
   "    secret = os.environ.get(auth[\"envVariable\"])",
   "    if not secret:",
   "        raise RuntimeError(f\"Set \x7bauth['envVariable']\x7d to call this tool\")",
   "    kind = auth[\"type\"]",
   "    if kind == \"apiKey\":",
   "        target = \x7b\"header\": headers, \"query\": query, \"cookie\": cookies\x7d[auth.get(\"location\", \"header\")]",
   "        target[auth[\"name\"]] = secret",
   "    elif kind in (\"bearer\", \"oauth2\"):",
   "        headers[\"Authorization\"] = f\"Bearer \x7bsecret\x7d\"",
   "    elif kind == \"basic\":",
   "        token = base64.b64encode(secret.encode(\"utf-8\")).decode(\"ascii\")",
   "        headers[\"Authorization\"] = f\"Basic \x7btoken\x7d\""]

def invocationLines : List String :=
  ["async def _invoke(tool: dict[str, Any], arguments: dict[str, Any]) -> Any:",
   "    path = tool[\"path\"]",
   "    query: dict[str, Any] = \x7b\x7d",
   "    headers: dict[str, str] = \x7b\x7d",
   "    cookies: dict[str, str] = \x7b\x7d",
   "    body: dict[str, Any] = \x7b\x7d",
   "",
   "    for name, prop in tool[\"inputSchema\"][\"properties\"].items():",
   "        if name not in arguments:",
   "            continue",
   "        value = arguments[name]",
   "        if prop.get(\"isPathParam\"):",
   "            path = path.replace(\"\x7b\" + name + \"\x7d\", quote(str(value), safe=\"\"))",
   "        elif prop.get(\"isQueryParam\"):",
   "            query[name] = value",
   "        elif prop.get(\"isHeaderParam\"):",
   "            headers[name] = str(value)",
   "        elif prop.get(\"isBodyParam\"):",
   "            _assign(body, prop.get(\"originalPath\") or name, value)",
   "",
   "    _apply_auth(tool.get(\"authentication\"), headers, query, cookies)",
   "",
   "    policy = tool[\"errorHandling\"]",
   "    retries = policy[\"retryCount\"]",
   "    async with httpx.AsyncClient(",
   "        base_url=tool.get(\"baseUrl\") or BASE_URL,",
   "        timeout=policy[\"timeoutMs\"] / 1000,",
   "        cookies=cookies,",
   "    ) as client:",
   "        for attempt in range(retries + 1):",
   "            try:",
   "                response = await client.request(",
   "                    tool[\"method\"], path, params=query, headers=headers, json=body or None",
   "                )",
   "            except httpx.TransportError:",
   "                if attempt == retries:",
   "                    raise",
   "                continue",
   "            if response.status_code >= 500 and attempt < retries:",
   "                continue",
   "            break",
   "",
   "    if response.status_code not in tool[\"responseHandling\"][\"successCodes\"] and not response.is_success:",
   "        reason = policy[\"errorCodes\"].get(str(response.status_code), response.reason_phrase)",
   "        return \x7b\"error\": True, \"status\": response.status_code, \"message\": reason, \"body\": response.text\x7d",
   "    if tool[\"responseHandling\"][\"responseType\"] == \"json\" and response.content:",
   "        try:",
   "            return response.json()",
   "        except ValueError:",
   "            return response.text",
   "    return response.text"]

def listingLines : List String :=
  ["@server.list_tools()",
   "async def list_tools() -> list[types.Tool]:",
   "    return [",
   "        types.Tool(name=tool[\"name\"], description=tool[\"description\"], inputSchema=_input_schema(tool))",
   "        for tool in TOOLS",
   "    ]"]

def callingLines : List String :=
  ["@server.call_tool()",
   "async def call_tool(name: str, arguments: dict[str, Any]) -> list[types.TextContent]:",
   "    tool = TOOLS_BY_NAME.get(name)",
   "    if tool is None:",
   "        raise ValueError(f\"Unknown tool: \x7bname\x7d\")",
   "    result = await _invoke(tool, arguments or \x7b\x7d)",
   "    text = result if isinstance(result, str) else json.dumps(result, indent=2)",
   "    return [types.TextContent(type=\"text\", text=text)]"]

def runningLines : List String :=
  ["async def main() -> None:",
   "    async with stdio_server() as (read_stream, write_stream):",
   "        await server.run(read_stream, write_stream, server.create_initialization_options())"]

def startLines : List String :=
  ["if __name__ == \"__main__\":",
   "    asyncio.run(main())"]

/-- Parts of a program, with two empty lines between them. -/
def sections (parts : List (List String)) : List String :=
  match parts with
  | [] => []
  | [p] => p
  | p :: ps => p ++ ["", ""] ++ sections ps

def lines (c : Context) : List String :=
  openingLines c ++ [""] ++ importLines ++ constantLines c
    ++ sections
      [settingsLines, publicSchemaLines, inputSchemaLines, assignmentLines,
       applyAuthLines, invocationLines, listingLines, callingLines, runningLines,
       startLines]

def text (c : Context) : String := String.join ((lines c).map (· ++ "\n"))

end ApiTools.Rendering.Server
