import ApiTools.Command.Inspect
import ApiTools.Proofs.Named
import ApiTools.Proofs.Tool.Names

set_option autoImplicit false

/-!
# What a document gives

What a document gives is made of its interface. Its tools are told apart by their names if and only
if their operations are told apart by the words of these names, and then each tool is found under
its name. Nothing keeps operations from having the same words, since identifiers lose their
letter case and punctuation, and paths lose their templates. Tools with one name are all kept.
-/

namespace ApiTools

/-- Tools by their names, as a generated program looks them up. -/
def Tool.byName (ts : List Tool) : List (String × Tool) :=
  Named.ofList (ts.map fun t => (t.name, t))

/-- A tool is found under its name, both by one who looks into a document and by a generated
program. -/
structure Tool.IsFound (ts : List Tool) (t : Tool) : Prop where
  shown : ∀ e c source, Command.showTool e c source t.name ts
    = Command.Run.print e c ((t.toDict Value.mostLevels).bind Value.writable)
  called : Named.get? (Tool.byName ts) t.name = some t

theorem Tool.find?_name {ts : List Tool} (h : (ts.map Tool.name).Nodup) {t : Tool} (ht : t ∈ ts) :
    ts.find? (·.name == t.name) = some t := by
  obtain ⟨u, hu⟩ : ∃ u, ts.find? (·.name == t.name) = some u := by
    rw [← Option.isSome_iff_exists, List.find?_isSome]
    exact ⟨t, ht, beq_self_eq_true _⟩
  have hname : u.name = t.name := by
    have := List.find?_some hu
    simpa using this
  rw [hu, List.inj_on_of_nodup_map h (List.mem_of_find?_eq_some hu) ht hname]

theorem Tool.isFound {ts : List Tool} (h : (ts.map Tool.name).Nodup) {t : Tool} (ht : t ∈ ts) :
    Tool.IsFound ts t := by
  constructor
  · intro e c source
    unfold Command.showTool
    rw [Tool.find?_name h ht]
  · refine Named.get?_ofList_of_nodup ?_ (List.mem_map.2 ⟨t, ht, rfl⟩)
    unfold Named.names
    rwa [List.map_map]

namespace Generation

/-- The interface that the tools of a document are made for. -/
def worded (options : Options) (api : Api) : Api :=
  if options.enhance then Wording.improve api else api

/-- The operations of a document that give tools. -/
def toolEndpoints (options : Options) (api : Api) : List Endpoint :=
  (worded options api).endpoints.filter (worded options api).givesTool

variable {options : Options} {source : Option String} {doc : Value} {o : Outcome}

/-- A document that is checked, not refused by a strict caller, and read as an interface gives what
its interface and the report on it give. -/
theorem ofDocument_eq_ok_iff : (ofDocument options source doc).1 = .ok o ↔
    ∃ report api, Validation.checkDocument doc = .ok report ∧
      (options.strict && !report.isValid) = false ∧
      (Api.read doc options.mergePathParameters).1 = .ok api ∧
      o = (ofApi options source report api).1 := by
  constructor
  · intro h
    unfold ofDocument at h
    cases hreport : Validation.checkDocument doc with
    | error hindrance =>
        rw [hreport] at h
        cases h
    | ok report =>
        rw [hreport] at h
        dsimp only at h
        split at h
        · cases h
        · next hstrict =>
          cases hread : Api.read doc options.mergePathParameters with
          | mk result notes =>
              rw [hread] at h
              cases result with
              | error f => cases f <;> cases h
              | ok api =>
                  cases h
                  exact ⟨report, api, rfl, by simpa using hstrict, rfl, rfl⟩
  · rintro ⟨report, api, hreport, hstrict, hread, rfl⟩
    unfold ofDocument
    rw [hreport]
    dsimp only
    rw [if_neg (Bool.eq_false_iff.1 hstrict)]
    cases hresult : Api.read doc options.mergePathParameters with
    | mk result notes =>
        rw [hresult] at hread
        cases hread
        rfl

/-- What a document gives is made of its interface and the report on it. -/
theorem exists_of_ofDocument (h : (ofDocument options source doc).1 = .ok o) :
    ∃ report api, (Api.read doc options.mergePathParameters).1 = .ok api ∧
      o = (ofApi options source report api).1 := by
  obtain ⟨report, api, -, -, hread, ho⟩ := ofDocument_eq_ok_iff.1 h
  exact ⟨report, api, hread, ho⟩

theorem tools_ofApi (options : Options) (h : options.enhance = false)
    (source : Option String) (report : Report) (api : Api) :
    (ofApi options source report api).1.tools = (api.tools options.baseUrl).1 := by
  unfold ofApi
  rw [h]
  rfl

/-- Without better wording, options only say where the tools of an interface send requests. -/
theorem map_sentTo_ofApi (options : Options) (h : options.enhance = false)
    (source : Option String) (report : Report) (api : Api) :
    (ofApi options source report api).1.tools.map (·.sentTo api.baseUrl)
      = (ofApi {} source report api).1.tools := by
  rw [tools_ofApi options h, tools_ofApi {} rfl]
  exact api.map_sentTo_tools options.baseUrl none

theorem names_of_ofApi (report : Report) (api : Api) :
    (ofApi options source report api).1.tools.map Tool.name
      = (toolEndpoints options api).map Endpoint.toolName :=
  (worded options api).map_name_tools options.baseUrl

theorem isClean_of_ofDocument (h : (ofDocument options source doc).1 = .ok o) {t : Tool}
    (ht : t ∈ o.tools) : Name.IsClean t.name := by
  obtain ⟨report, api, -, rfl⟩ := exists_of_ofDocument h
  exact Api.isClean_of_mem_tools ht

/-- **The tools of a document have different names if and only if the operations that give them
have different words as names**, and then each of them is found under its name. -/
theorem names_nodup_iff_words_nodup (h : (ofDocument options source doc).1 = .ok o) :
    ∃ api, (Api.read doc options.mergePathParameters).1 = .ok api ∧
      o.tools.map Tool.name = (toolEndpoints options api).map Endpoint.toolName ∧
      ((o.tools.map Tool.name).Nodup
        ↔ ((toolEndpoints options api).map Endpoint.nameWords).Nodup) ∧
      ((o.tools.map Tool.name).Nodup → ∀ t ∈ o.tools, Tool.IsFound o.tools t) := by
  obtain ⟨report, api, hapi, rfl⟩ := exists_of_ofDocument h
  refine ⟨api, hapi, names_of_ofApi report api, ?_, fun hnodup t ht => Tool.isFound hnodup ht⟩
  rw [names_of_ofApi]
  unfold List.Nodup
  rw [List.pairwise_map, List.pairwise_map]
  simp only [ne_eq, Endpoint.toolName_eq_iff]

/-! ### Users -/

/-- A document that lists users and finds one of them. -/
def usersDocument (findUser : List (String × Value)) : Value :=
  Value.object
    [("openapi", .str "3.0.0"),
     ("info", Value.object [("title", .str "Users"), ("version", .str "1")]),
     ("paths", Value.object
       [("/users", Value.object [("get", Value.object [])]),
        ("/users/\x7bid\x7d", Value.object [("get", Value.object findUser)])])]

/-- With an identifier that says more than the path, the two tools have different names. -/
theorem usersDocument_apart : ∃ o,
    (ofDocument {} none (usersDocument [("operationId", .str "findUser")])).1 = .ok o ∧
      o.tools.map Tool.name = ["get_users", "find_user"] ∧
      ∀ t ∈ o.tools, Tool.IsFound o.tools t := by
  obtain ⟨o, ho, hnames⟩ : ∃ o,
      (ofDocument {} none (usersDocument [("operationId", .str "findUser")])).1 = .ok o ∧
        o.tools.map Tool.name = ["get_users", "find_user"] := ⟨_, rfl, rfl⟩
  obtain ⟨api, -, -, -, hfound⟩ := names_nodup_iff_words_nodup ho
  refine ⟨o, ho, hnames, hfound ?_⟩
  rw [hnames]
  decide

/-- Without identifiers both are named by the one segment that their paths share, and one who looks
into the document for that name finds the first one only. -/
theorem usersDocument_alike : ∃ api o list find,
    (Api.read (usersDocument []) false).1 = .ok api ∧
      api.endpoints.filterMap Endpoint.operationId = [] ∧
      (ofDocument {} none (usersDocument [])).1 = .ok o ∧ o.tools = [list, find] ∧
      (list.name = "get_users" ∧ list.path = "/users") ∧
      (find.name = "get_users" ∧ find.path = "/users/\x7bid\x7d") ∧
      ¬ (o.tools.map Tool.name).Nodup ∧ o.tools.find? (·.name == find.name) = some list := by
  obtain ⟨api, o, list, find, hapi, hids, ho, htools, hlist, hfind⟩ : ∃ api o list find,
      (Api.read (usersDocument []) false).1 = .ok api ∧
        api.endpoints.filterMap Endpoint.operationId = [] ∧
        (ofDocument {} none (usersDocument [])).1 = .ok o ∧ o.tools = [list, find] ∧
        (list.name = "get_users" ∧ list.path = "/users") ∧
        (find.name = "get_users" ∧ find.path = "/users/\x7bid\x7d") :=
    ⟨_, _, _, _, rfl, rfl, rfl, rfl, ⟨rfl, rfl⟩, ⟨rfl, rfl⟩⟩
  have hsame : find.name = list.name := hfind.1.trans hlist.1.symm
  refine ⟨api, o, list, find, hapi, hids, ho, htools, hlist, hfind, ?_, ?_⟩
  · rw [htools]
    simp [hsame]
  · rw [htools, hsame]
    exact List.find?_cons_of_pos (beq_self_eq_true _)

end Generation

end ApiTools
