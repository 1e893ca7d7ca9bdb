import ApiTools.Tool.Synthesis

set_option autoImplicit false

/-!
# What synthesis gives

The functions that build tools also say what they did. Apart from these notes, each of them is one
equation: a tool is made of its inputs, it is left out if they have no end or if the operation
hands out credentials, and the tools of an interface are those of its operations.
-/

namespace ApiTools

theorem toOption_map {ε α β : Type} (f : α → β) (x : Except ε α) :
    (x.map f).toOption = x.toOption.map f := by
  cases x <;> rfl

/-- The tool for an operation, given its inputs. -/
def Tool.withInput (a : Api) (base : String) (e : Endpoint) (input : InputSchema) : Tool :=
  { name := e.toolName
    description := e.toolDescription
    input := input
    method := e.method.capital
    path := e.path
    baseUrl := nonempty? base
    authentication := (a.authentication? e).1 }

theorem Tool.ofEndpoint_fst (a : Api) (base : String) (e : Endpoint) :
    (Tool.ofEndpoint a base e).1 = (e.inputs a.schemas).1.map (Tool.withInput a base e) := by
  unfold Tool.ofEndpoint
  generalize e.inputs a.schemas = r
  obtain ⟨r, notes⟩ := r
  cases r <;> rfl

theorem Tool.ofEndpoint?_fst (a : Api) (base : String) (e : Endpoint) :
    (Tool.ofEndpoint? a base e).1
      = if e.issuesCredentials then none else (Tool.ofEndpoint a base e).1.toOption := by
  unfold Tool.ofEndpoint?
  by_cases hc : e.issuesCredentials = true
  · rw [if_pos hc, if_pos hc]
  · rw [if_neg hc, if_neg hc]
    generalize Tool.ofEndpoint a base e = r
    obtain ⟨r, notes⟩ := r
    cases r <;> rfl

theorem Api.tools_fst (a : Api) (given : Option String) : (a.tools given).1
    = a.endpoints.filterMap fun e => (Tool.ofEndpoint? a (a.toolBase given) e).1 := by
  show (a.endpoints.map _).filterMap _ = _
  rw [List.filterMap_map]
  rfl

/-! ## Where requests are sent -/

/-- The tool that sends the same requests to an address. -/
def Tool.sentTo (base : String) (t : Tool) : Tool := { t with baseUrl := nonempty? base }

theorem Tool.sentTo_withInput (a : Api) (base base' : String) (e : Endpoint)
    (input : InputSchema) :
    (Tool.withInput a base e input).sentTo base' = Tool.withInput a base' e input := by
  unfold sentTo withInput
  dsimp only

theorem Tool.ofEndpoint?_sentTo (a : Api) (base base' : String) (e : Endpoint) :
    (Tool.ofEndpoint? a base e).1.map (Tool.sentTo base') = (Tool.ofEndpoint? a base' e).1 := by
  rw [Tool.ofEndpoint?_fst, Tool.ofEndpoint?_fst, Tool.ofEndpoint_fst, Tool.ofEndpoint_fst]
  by_cases hc : e.issuesCredentials = true
  · rw [if_pos hc, if_pos hc, Option.map_none]
  · rw [if_neg hc, if_neg hc]
    generalize (e.inputs a.schemas).1 = r
    cases r with
    | error u => rfl
    | ok input => exact congrArg some (Tool.sentTo_withInput a base base' e input)

/-- The address that is given for the tools of an interface only says where they send their
requests. -/
theorem Api.map_sentTo_tools (a : Api) (given given' : Option String) :
    (a.tools given).1.map (Tool.sentTo (a.toolBase given')) = (a.tools given').1 := by
  rw [Api.tools_fst, Api.tools_fst, List.map_filterMap]
  congr 1
  funext e
  exact Tool.ofEndpoint?_sentTo a _ _ e

theorem Api.sentTo_of_mem_tools {a : Api} {given : Option String} {t : Tool}
    (ht : t ∈ (a.tools given).1) : t.sentTo (a.toolBase given) = t := by
  have h : (a.tools given).1.map (Tool.sentTo (a.toolBase given)) = (a.tools given).1.map id := by
    rw [Api.map_sentTo_tools, List.map_id]
  exact List.map_inj_left.1 h t ht

end ApiTools
