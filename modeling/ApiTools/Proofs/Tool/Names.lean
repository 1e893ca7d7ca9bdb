import ApiTools.Proofs.Name
import ApiTools.Proofs.Tool.Synthesis
import Mathlib.Data.List.Basic

set_option autoImplicit false

/-!
# Names of tools

The tool for an operation is named by words: those of the identifier of the operation if it has
any, or else its method and the literal segments of its path. Both kinds of names are clean, and
they are told apart by their words alone, from whichever of the two these come.
-/

namespace ApiTools

/-! ## Words of paths -/

namespace Name

open Text

/-- The literal segments of a path as words. -/
def literalWords (path : String) : List (List Char) :=
  ((literalParts path).map (·.filter isAsciiAlnum)).filter (!·.isEmpty)

theorem isWord_of_mem_literalWords {path : String} {w : List Char} (h : w ∈ literalWords path) :
    IsWord w := by
  obtain ⟨hpart, hne⟩ := List.mem_filter.1 h
  obtain ⟨part, -, rfl⟩ := List.mem_map.1 hpart
  exact ⟨by simpa using hne, fun c hc => (List.mem_filter.1 hc).2⟩

theorem intercalate_eq_ofWords (ws : List (List Char)) :
    "_".intercalate (ws.map String.ofList) = ofWords ws := by
  apply String.toList_injective
  calc ("_".intercalate (ws.map String.ofList)).toList
      = List.intercalate ['_'] ws := by simp [String.toList_intercalate]
    _ = joinWith ['_'] ws := (joinWith_eq_intercalate _ _).symm
    _ = (ofWords ws).toList := String.toList_ofList.symm

theorem ofWords_cons_cons (w v : List Char) (ws : List (List Char)) :
    ofWords (w :: v :: ws) = String.ofList w ++ "_" ++ ofWords (v :: ws) := by
  unfold ofWords
  rw [joinWith_cons_cons, String.ofList_append, String.ofList_append]

end Name

/-! ## Words of tools -/

namespace Endpoint

open Name

/-- The words that name the tool for an operation without an identifier. -/
def routeWords (e : Endpoint) : List (List Char) :=
  match literalWords e.path with
  | [] => [e.method.name.toList, "root".toList]
  | ws => e.method.name.toList :: ws

/-- The words that name the tool for an operation. -/
def nameWords (e : Endpoint) : List (List Char) :=
  match snakeWords (e.operationId.getD "") with
  | [] => e.routeWords
  | ws => ws

theorem isWord_of_mem_routeWords {e : Endpoint} : ∀ w ∈ e.routeWords, IsWord w := by
  have hmethod : IsWord e.method.name.toList := by
    cases e.method <;> decide
  have hliteral : ∀ w ∈ literalWords e.path, IsWord w := fun _ => isWord_of_mem_literalWords
  unfold routeWords
  split
  · exact List.forall_mem_cons.2 ⟨hmethod, by decide⟩
  · exact List.forall_mem_cons.2 ⟨hmethod, hliteral⟩

theorem isWord_of_mem_nameWords {e : Endpoint} : ∀ w ∈ e.nameWords, IsWord w := by
  unfold nameWords
  split
  · exact isWord_of_mem_routeWords
  · exact fun w => isWord_of_mem_snakeWords

theorem nameWords_ne_nil (e : Endpoint) : e.nameWords ≠ [] := by
  unfold nameWords
  split
  · unfold routeWords
    split <;> exact List.cons_ne_nil _ _
  · assumption

theorem ofWords_routeWords (e : Endpoint) :
    ofWords e.routeWords = match literalSegments e.path with
      | [] => e.method.name ++ "_root"
      | segments => e.method.name ++ "_" ++ "_".intercalate segments := by
  have hsegments : literalSegments e.path = (literalWords e.path).map String.ofList := rfl
  rw [hsegments]
  unfold routeWords
  cases literalWords e.path with
  | nil => cases e.method <;> rfl
  | cons w ws =>
      rw [ofWords_cons_cons, ← intercalate_eq_ofWords, String.ofList_toList]
      rfl

/-- The name of a tool is made of its words. -/
theorem toolName_eq (e : Endpoint) : e.toolName = ofWords e.nameWords := by
  unfold toolName nameWords
  dsimp only
  rw [isEmpty_snake, snake_eq]
  cases snakeWords (e.operationId.getD "") with
  | nil => exact (ofWords_routeWords e).symm
  | cons w ws => rfl

theorem toolName_eq_iff (e f : Endpoint) : e.toolName = f.toolName ↔ e.nameWords = f.nameWords := by
  rw [toolName_eq, toolName_eq]
  exact ofWords_inj isWord_of_mem_nameWords isWord_of_mem_nameWords

theorem isClean_toolName (e : Endpoint) : IsClean e.toolName := by
  rw [toolName_eq]
  exact isClean_ofWords (nameWords_ne_nil e) isWord_of_mem_nameWords

end Endpoint

/-! ## Tools of interfaces -/

namespace Api

/-- Whether an operation gives a tool: it hands out no credentials, and its schemas have an end. -/
def givesTool (a : Api) (e : Endpoint) : Bool :=
  !e.issuesCredentials && (e.inputs a.schemas).1.isOk

theorem map_name_ofEndpoint? (a : Api) (base : String) (e : Endpoint) :
    (Tool.ofEndpoint? a base e).1.map Tool.name
      = if a.givesTool e then some e.toolName else none := by
  rw [Tool.ofEndpoint?_fst, Tool.ofEndpoint_fst, toOption_map]
  unfold givesTool
  cases e.issuesCredentials with
  | true => simp
  | false =>
      cases (e.inputs a.schemas).1 with
      | error u => simp [Except.isOk, Except.toBool, Except.toOption]
      | ok input => simp [Except.isOk, Except.toBool, Except.toOption, Tool.withInput]

/-- The tools of an interface are named as its operations that give tools. -/
theorem map_name_tools (a : Api) (given : Option String) :
    (a.tools given).1.map Tool.name = (a.endpoints.filter a.givesTool).map Endpoint.toolName := by
  rw [tools_fst, List.map_filterMap, ← List.filterMap_eq_filter, List.map_filterMap]
  refine List.filterMap_congr fun e _ => ?_
  rw [map_name_ofEndpoint?]
  unfold Option.guard
  split <;> rfl

theorem isClean_of_mem_tools {a : Api} {given : Option String} {t : Tool}
    (h : t ∈ (a.tools given).1) : Name.IsClean t.name := by
  have hname : t.name ∈ (a.tools given).1.map Tool.name := List.mem_map_of_mem h
  rw [map_name_tools] at hname
  obtain ⟨e, -, he⟩ := List.mem_map.1 hname
  rw [← he]
  exact e.isClean_toolName

end Api

end ApiTools
