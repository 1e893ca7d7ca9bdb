import ApiTools.Proofs.Command.Manifest
import ApiTools.Proofs.Generation.Merge
import ApiTools.Rendering.Output

set_option autoImplicit false

/-!
# A batch of which one document is left

Sources of a batch that are switched off or fail leave no trace in what is written. If one document
is left and the tools are put together as they are, the server of the batch is the server of that
document: it has its name, its base address and its tools.
-/

namespace ApiTools

namespace Generation

open Command (run_fromSource)
open Source (decode ofText)

variable {options : Options} {sources : List BatchSource} {w : World}

/-! ## Sources in a batch and on their own -/

/-- A source gives in a batch what it gives on its own, unless it is the input, and that was read
before. -/
theorem loaded_of_mem_loadedIn {x : BatchSource × Loaded} (hx : x ∈ loadedIn w sources) :
    x.1 ∈ sources ∧ (x.2 = decode x.1.input ((ofText x.1.input).textIn w) ∨
      x.2 = decode x.1.input (.error .noInput)) := by
  induction sources generalizing w with
  | nil => cases hx
  | cons s rest ih =>
      rcases List.mem_cons.1 hx with rfl | hx
      · exact ⟨List.mem_cons_self, .inl rfl⟩
      · -- the rest is loaded in the world after, where only the input is another one
        obtain ⟨hmem, hloaded⟩ := ih hx
        refine ⟨List.mem_cons_of_mem s hmem, ?_⟩
        rcases hloaded with hloaded | hloaded
        · rcases Source.textIn_worldAfter w (ofText s.input) (ofText x.1.input) with h | ⟨-, h⟩
          · exact .inl (by rw [hloaded, h])
          · exact .inr (by rw [hloaded, h])
        · exact .inr hloaded

theorem outcome_of_resultIn {s : BatchSource} {l : Loaded} {o : Outcome}
    (h : resultIn options s l = .ok o) : (ofLoaded options s.input l).1 = .ok o := by
  unfold resultIn at h
  cases hr : (ofLoaded options s.input l).1 with
  | error obstacle =>
      rw [hr] at h
      cases h
  | ok p =>
      rw [hr] at h
      exact congrArg Except.ok (Except.ok.inj h)

/-- A document of a batch is one that its source gives on its own. -/
theorem fromSource_of_mem_documentsIn {d : BatchSource × Outcome}
    (hd : d ∈ documentsIn (resultsIn options sources w)) :
    d.1 ∈ enabled sources ∧ d.2.source = some d.1.input ∧
      ((fromSource options d.1.input).run w).1.1 = .ok d.2 := by
  obtain ⟨x, hx, hresult⟩ := List.mem_map.1 (mem_of_mem_documentsIn hd)
  obtain ⟨hsource, hresult⟩ := Prod.mk.inj hresult
  obtain ⟨hmem, hloaded⟩ := loaded_of_mem_loadedIn hx
  have hof := isOf_resultIn options x.1 x.2
  rw [hresult] at hof
  rw [← hsource]
  refine ⟨hmem, hof, ?_⟩
  rcases hloaded with hloaded | hloaded
  · rw [run_fromSource, Source.run_load, ← hloaded]
    exact outcome_of_resultIn hresult
  · -- there is no document in an input that was read before
    rw [hloaded] at hresult
    cases hresult

end Generation

namespace Rendering

open Generation (Batch Options Outcome documentsIn enabled fromSource fromSources merge resultsIn)

variable {options : Options} {sources : List BatchSource} {w : World}

/-! ## Packages -/

/-- What is rendered of results with one document is what is rendered of the document. -/
theorem ofBatch_merge {results : List (BatchSource × Generation.Result)}
    {d : BatchSource × Outcome} (h : documentsIn results = [d]) :
    Package.ofBatch (merge .combine results).1 = .ofOutcome d.2 := by
  have hresults : (merge .combine results).1.results = [d.2] := by
    rw [← Generation.outcomes_documentsIn, h]
    rfl
  have htools : (merge .combine results).1.tools = d.2.tools := by
    show Generation.allTools .combine results = _
    rw [Generation.allTools_eq, h, List.flatMap_singleton]
    rfl
  unfold Package.ofBatch Package.ofOutcome
  rw [hresults, htools]

/-- **A batch of which one document is left is written as that document.** Whatever other sources
there are that are switched off or fail, the document is one that its source gives on its own under
the same options, and in every world the server of the batch is written as the one of the document:
with the same end, and with the same files, byte by byte, whatever the engine makes of templates. -/
theorem write_ofBatch_of_one_result {b : Batch} {o : Outcome}
    (hbatch : ((fromSources options .combine sources).run w).1.1 = .ok b)
    (hone : b.results = [o]) :
    ∃ s ∈ enabled sources, o.source = some s.input ∧
      ((fromSource options s.input).run w).1.1 = .ok o ∧
      ∀ (engine : Engine) (output : String) (serverName templateDirectory : Option String)
        (w' : World),
        (write engine (.ofBatch b) output serverName templateDirectory).run w'
          = (write engine (.ofOutcome o) output serverName templateDirectory).run w' := by
  have hb : b = (merge .combine (resultsIn options sources w)).1 :=
    Generation.eq_batchIn_of_run hbatch
  obtain ⟨d, hdocuments, rfl⟩ : ∃ d, documentsIn (resultsIn options sources w) = [d] ∧ d.2 = o := by
    rw [hb, ← Generation.outcomes_documentsIn] at hone
    exact List.map_eq_singleton_iff.1 hone
  have hd : d ∈ documentsIn (resultsIn options sources w) := by
    rw [hdocuments]
    exact List.mem_singleton_self d
  obtain ⟨hs, hsource, hrun⟩ := Generation.fromSource_of_mem_documentsIn hd
  refine ⟨d.1, hs, hsource, hrun, fun engine output serverName templateDirectory w' => ?_⟩
  rw [hb, ofBatch_merge hdocuments]

/-! ### A shop that is left -/

/-- A batch of two shops and a file that is lost. One of the shops is switched off. -/
def shopSources : List BatchSource :=
  [{ input := "lost.json" }, { input := "first.json", name := some "Pet Shop" },
   { input := "second.json", enabled := false }]

/-- Where the tools are to send their requests. -/
def shopOptions : Options := { baseUrl := some "https://pets.example" }

theorem loadedIn_shopSources :
    Generation.loadedIn Generation.petShops (enabled shopSources)
      = [({ input := "lost.json" }, .error (.notFound "lost.json"), []),
         Generation.loadedPets { input := "first.json", name := some "Pet Shop" }] := by
  have hlost : (Source.ofText "lost.json").textIn Generation.petShops
      = .error (.notFound "lost.json") := by
    decide +kernel
  have hfirst : (Source.ofText "first.json").textIn Generation.petShops
      = .ok (Generation.petsText, .json) := by
    decide +kernel
  have hworld : (Source.ofText "lost.json").worldAfter Generation.petShops
      = Generation.petShops := rfl
  have henabled : enabled shopSources
      = [{ input := "lost.json" }, { input := "first.json", name := some "Pet Shop" }] := rfl
  rw [henabled, Generation.loadedIn, Generation.loadedIn, Generation.loadedIn, hlost, hworld,
    hfirst]
  unfold Source.decode
  simp only [Generation.parse_petsText, Except.mapError]
  rfl

/-- The shop that is left is written as if it had been the only one, although one source failed and
another one is switched off. -/
theorem shopSources_written : ∃ b o,
    ((fromSources shopOptions .combine shopSources).run Generation.petShops).1.1 = .ok b ∧
      b.results = [o] ∧ b.failures.map (·.source) = ["lost.json"] ∧
      o.tools.map Tool.name = ["get_pets"] ∧
      ∃ s ∈ enabled shopSources, o.source = some s.input ∧
        ((fromSource shopOptions s.input).run Generation.petShops).1.1 = .ok o ∧
        ∀ (engine : Engine) (output : String) (serverName templateDirectory : Option String)
          (w' : World),
          (write engine (.ofBatch b) output serverName templateDirectory).run w'
            = (write engine (.ofOutcome o) output serverName templateDirectory).run w' := by
  obtain ⟨b, o, hb, hone, hfailures, htools⟩ : ∃ b o,
      ((fromSources shopOptions .combine shopSources).run Generation.petShops).1.1 = .ok b ∧
        b.results = [o] ∧ b.failures.map (·.source) = ["lost.json"] ∧
        o.tools.map Tool.name = ["get_pets"] := by
    have henabled : shopSources.filter (·.enabled) = enabled shopSources := rfl
    rw [Generation.run_fromSources, henabled, loadedIn_shopSources]
    exact ⟨_, _, rfl, rfl, rfl, rfl⟩
  exact ⟨b, o, hb, hone, hfailures, htools, write_ofBatch_of_one_result hb hone⟩

end Rendering

end ApiTools
