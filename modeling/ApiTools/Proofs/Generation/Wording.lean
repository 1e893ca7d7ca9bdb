import ApiTools.Generation.Document
import ApiTools.Proofs.Wording.Tools

set_option autoImplicit false

/-!
# What better wording changes

A document is turned into tools twice, once as it is worded and once with better wording. Both
runs fail alike, and where they succeed each operation gives the same tool up to wording. But
operations that hand out credentials are recognised by their wording as well, so better wording
can make a tool appear or disappear: it does so for the operations that it *sways*.
-/

namespace ApiTools.Generation

open Wording

/-! ## Swayed operations -/

/-- The wording by which an operation is judged. -/
def judgedText (e : Endpoint) : String := Endpoint.firstText e.description e.summary

/-- Whether the identifier of an operation mentions credentials. -/
def idMentions (e : Endpoint) : Bool :=
  match e.operationId with
  | some id => !id.isEmpty && Endpoint.mentionsAny id Endpoint.credentialIds
  | none => false

/-- Neither the path nor the identifier of an operation mentions credentials, and of its wordings
before and after it got better one does. -/
def Swayed (e : Endpoint) : Prop :=
  Endpoint.mentionsAny e.path Endpoint.credentialPaths = false ∧ idMentions e = false ∧
    Endpoint.mentionsAny (judgedText (improveEndpoint e)) Endpoint.credentialWords
      ≠ Endpoint.mentionsAny (judgedText e) Endpoint.credentialWords

/-- The operations that are judged differently are those that are swayed. -/
theorem issuesCredentials_improveEndpoint (e : Endpoint) :
    (improveEndpoint e).issuesCredentials = e.issuesCredentials ↔ ¬ Swayed e := by
  have hbefore : e.issuesCredentials
      = (Endpoint.mentionsAny e.path Endpoint.credentialPaths || idMentions e
        || Endpoint.mentionsAny (judgedText e) Endpoint.credentialWords) := rfl
  have hafter : (improveEndpoint e).issuesCredentials
      = (Endpoint.mentionsAny e.path Endpoint.credentialPaths || idMentions e
        || Endpoint.mentionsAny (judgedText (improveEndpoint e)) Endpoint.credentialWords) := rfl
  unfold Swayed
  rw [hbefore, hafter]
  cases Endpoint.mentionsAny e.path Endpoint.credentialPaths <;> cases idMentions e <;> simp

/-! ## Two runs -/

/-- What a document gives, with better wording or without, whatever else is asked for. -/
def run (enhance : Bool) (options : Options) (source : Option String) (doc : Value) :
    Except Failure Outcome :=
  (ofDocument { options with enhance := enhance } source doc).1

/-- The outcome without the wording of its tools. -/
def Outcome.unworded (o : Outcome) : Outcome := { o with tools := o.tools.map Tool.unworded }

/-- The outcome without wording that an interface gives if some operations are skipped. -/
def plainOutcome (options : Options) (source : Option String) (report : Report) (api : Api)
    (skips : Endpoint → Bool) : Outcome :=
  { source := source
    info := api.info
    servers := api.servers
    baseUrl := api.toolBase options.baseUrl
    tools := api.plainTools (api.toolBase options.baseUrl) skips
    validation := report }

theorem unworded_ofApi (options : Options) (source : Option String) (report : Report) (api : Api) :
    (ofApi { options with enhance := false } source report api).1.unworded
        = plainOutcome options source report api Endpoint.issuesCredentials ∧
      (ofApi { options with enhance := true } source report api).1.unworded
        = plainOutcome options source report api fun e =>
            (improveEndpoint e).issuesCredentials := by
  constructor
  · show Outcome.mk _ _ _ _ ((api.tools options.baseUrl).1.map Tool.unworded) _ = _
    rw [Api.unworded_tools]
    rfl
  · show Outcome.mk _ _ _ _ (((improve api).tools options.baseUrl).1.map Tool.unworded) _ = _
    rw [Api.unworded_tools_improve]
    rfl

/-- Both runs fail alike, or an interface is read and its operations are skipped by their wording
before and after it got better. -/
theorem run_cases (options : Options) (source : Option String) (doc : Value) :
    (∃ f, run false options source doc = .error f ∧ run true options source doc = .error f) ∨
      ∃ plain better report api, run false options source doc = .ok plain ∧
        run true options source doc = .ok better ∧
        (Api.read doc options.mergePathParameters).1 = .ok api ∧
        plain.unworded = plainOutcome options source report api Endpoint.issuesCredentials ∧
        better.unworded = plainOutcome options source report api fun e =>
          (improveEndpoint e).issuesCredentials := by
  -- what is asked of the wording is not looked at before the interface was read
  unfold run ofDocument
  cases Validation.checkDocument doc with
  | error o => exact .inl ⟨_, rfl, rfl⟩
  | ok report =>
      dsimp only
      by_cases hs : (options.strict && !report.isValid) = true
      · rw [if_pos hs, if_pos hs]
        exact .inl ⟨_, rfl, rfl⟩
      · rw [if_neg hs, if_neg hs]
        generalize Api.read doc options.mergePathParameters = r
        obtain ⟨r, more⟩ := r
        cases r with
        | error f => cases f <;> exact .inl ⟨_, rfl, rfl⟩
        | ok api =>
            obtain ⟨hplain, hbetter⟩ := unworded_ofApi options source report api
            exact .inr ⟨_, _, report, api, rfl, rfl, rfl, hplain, hbetter⟩

/-- **Better wording changes nothing but the wording, unless it sways an operation.** The runs with
and without it fail alike. Where they succeed, their outcomes differ in the tools at most, and the
tools are, up to wording, those of the operations that are not skipped. So the outcomes are the
same up to wording if no operation that could give a tool is swayed, and only then, provided that
no two operations share method and path. -/
theorem run_unworded_eq_iff (options : Options) (source : Option String) (doc : Value) :
    (∀ f, run false options source doc = .error f ↔ run true options source doc = .error f) ∧
      ∀ plain better, run false options source doc = .ok plain →
        run true options source doc = .ok better →
        ∃ api, (Api.read doc options.mergePathParameters).1 = .ok api ∧
          better.unworded = { plain.unworded with tools := better.unworded.tools } ∧
          plain.unworded.tools
            = api.plainTools (api.toolBase options.baseUrl) Endpoint.issuesCredentials ∧
          better.unworded.tools
            = api.plainTools (api.toolBase options.baseUrl)
                (fun e => (improveEndpoint e).issuesCredentials) ∧
          ((∀ e ∈ api.endpoints, api.Builds e → ¬ Swayed e) → plain.unworded = better.unworded) ∧
          ((api.endpoints.map fun e => (e.method, e.path)).Nodup →
            plain.unworded = better.unworded →
            ∀ e ∈ api.endpoints, api.Builds e → ¬ Swayed e) := by
  rcases run_cases options source doc with
    ⟨f, hplain, hbetter⟩ | ⟨plain, better, report, api, hplain, hbetter, hr, hp, hb⟩
  · rw [hplain, hbetter]
    refine ⟨fun _ => Iff.rfl, fun plain better h => ?_⟩
    cases h
  · rw [hplain, hbetter]
    constructor
    · intro f
      constructor
      · intro h
        cases h
      · intro h
        cases h
    · rintro _ _ ⟨⟩ ⟨⟩
      refine ⟨api, hr, ?_, ?_, ?_, ?_, ?_⟩
      · rw [hp, hb]
        rfl
      · rw [hp]
        rfl
      · rw [hb]
        rfl
      · -- the two outcomes skip the same operations
        intro hsway
        rw [hp, hb]
        unfold plainOutcome
        rw [Api.plainTools_congr fun e he hbuilds =>
          ((issuesCredentials_improveEndpoint e).2 (hsway e he hbuilds)).symm]
      · intro hnd heq e he hbuilds
        rw [hp, hb] at heq
        have htools := congrArg Outcome.tools heq
        rw [← issuesCredentials_improveEndpoint]
        exact (Api.eq_of_plainTools_eq hnd htools e he hbuilds).symm

/-! ### A list of authors -/

/-- An operation that says nothing about itself. -/
def getAuthors : Endpoint := { path := "/authors", method := .get }

/-- A document with that operation. -/
def authors : Value :=
  Value.object [("paths", Value.object [(getAuthors.path,
    Value.object [("get", Value.object [("responses", Value.object [])])])])]

theorem run_authors :
    ∃ plain better, run false {} none authors = .ok plain ∧ run true {} none authors = .ok better ∧
      plain.tools.map Tool.name = ["get_authors"] ∧ better.tools.map Tool.name = [] :=
  ⟨_, _, rfl, rfl, rfl, rfl⟩

theorem unworded_ne_of_names {a b : Outcome} (h : a.tools.map Tool.name ≠ b.tools.map Tool.name) :
    a.unworded ≠ b.unworded := by
  intro heq
  have hnames : ∀ o : Outcome, o.unworded.tools.map Tool.name = o.tools.map Tool.name := by
    intro o
    show (o.tools.map Tool.unworded).map Tool.name = _
    rw [List.map_map]
    rfl
  rw [← hnames a, ← hnames b, heq] at h
  exact h rfl

/-- The description that the operation is given says `authors`, and so mentions `auth`: it is
taken for one that hands out credentials, and its tool is gone. -/
theorem authors_skipped :
    ¬ ∀ doc plain better, run false {} none doc = .ok plain → run true {} none doc = .ok better →
      plain.unworded = better.unworded := by
  intro h
  obtain ⟨plain, better, hplain, hbetter, hone, hnone⟩ := run_authors
  refine unworded_ne_of_names ?_ (h authors plain better hplain hbetter)
  rw [hone, hnone]
  decide

/-- Since the two runs give different tools, the one operation of the document is swayed. -/
theorem swayed_getAuthors : Swayed getAuthors := by
  obtain ⟨plain, better, hplain, hbetter, hone, hnone⟩ := run_authors
  obtain ⟨api, hr, -, -, -, hsame, -⟩ :=
    (run_unworded_eq_iff {} none authors).2 plain better hplain hbetter
  have hendpoints : (Api.read authors false).1.map Api.endpoints = .ok [getAuthors] := rfl
  rw [show (Api.read authors false).1 = .ok api from hr] at hendpoints
  injection hendpoints with hendpoints
  by_contra hn
  have heq : plain.unworded = better.unworded := by
    refine hsame fun e he _ => ?_
    rw [hendpoints, List.mem_singleton] at he
    rwa [he]
  refine unworded_ne_of_names ?_ heq
  rw [hone, hnone]
  decide

end ApiTools.Generation
