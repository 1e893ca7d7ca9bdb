import ApiTools.Proofs.Api.Kept
import ApiTools.Proofs.Command.Manifest
import ApiTools.Proofs.Command.Words
import ApiTools.Proofs.Generation.Merge

set_option autoImplicit false

/-!
# Previews

Inspecting a document is meant to show what would be generated from it. But a server is generated
under the configuration that the project and the environment give, and a document is inspected
under none. So a document from which a server is generated can be inspected, but what is shown is
sent to the address that the document has of its own, and better wording and the parameters of
paths are left out.
-/

namespace ApiTools

/-! ## Addresses -/

theorem Tool.mem_entries_sentTo {t : Tool} {base : String} {input : Value} {e : String × Value}
    (h : e ∈ (t.sentTo base).entries input) :
    (∃ url, e = ("baseUrl", .str url)) ∨ e ∈ t.entries input := by
  simp only [entries, List.mem_append] at h ⊢
  rcases h with ((h | h) | h) | h
  · exact .inr (.inl (.inl (.inl h)))
  · left
    cases hbase : (t.sentTo base).baseUrl with
    | none => simp [hbase, Property.entry] at h
    | some url => exact ⟨url, by simpa [hbase, Property.entry] using h⟩
  · exact .inr (.inl (.inr h))
  · exact .inr (.inr h)

/-- Whether a tool can be printed does not depend on where it is sent to. -/
theorem Tool.IsPrintable.sentTo {t : Tool} (h : t.IsPrintable) (base : String) :
    (t.sentTo base).IsPrintable where
  levels_le := h.levels_le
  flaw? := by
    refine (Value.flaw?_object_eq_none_iff _).2 fun e he => ?_
    rcases Tool.mem_entries_sentTo he with ⟨url, rfl⟩ | he
    · rfl
    · exact (Value.flaw?_object_eq_none_iff _).1 h.flaw? e he
  holdsLong := by
    have hlong := h.holdsLong
    unfold Tool.toValue at hlong ⊢
    rw [Value.holdsLong_object, List.any_eq_false] at hlong ⊢
    intro e he
    rcases Tool.mem_entries_sentTo he with ⟨url, rfl⟩ | he
    · exact Bool.false_ne_true
    · exact hlong e he

/-! ## Reading without merging -/

/-- Whether an interface can be read does not depend on how its parameters are merged. -/
theorem Api.exists_read_unmerged {doc : Value} {merge : Bool} {api : Api}
    (h : (Api.read doc merge).1 = .ok api) :
    ∃ plain, (Api.read doc false).1 = .ok plain ∧ (merge = false → plain = api) := by
  have hok : (Api.read doc false).1.isOk = (Api.read doc merge).1.isOk := by
    rw [Api.isOk_read, Api.isOk_read]
  rw [h] at hok
  cases hplain : (Api.read doc false).1 with
  | error f =>
      rw [hplain] at hok
      cases hok
  | ok plain =>
      refine ⟨plain, rfl, ?_⟩
      rintro rfl
      exact Except.ok.inj (hplain.symm.trans h)

namespace Command

open Generation (ofDocument Outcome)
open Rendering (Context)

variable {w : World} {source : String}

/-! ## Inspecting -/

theorem gives_inspection {k : Console} {base : Option String} {enhance : Bool} {doc : Value}
    {api : Api} {o : Outcome}
    (hload : ((Source.load source).run w).1.1 = .ok doc) (hapi : (Api.read doc false).1 = .ok api)
    (ho : (ofDocument { baseUrl := base, enhance := enhance } (some source) doc).1 = .ok o) :
    Gives (inspection k source base enhance) w (.ok ⟨api, o⟩) "" := by
  have hdoc := gives_orStopNoted k (x := Source.load source) Stop.ofSource
    (Source.written_load source w)
  rw [hload] at hdoc
  unfold inspection
  refine hdoc.bind_silent ?_
  generalize ((Run.orStopNoted k (Source.load source) Stop.ofSource).run.run w).2 = w'
  have hread := gives_noted k (Api.read doc false) Stop.ofApi w'
  rw [hapi] at hread
  refine hread.bind_silent ?_
  generalize ((Run.noted k (Api.read doc false) Stop.ofApi).run.run w').2 = w''
  have hgenerated := gives_noted k
    (ofDocument { baseUrl := base, enhance := enhance } (some source) doc) Stop.ofGeneration w''
  rw [ho] at hgenerated
  exact hgenerated.bind_silent (gives_pure _ _)

/-! ## Command lines -/

/-- Run in a world, a command line succeeds and prints a text. -/
structure Prints (e : Equipment) (line : List String) (w : World) (text : String) : Prop where
  exit : ((run e line).run w).1 = successCode
  output : ((run e line).run w).2.written .out = w.written .out ++ text

theorem Prints.unique {e : Equipment} {line : List String} {w : World} {text text' : String}
    (h : Prints e line w text) (h' : Prints e line w text') : text = text' :=
  String.append_right_inj (w.written .out) |>.1 (h.output.symm.trans h'.output)

/-- The console in a world for a command line without options before the command. -/
def consoleIn (w : World) : Console := ((View.console {}).run w).1

variable (e : Equipment)

theorem run_of_read {line : List String} {task : Task}
    (h : Request.read line = .ok ⟨{}, task⟩) (w : World) :
    (run e line).run w = (finish (consoleIn w) (perform e (consoleIn w) task)).run w := by
  unfold run
  rw [h]
  dsimp only
  unfold Request.answer
  rw [Action.run_seq]
  rfl

theorem prints_of_gives {line : List String} {task : Task} {text : String}
    (hread : Request.read line = .ok ⟨{}, task⟩)
    (h : Gives (perform e (consoleIn w) task) w (.ok ()) text) : Prints e line w text := by
  have hrun := run_of_read e hread w
  obtain ⟨hexit, houtput⟩ := finish_of_gives h
  exact ⟨by rw [hrun, hexit], by rw [hrun, houtput]⟩

/-- The text of a value as it is printed in a world. -/
def shownIn (w : World) (v : Value) : String := (consoleIn w).jsonText e.drawing v

/-- The table of the tools of an interface with a title, as it is printed in a world, unless it
cannot be drawn there. -/
def listing (w : World) (title : String) (tools : List Tool) : Except String String :=
  (consoleIn w).tableText e.drawing (some (title ++ " -- Tools (" ++ toString tools.length ++ ")"))
    ["Name", "Method", "Path", "Parameters", "Required", "Auth"] (tools.map toolRow)

/-- Only a drawing for a reader at a terminal may fail. -/
theorem isOk_listing (h : (consoleIn w).format ≠ .rich) (title : String) (tools : List Tool) :
    (listing e w title tools).isOk = true := by
  unfold listing Console.tableText
  cases hformat : (consoleIn w).format with
  | rich => exact absurd hformat h
  | json => rfl
  | plain => rfl

theorem isArgument_of_isClean {n : String} (h : Name.IsClean n) : IsArgument n := by
  refine .inr fun hdash => ?_
  obtain ⟨cs, hcs⟩ := List.head?_eq_some_iff.1 hdash
  have := h.chars '-' (by rw [hcs]; exact List.mem_cons_self)
  revert this
  decide

/-- Run in a world, the commands that inspect a source show tools: one lists them all, and one shows
the first of those with a name. -/
structure Inspects (source : String) (w : World) (title : String) (tools : List Tool) :
    Prop where
  all : ∀ text, listing e w title tools = .ok text →
    Prints e ["inspect", "tools", source] w text
  each : ∀ t ∈ tools, ∃ first, tools.find? (·.name == t.name) = some first ∧
    Prints e ["inspect", "tool", source, t.name] w (shownIn e w first.toValue)

section

variable {doc : Value} {api : Api} {o : Outcome}

theorem prints_inspectTools {text : String} (hs : IsArgument source)
    (hload : ((Source.load source).run w).1.1 = .ok doc) (hapi : (Api.read doc false).1 = .ok api)
    (ho : (ofDocument {} (some source) doc).1 = .ok o)
    (htext : listing e w o.info.title o.tools = .ok text) :
    Prints e ["inspect", "tools", source] w text :=
  prints_of_gives e (read_inspectTools hs)
    ((gives_inspection hload hapi ho).bind_silent (gives_table htext _))

/-- The tools of a source can be listed if and only if the list can be drawn. -/
theorem succeeds_inspectTools_iff (hs : IsArgument source)
    (hload : ((Source.load source).run w).1.1 = .ok doc) (hapi : (Api.read doc false).1 = .ok api)
    (ho : (ofDocument {} (some source) doc).1 = .ok o) :
    ((run e ["inspect", "tools", source]).run w).1 = successCode ↔
      (listing e w o.info.title o.tools).isOk = true := by
  cases htext : listing e w o.info.title o.tools with
  | ok text =>
      exact iff_of_true (prints_inspectTools e hs hload hapi ho htext).exit rfl
  | error cause =>
      have hstops : Gives (perform e (consoleIn w) (.inspect (.tools source false))) w
          (.error (.crashed cause)) "" :=
        (gives_inspection hload hapi ho).bind_silent (gives_table_error htext _)
      have hcode := finish_of_gives_error (k := consoleIn w) hstops
      rw [run_of_read e (read_inspectTools hs) w, hcode]
      exact iff_of_false Nat.one_ne_zero Bool.false_ne_true

theorem prints_inspectTool {name : String} {t : Tool} (hs : IsArgument source)
    (hn : IsArgument name) (hload : ((Source.load source).run w).1.1 = .ok doc)
    (hapi : (Api.read doc false).1 = .ok api)
    (ho : (ofDocument {} (some source) doc).1 = .ok o)
    (ht : o.tools.find? (·.name == name) = some t) (hprintable : t.IsPrintable) :
    Prints e ["inspect", "tool", source, name] w (shownIn e w t.toValue) := by
  refine prints_of_gives e (read_inspectTool hs hn)
    ((gives_inspection hload hapi ho).bind_silent ?_)
  unfold showTool
  rw [ht]
  exact gives_print hprintable.toDict e (consoleIn w) _

theorem inspects_of_ofDocument (hs : IsArgument source)
    (hload : ((Source.load source).run w).1.1 = .ok doc) (hapi : (Api.read doc false).1 = .ok api)
    (ho : (ofDocument {} (some source) doc).1 = .ok o)
    (hprintable : ∀ t ∈ o.tools, t.IsPrintable) :
    Inspects e source w o.info.title o.tools := by
  refine ⟨fun _ htext => prints_inspectTools e hs hload hapi ho htext, fun t ht => ?_⟩
  have hfound : (o.tools.find? (·.name == t.name)).isSome := by
    rw [List.find?_isSome]
    exact ⟨t, ht, beq_self_eq_true t.name⟩
  obtain ⟨first, hfirst⟩ := Option.isSome_iff_exists.1 hfound
  have hname : IsArgument t.name := isArgument_of_isClean (Generation.isClean_of_ofDocument ho ht)
  exact ⟨first, hfirst, prints_inspectTool e hs hname hload hapi ho hfirst
    (hprintable first (List.mem_of_find?_eq_some hfirst))⟩

end

theorem prints_generate {m : Value} (hs : IsArgument source) (hm : manifestIn w source = .ok m) :
    Prints e ["generate", source, "--stdout"] w (shownIn e w m) := by
  refine prints_of_gives e (read_generate hs) ?_
  have hgives := gives_generate e (consoleIn w) w source
  rwa [hm] at hgives

/-- If the command for a manifest succeeds, there is one. -/
theorem exists_manifest (hs : IsArgument source)
    (hg : ((run e ["generate", source, "--stdout"]).run w).1 = successCode) :
    ∃ m, manifestIn w source = .ok m := by
  cases hm : manifestIn w source with
  | ok m => exact ⟨m, rfl⟩
  | error s =>
      have hgives := gives_generate e (consoleIn w) w source
      rw [hm] at hgives
      rw [run_of_read e (read_generate hs) w] at hg
      exact absurd ((finish_of_gives_error hgives).symm.trans hg) (code_of_manifestIn hm)

/-- **Inspecting shows what is generated, apart from the configuration.** Whenever a server can be
generated from a source, the tools of the source can be listed, unless their list is to be drawn and
cannot be. Unless the configuration asks for better wording or for the parameters of paths, which
only the file of the project can do, the tools that are inspected are those of the manifest, in the
same order, but sent to the address that the document has of its own; those of the manifest are sent
to the address of the configuration, if it gives one. All this holds for every form of the output
and for every way to draw it. -/
theorem inspect_previews (hs : IsArgument source)
    (hg : ((run e ["generate", source, "--stdout"]).run w).1 = successCode) :
    ∃ (c : Configuration) (doc : Value) (api : Api) (generated : Context) (inspected : List Tool),
      ((Configuration.resolve []).run w).1 = .ok c ∧
      ((Configuration.project.run w).1 = .ok none →
        c.enhance = false ∧ c.mergePathParameters = false) ∧
      ((Source.load source).run w).1.1 = .ok doc ∧ (Api.read doc false).1 = .ok api ∧
      Prints e ["generate", source, "--stdout"] w (shownIn e w generated.manifest) ∧
      (((run e ["inspect", "tools", source]).run w).1 = successCode ↔
        (listing e w api.info.title inspected).isOk = true) ∧
      ((consoleIn w).format ≠ .rich → (listing e w api.info.title inspected).isOk = true) ∧
      (c.enhance = false → c.mergePathParameters = false →
        inspected = generated.tools.map (·.sentTo api.baseUrl) ∧
        Inspects e source w api.info.title inspected ∧
        ∀ t ∈ generated.tools, t.sentTo (c.baseUrl.getD api.baseUrl) = t) := by
  obtain ⟨m, hm⟩ := exists_manifest e hs hg
  have hprints := prints_generate e hs hm
  obtain ⟨c, o, hc, ho, hprintable, rfl⟩ := manifestIn_eq_ok_iff.1 hm
  obtain ⟨doc, hload, hdoc⟩ := outcomeIn_eq_ok_iff.1 ho
  obtain ⟨report, api, hcheck, -, hread, rfl⟩ := Generation.ofDocument_eq_ok_iff.1 hdoc
  obtain ⟨plain, hplain, heq⟩ := Api.exists_read_unmerged hread
  -- the document as it is inspected: not refused by a strict configuration, and read without merging
  have hinspected : (ofDocument {} (some source) doc).1
      = .ok (Generation.ofApi {} (some source) report plain).1 :=
    Generation.ofDocument_eq_ok_iff.2 ⟨report, plain, hcheck, rfl, hplain, rfl⟩
  obtain ⟨shown, hshown, hinfo⟩ : ∃ shown,
      (Generation.ofApi {} (some source) report plain).1 = shown ∧ shown.info = plain.info :=
    ⟨_, rfl, rfl⟩
  rw [hshown] at hinspected
  have hlists := succeeds_inspectTools_iff e hs hload hplain hinspected
  rw [hinfo] at hlists
  refine ⟨c, doc, plain, _, shown.tools, hc,
    fun hproject => Configuration.plain_of_resolve hproject hc, hload, hplain, hprints, hlists,
    fun hformat => isOk_listing e hformat _ _, fun henhance hmerge => ?_⟩
  obtain rfl := heq hmerge
  have hown := Generation.map_sentTo_ofApi (optionsOf c) henhance (some source) report plain
  rw [hshown] at hown
  rw [tools_contextOf, hown, ← hinfo]
  refine ⟨rfl, ?_, ?_⟩
  · refine inspects_of_ofDocument e hs hload hplain hinspected fun t ht => ?_
    rw [← hown] at ht
    obtain ⟨made, hmade, rfl⟩ := List.mem_map.1 ht
    exact (hprintable made hmade).sentTo _
  · intro t ht
    rw [Generation.tools_ofApi (optionsOf c) henhance] at ht
    exact Api.sentTo_of_mem_tools ht

/-! ### A pet shop before it opens -/

open Generation (petsText petsDocument)

/-- A disk with one document, and an environment that gives an address for tools. -/
def stagedShop : World :=
  { disk := { entries := [(["api.json"], .file petsText.toUTF8)] }
    environment := [(Configuration.baseUrlVariable, "https://staging")] }

/-- The configuration that the environment gives. -/
def staging : Configuration := { baseUrl := some "https://staging" }

theorem resolve_stagedShop : ((Configuration.resolve []).run stagedShop).1 = .ok staging := rfl

theorem load_stagedShop : ((Source.load "api.json").run stagedShop).1.1 = .ok petsDocument := by
  have htext : (Source.ofText "api.json").textIn stagedShop = .ok (petsText, .json) := by
    decide +kernel
  rw [Source.run_load, htext]
  unfold Source.decode
  simp only [Generation.parse_petsText, Except.mapError]

/-- The only tool of the document, sent to an address. -/
def petsTool (base : Option String) : Tool :=
  { name := "get_pets"
    description := "Retrieve pets"
    method := "GET"
    path := "/pets"
    baseUrl := base }

theorem ofDocument_petsDocument (base : Option String) :
    ∃ o, (ofDocument { baseUrl := base } (some "api.json") petsDocument).1 = .ok o ∧
      o.tools = [petsTool (base.bind nonempty?)] :=
  ⟨_, rfl, by cases base <;> rfl⟩

theorem isPrintable_petsTool : (petsTool none).IsPrintable :=
  ⟨by decide, rfl, by decide +kernel⟩

theorem prints_generate_stagedShop : ∃ generated : Context,
    generated.tools = [petsTool (some "https://staging")] ∧
      Prints .plain ["generate", "api.json", "--stdout"] stagedShop
        (shownIn .plain stagedShop generated.manifest) := by
  obtain ⟨o, ho, htools⟩ := ofDocument_petsDocument staging.baseUrl
  have htools : o.tools = [petsTool (some "https://staging")] := htools
  have hmanifest : manifestIn stagedShop "api.json" = .ok (contextOf staging o).manifest := by
    refine manifestIn_eq_ok_iff.2 ⟨staging, o, resolve_stagedShop,
      outcomeIn_eq_ok_iff.2 ⟨petsDocument, load_stagedShop, ho⟩, ?_, rfl⟩
    rw [htools, List.forall_mem_singleton]
    exact isPrintable_petsTool.sentTo "https://staging"
  exact ⟨contextOf staging o, htools, prints_generate .plain (.inr (by decide)) hmanifest⟩

theorem prints_inspect_stagedShop :
    Prints .plain ["inspect", "tool", "api.json", "get_pets"] stagedShop
      (shownIn .plain stagedShop (petsTool none).toValue) := by
  obtain ⟨o, ho, htools⟩ := ofDocument_petsDocument none
  exact prints_inspectTool .plain (.inr (by decide)) (.inr (by decide)) load_stagedShop rfl ho
    (by rw [htools]; rfl) isPrintable_petsTool

/-- The configuration only gives an address, so the tools that are listed are those of the
manifest, but sent nowhere. -/
theorem stagedShop_listed : ∃ generated : Context,
    Prints .plain ["generate", "api.json", "--stdout"] stagedShop
      (shownIn .plain stagedShop generated.manifest) ∧
      ((run .plain ["inspect", "tools", "api.json"]).run stagedShop).1 = successCode ∧
      Inspects .plain "api.json" stagedShop "Untitled API"
        (generated.tools.map (·.sentTo "")) ∧
      ∀ t ∈ generated.tools, t.sentTo "https://staging" = t := by
  obtain ⟨_, -, hprints⟩ := prints_generate_stagedShop
  obtain ⟨c, doc, api, generated, inspected, hc, hplain, hload, hread, hprints, hlists, hdrawn,
    hinspects⟩ := inspect_previews .plain (.inr (by decide)) hprints.exit
  obtain rfl : staging = c := Except.ok.inj (resolve_stagedShop.symm.trans hc)
  obtain rfl : petsDocument = doc := Except.ok.inj (load_stagedShop.symm.trans hload)
  obtain ⟨henhance, hmerge⟩ := hplain rfl
  have hapi : api.baseUrl = "" ∧ api.info.title = "Untitled API" := by
    obtain rfl := Except.ok.inj hread
    exact ⟨rfl, rfl⟩
  rw [hapi.1, hapi.2] at hinspects
  obtain ⟨rfl, hinspects, hsent⟩ := hinspects henhance hmerge
  exact ⟨generated, hprints, hlists.2 (hdrawn (by decide)), hinspects, hsent⟩

/-- What is shown of the only tool is not what the manifest says of it: the address is missing. -/
theorem stagedShop_misleads : ∃ (generated : Context) (made : Tool),
    Prints .plain ["generate", "api.json", "--stdout"] stagedShop
      (shownIn .plain stagedShop generated.manifest) ∧
      generated.tools = [made] ∧
      ¬ Prints .plain ["inspect", "tool", "api.json", made.name] stagedShop
        (shownIn .plain stagedShop made.toValue) := by
  obtain ⟨generated, htools, hprints⟩ := prints_generate_stagedShop
  refine ⟨generated, _, hprints, htools, fun hsame => ?_⟩
  have hdiffer : shownIn .plain stagedShop (petsTool none).toValue
      ≠ shownIn .plain stagedShop (petsTool (some "https://staging")).toValue := by
    decide +kernel
  exact hdiffer (prints_inspect_stagedShop.unique hsame)

end Command

end ApiTools
