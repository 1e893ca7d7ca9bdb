import ApiTools.Proofs.Generation.Batch
import Mathlib.Data.List.Count
import Mathlib.Data.List.Duplicate

set_option autoImplicit false

/-!
# How documents are merged

The tools of a batch are those of its documents, one document after the other, and a name is told
as a duplicate exactly if it comes up at least twice. When documents are kept apart, the name of a
tool tells both the namespace of its document and the name that it had there. So a name comes up
twice only in one document that has it twice, or in two documents that share a namespace.
-/

namespace ApiTools.Generation

open Name (IsClean)

/-! ## Names that come up twice -/

theorem duplicate_append_iff {n : String} {ms ns : List String} :
    List.Duplicate n (ms ++ ns)
      ↔ List.Duplicate n ms ∨ List.Duplicate n ns ∨ (n ∈ ms ∧ n ∈ ns) := by
  simp only [List.duplicate_iff_two_le_count, List.count_append, ← List.count_pos_iff]
  omega

/-- A name comes up twice in lists put together if it does so in one of them, or if it is in two of
them. -/
theorem duplicate_flatMap_iff {α : Type} {n : String} {f : α → List String} {ds : List α} :
    List.Duplicate n (ds.flatMap f)
      ↔ (∃ d ∈ ds, List.Duplicate n (f d)) ∨ ∃ d e, [d, e].Sublist ds ∧ n ∈ f d ∧ n ∈ f e := by
  induction ds with
  | nil => simp
  | cons d ds ih =>
      rw [List.flatMap_cons, duplicate_append_iff, ih, List.mem_flatMap]
      constructor
      · rintro (h | (⟨e, he, h⟩ | ⟨e, e', hsub, h⟩) | ⟨hd, e, he, h⟩)
        · exact .inl ⟨d, List.mem_cons_self, h⟩
        · exact .inl ⟨e, List.mem_cons_of_mem d he, h⟩
        · exact .inr ⟨e, e', hsub.cons d, h⟩
        · exact .inr ⟨d, e, (List.singleton_sublist.2 he).cons_cons d, hd, h⟩
      · rintro (⟨e, he, h⟩ | ⟨e, e', hsub, he, he'⟩)
        · rcases List.mem_cons.1 he with rfl | he
          · exact .inl h
          · exact .inr (.inl (.inl ⟨e, he, h⟩))
        · -- the first one of the two is the document in front, or both are behind it
          cases hsub with
          | cons _ hsub => exact .inr (.inl (.inr ⟨e, e', hsub, he, he'⟩))
          | cons_cons _ hsub => exact .inr (.inr ⟨he, e', List.singleton_sublist.1 hsub, he'⟩)

/-- A name comes up again if it was there before or comes up twice. -/
theorem mem_repeats_iff {n : String} {seen : List String} {ts : List Tool} :
    n ∈ repeats seen ts
      ↔ (n ∈ seen ∧ n ∈ ts.map Tool.name) ∨ List.Duplicate n (ts.map Tool.name) := by
  induction ts generalizing seen with
  | nil => simp [repeats]
  | cons t ts ih =>
      rw [repeats, List.mem_append, ih, List.map_cons, List.duplicate_cons_iff, List.mem_cons,
        List.mem_cons]
      by_cases hn : n = t.name
      · subst hn
        by_cases hseen : t.name ∈ seen
        · simp [hseen]
        · simp [hseen]
      · have hne : t.name ≠ n := Ne.symm hn
        simp [hn, hne]

theorem mem_duplicates_iff {strategy : MergeStrategy} {results : List (BatchSource × Result)}
    {n : String} : n ∈ (merge strategy results).1.duplicates
      ↔ List.Duplicate n ((merge strategy results).1.tools.map Tool.name) := by
  show n ∈ Named.distinct (repeats [] (allTools strategy results)) ↔ _
  rw [Named.mem_distinct, mem_repeats_iff]
  simp [merge]

/-! ## Documents of a batch -/

/-- The documents that gave tools, with their sources. -/
def documentsIn : List (BatchSource × Result) → List (BatchSource × Outcome)
  | [] => []
  | (s, .ok o) :: rest => (s, o) :: documentsIn rest
  | (_, .error _) :: rest => documentsIn rest

variable {results : List (BatchSource × Result)}

theorem sources_documentsIn_sublist :
    ((documentsIn results).map (·.1)).Sublist (results.map (·.1)) := by
  induction results with
  | nil => exact List.Sublist.refl _
  | cons x rest ih =>
      obtain ⟨s, r⟩ := x
      cases r with
      | error f => exact ih.cons s
      | ok o => exact ih.cons_cons s

theorem outcomes_documentsIn (strategy : MergeStrategy) :
    (documentsIn results).map (·.2) = (merge strategy results).1.results := by
  show _ = results.filterMap fun x => x.2.toOption
  induction results with
  | nil => rfl
  | cons x rest ih =>
      obtain ⟨s, r⟩ := x
      cases r with
      | error f => exact ih
      | ok o => exact congrArg (o :: ·) ih

theorem allTools_eq (strategy : MergeStrategy) :
    allTools strategy results
      = (documentsIn results).flatMap fun d => mergedTools strategy d.1 d.2 := by
  unfold allTools
  induction results with
  | nil => rfl
  | cons x rest ih =>
      obtain ⟨s, r⟩ := x
      cases r with
      | error f => exact ih
      | ok o => rw [List.flatMap_cons, ih, documentsIn, List.flatMap_cons]

theorem mem_of_mem_documentsIn {d : BatchSource × Outcome} (h : d ∈ documentsIn results) :
    (d.1, .ok d.2) ∈ results := by
  induction results with
  | nil => cases h
  | cons x rest ih =>
      obtain ⟨s, r⟩ := x
      cases r with
      | error f => exact List.mem_cons_of_mem _ (ih h)
      | ok o =>
          rcases List.mem_cons.1 h with rfl | h
          · exact List.mem_cons_self
          · exact List.mem_cons_of_mem _ (ih h)

/-! ## Namespaces -/

/-- What comes before the names of the tools of a document. -/
def spaceOf (d : BatchSource × Outcome) : String := nameSpace d.1 d.2

/-- The names of the tools of a document, as it has them. -/
def ownNames (d : BatchSource × Outcome) : List String := d.2.tools.map Tool.name

/-- The name of a tool of a document, as the batch has it. -/
def fullName (d : BatchSource × Outcome) (name : String) : String := spaceOf d ++ "__" ++ name

/-- A name is that of two tools of one document. -/
def HasTwice (docs : List (BatchSource × Outcome)) (n : String) : Prop :=
  ∃ d ∈ docs, ∃ m, List.Duplicate m (ownNames d) ∧ n = fullName d m

/-- A name is that of tools of two documents with one namespace. -/
def IsShared (docs : List (BatchSource × Outcome)) (n : String) : Prop :=
  ∃ d e, [d, e].Sublist docs ∧ spaceOf d = spaceOf e ∧
    ∃ m, m ∈ ownNames d ∧ m ∈ ownNames e ∧ n = fullName d m

theorem isClean_spaceOf (d : BatchSource × Outcome) : IsClean (spaceOf d) := by
  unfold spaceOf nameSpace
  exact Name.isClean_namespaceOf _

theorem fullName_inj {d e : BatchSource × Outcome} {m n : String} :
    fullName d m = fullName e n ↔ spaceOf d = spaceOf e ∧ m = n :=
  Name.separated_inj (isClean_spaceOf d) (isClean_spaceOf e)

theorem duplicate_fullName_iff {d : BatchSource × Outcome} {n : String} {ms : List String} :
    List.Duplicate n (ms.map (fullName d)) ↔ ∃ m, List.Duplicate m ms ∧ n = fullName d m := by
  have hinj : Function.Injective (fullName d) := fun m n h => (fullName_inj.1 h).2
  constructor
  · intro h
    obtain ⟨m, -, rfl⟩ := List.mem_map.1 h.mem
    refine ⟨m, ?_, rfl⟩
    rw [List.duplicate_iff_two_le_count] at h ⊢
    rwa [List.count_map_of_injective _ _ hinj] at h
  · rintro ⟨m, h, rfl⟩
    rw [List.duplicate_iff_two_le_count] at h ⊢
    rwa [List.count_map_of_injective _ _ hinj]

theorem names_mergedTools (d : BatchSource × Outcome) :
    (mergedTools .separate d.1 d.2).map Tool.name = (ownNames d).map (fullName d) := by
  unfold mergedTools ownNames
  rw [List.map_map, List.map_map]
  rfl

theorem mem_duplicates_separate_iff {n : String} :
    n ∈ (merge .separate results).1.duplicates
      ↔ HasTwice (documentsIn results) n ∨ IsShared (documentsIn results) n := by
  have hnames : (merge .separate results).1.tools.map Tool.name
      = (documentsIn results).flatMap fun d => (ownNames d).map (fullName d) := by
    show (allTools .separate results).map Tool.name = _
    rw [allTools_eq, List.map_flatMap]
    simp only [names_mergedTools]
  rw [mem_duplicates_iff, hnames, duplicate_flatMap_iff]
  refine or_congr ?_ ?_
  · unfold HasTwice
    simp only [duplicate_fullName_iff]
  · unfold IsShared
    refine exists₂_congr fun d e => and_congr_right fun _ => ?_
    constructor
    · rintro ⟨hd, he⟩
      obtain ⟨m, hm, rfl⟩ := List.mem_map.1 hd
      obtain ⟨m', hm', heq⟩ := List.mem_map.1 he
      obtain ⟨hspace, rfl⟩ := fullName_inj.1 heq
      exact ⟨hspace.symm, m', hm, hm', rfl⟩
    · rintro ⟨hspace, m, hm, hm', rfl⟩
      refine ⟨List.mem_map_of_mem hm, List.mem_map.2 ⟨m, hm', ?_⟩⟩
      exact fullName_inj.2 ⟨hspace.symm, rfl⟩

/-! ## Batches in a world -/

variable {options : Options} {strategy : MergeStrategy} {sources : List BatchSource} {w : World}

theorem eq_batchIn_of_run {b : Batch}
    (h : ((fromSources options strategy sources).run w).1.1 = .ok b) :
    b = batchIn options strategy sources w := by
  by_cases hbreaks : ∃ s ∈ enabled sources, Source.Breaks w (Source.ofText s.input)
  · obtain ⟨f, hf⟩ := run_of_breaks options strategy hbreaks
    rw [hf] at h
    cases h
  · have hnone : ∀ s ∈ enabled sources, ¬ Source.Breaks w (Source.ofText s.input) := by
      simpa using hbreaks
    rw [run_of_not_breaks options strategy hnone] at h
    exact (Except.ok.inj h).symm

/-- The results of the sources of a batch that count. -/
def resultsIn (options : Options) (sources : List BatchSource) (w : World) :
    List (BatchSource × Result) :=
  (loadedIn w (enabled sources)).map fun x => (x.1, resultIn options x.1 x.2)

theorem sources_resultsIn : (resultsIn options sources w).map (·.1) = enabled sources := by
  unfold resultsIn
  rw [List.map_map]
  exact map_fst_loadedIn _ _

theorem exists_of_resultIn {s : BatchSource} {l : Loaded} {o : Outcome}
    (h : resultIn options s l = .ok o) :
    ∃ doc, (ofDocument options (some s.input) doc).1 = .ok o := by
  obtain ⟨r, notes⟩ := l
  unfold resultIn ofLoaded at h
  cases r with
  | error f => cases h
  | ok doc =>
      dsimp only at h
      cases hdoc : (ofDocument options (some s.input) doc).1 with
      | error f =>
          rw [hdoc] at h
          cases h
      | ok p =>
          rw [hdoc] at h
          cases h
          exact ⟨doc, hdoc⟩

theorem isClean_of_mem_ownNames {d : BatchSource × Outcome}
    (hd : d ∈ documentsIn (resultsIn options sources w)) {m : String} (hm : m ∈ ownNames d) :
    IsClean m := by
  obtain ⟨x, -, hx⟩ := List.mem_map.1 (mem_of_mem_documentsIn hd)
  obtain ⟨doc, hdoc⟩ := exists_of_resultIn (Prod.mk.inj hx).2
  obtain ⟨t, ht, rfl⟩ := List.mem_map.1 hm
  exact isClean_of_ofDocument hdoc ht

/-- **Documents that are kept apart do not get in each other's way.** Namespaces and names are
clean, so the name of a tool in the batch tells both, and the names that are told as duplicates are
those that one document has twice and those that documents with one namespace share. -/
theorem namespaces_separate {b : Batch}
    (h : ((fromSources options .separate sources).run w).1.1 = .ok b) :
    ∃ docs : List (BatchSource × Outcome),
      (docs.map (·.1)).Sublist (enabled sources) ∧ docs.map (·.2) = b.results ∧
      b.tools = docs.flatMap (fun d => d.2.tools.map (Tool.within (spaceOf d))) ∧
      (∀ d ∈ docs, IsClean (spaceOf d) ∧ ∀ m ∈ ownNames d, IsClean m) ∧
      (∀ d ∈ docs, ∀ e ∈ docs, ∀ t ∈ d.2.tools, ∀ u ∈ e.2.tools,
        (Tool.within (spaceOf d) t).name = (Tool.within (spaceOf e) u).name →
          spaceOf d = spaceOf e ∧ t.name = u.name) ∧
      ∀ n, n ∈ b.duplicates ↔ HasTwice docs n ∨ IsShared docs n := by
  have hb : b = (merge .separate (resultsIn options sources w)).1 := eq_batchIn_of_run h
  refine ⟨documentsIn (resultsIn options sources w), ?_, ?_, ?_, ?_, ?_, ?_⟩
  · have hsources : (resultsIn options sources w).map (·.1) = enabled sources := sources_resultsIn
    rw [← hsources]
    exact sources_documentsIn_sublist
  · rw [hb]
    exact outcomes_documentsIn .separate
  · rw [hb]
    exact allTools_eq .separate
  · intro d hd
    exact ⟨isClean_spaceOf d, fun m hm => isClean_of_mem_ownNames hd hm⟩
  · intro d _ e _ t _ u _ hname
    exact fullName_inj.1 hname
  · intro n
    rw [hb]
    exact mem_duplicates_separate_iff

/-! ### Two pet shops -/

/-- A document with one operation, as it is written. -/
def petsText : String := "\x7b\"paths\":\x7b\"/pets\":\x7b\"get\":\x7b\x7d\x7d\x7d\x7d"

/-- The document. -/
def petsDocument : Value :=
  Value.object [("paths", Value.object [("/pets", Value.object [("get", Value.object [])])])]

theorem parse_petsText : Document.parse petsText .json = .ok petsDocument := by cbv

/-- A disk with two files of that document. -/
def petShops : World :=
  { disk :=
      { entries :=
          [(["first.json"], .file petsText.toUTF8), (["second.json"], .file petsText.toUTF8)] } }

/-- The two files as a batch, with labels that differ in letter case and punctuation. -/
def petSources : List BatchSource :=
  [{ input := "first.json", name := some "Pet Shop" },
   { input := "second.json", name := some "pet-shop" }]

/-- What is loaded from a file of the document. -/
def loadedPets (s : BatchSource) : BatchSource × Loaded :=
  (s, .ok petsDocument, [Log.debug
    ("Loaded " ++ toString petsText.length ++ " characters from " ++ s.input)])

theorem loadedIn_petShops : loadedIn petShops petSources = petSources.map loadedPets := by
  have hfirst : (Source.ofText "first.json").textIn petShops = .ok (petsText, .json) := by
    decide +kernel
  have hsecond : (Source.ofText "second.json").textIn petShops = .ok (petsText, .json) := by
    decide +kernel
  have hworld : (Source.ofText "first.json").worldAfter petShops = petShops := rfl
  unfold petSources
  rw [loadedIn, loadedIn, loadedIn, hfirst, hworld, hsecond]
  unfold Source.decode
  simp only [parse_petsText, Except.mapError]
  rfl

/-- The two labels give one namespace, so the only name that each document has is told. -/
theorem petShops_share : ∃ b docs,
    ((fromSources {} .separate petSources).run petShops).1.1 = .ok b ∧
      docs.map (·.2) = b.results ∧ b.duplicates = ["pet_shop__get_pets"] ∧
      IsShared docs "pet_shop__get_pets" := by
  obtain ⟨b, hb, hnames, hduplicates⟩ : ∃ b,
      ((fromSources {} .separate petSources).run petShops).1.1 = .ok b ∧
        b.results.map (fun o => o.tools.map Tool.name) = [["get_pets"], ["get_pets"]] ∧
        b.duplicates = ["pet_shop__get_pets"] := by
    rw [run_fromSources, show petSources.filter (·.enabled) = petSources from rfl,
      loadedIn_petShops]
    exact ⟨_, rfl, rfl, rfl⟩
  obtain ⟨docs, -, hresults, -, -, -, hiff⟩ := namespaces_separate hb
  have hone : ∀ d ∈ docs, ownNames d = ["get_pets"] := by
    intro d hd
    have hmem : ownNames d ∈ b.results.map (fun o => o.tools.map Tool.name) := by
      rw [← hresults]
      exact List.mem_map_of_mem (List.mem_map_of_mem hd)
    rw [hnames] at hmem
    simpa using hmem
  have hnot : ¬ HasTwice docs "pet_shop__get_pets" := by
    rintro ⟨d, hd, m, hm, -⟩
    rw [hone d hd] at hm
    exact List.not_duplicate_singleton _ _ hm
  have hmem : "pet_shop__get_pets" ∈ b.duplicates := by
    rw [hduplicates]
    exact List.mem_singleton_self _
  exact ⟨b, docs, hb, hresults, hduplicates, ((hiff _).1 hmem).resolve_left hnot⟩

end ApiTools.Generation
