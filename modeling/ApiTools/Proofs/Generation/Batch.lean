import ApiTools.Generation.Batch
import ApiTools.Proofs.Generation.Document
import ApiTools.Proofs.Source
import Mathlib.Data.List.Forall2

set_option autoImplicit false

/-!
# What a batch costs

A batch is generated unless one of its sources breaks, that is unless what it gives is neither a
document nor a failure that was reckoned with; then the whole batch is lost. A batch that is
generated accounts for each of its sources once, by a result or by a failure, in their order.
-/

namespace ApiTools.Generation

open Source (Breaks decode isReckoned ofText)

/-! ## Results of documents -/

/-- The result of a document from what was loaded. -/
def resultIn (options : Options) (s : BatchSource) (l : Loaded) : Result :=
  (ofLoaded options s.input l).1.mapError fun o => ⟨s.input, o.message⟩

variable (options : Options) {s : BatchSource} {l : Loaded} {loaded : List (BatchSource × Loaded)}

theorem resultOf_of_reckoned (h : isReckoned l.1 = true) :
    (resultOf options s l).1 = .ok (resultIn options s l) := by
  obtain ⟨r, notes⟩ := l
  unfold resultOf resultIn ofLoaded
  cases r with
  | error f =>
      have hexpected : f.isExpected = true := h
      dsimp only
      rw [if_pos hexpected]
      rfl
  | ok doc =>
      dsimp only
      cases ofDocument options (some s.input) doc with
      | mk r more => cases r <;> rfl

theorem resultOf_of_unreckoned (h : isReckoned l.1 = false) :
    ∃ f, (resultOf options s l).1 = .error f := by
  obtain ⟨r, notes⟩ := l
  cases r with
  | ok doc => cases h
  | error f =>
      have hexpected : f.isExpected = false := h
      refine ⟨f, ?_⟩
      unfold resultOf ofLoaded
      dsimp only
      rw [hexpected, if_neg Bool.false_ne_true]

theorem resultsOf_cons (x : BatchSource × Loaded) (rest : List (BatchSource × Loaded)) :
    (resultsOf options (x :: rest)).1 = (resultOf options x.1 x.2).1.bind fun r =>
      (resultsOf options rest).1.map ((x.1, r) :: ·) := by
  obtain ⟨s, l⟩ := x
  rw [resultsOf]
  cases resultOf options s l with
  | mk r notes => cases r <;> rfl

theorem resultsOf_of_reckoned (h : ∀ x ∈ loaded, isReckoned x.2.1 = true) :
    (resultsOf options loaded).1
      = .ok (loaded.map fun x => (x.1, resultIn options x.1 x.2)) := by
  induction loaded with
  | nil => rfl
  | cons x rest ih =>
      obtain ⟨hx, hrest⟩ := List.forall_mem_cons.1 h
      rw [resultsOf_cons, resultOf_of_reckoned options hx, ih hrest]
      rfl

theorem resultsOf_of_unreckoned (h : ∃ x ∈ loaded, isReckoned x.2.1 = false) :
    ∃ f, (resultsOf options loaded).1 = .error f := by
  induction loaded with
  | nil =>
      obtain ⟨x, hx, -⟩ := h
      cases hx
  | cons x rest ih =>
      rw [resultsOf_cons]
      cases hx : isReckoned x.2.1 with
      | false =>
          obtain ⟨f, hf⟩ := resultOf_of_unreckoned options (s := x.1) hx
          rw [hf]
          exact ⟨f, rfl⟩
      | true =>
          rw [resultOf_of_reckoned options hx]
          obtain ⟨y, hy, hunreckoned⟩ := h
          rcases List.mem_cons.1 hy with rfl | hy
          · rw [hx] at hunreckoned
            cases hunreckoned
          · obtain ⟨f, hf⟩ := ih ⟨y, hy, hunreckoned⟩
            rw [hf]
            exact ⟨f, rfl⟩

/-! ## What is loaded in a world -/

/-- What sources give, one after the other. -/
def loadedIn (w : World) : List BatchSource → List (BatchSource × Loaded)
  | [] => []
  | s :: rest =>
    (s, decode s.input ((ofText s.input).textIn w)) :: loadedIn ((ofText s.input).worldAfter w) rest

theorem run_loadAll (sources : List BatchSource) (w : World) :
    ((loadAll sources).run w).1 = loadedIn w sources := by
  induction sources generalizing w with
  | nil => rfl
  | cons s rest ih =>
      show ((Action.bind (Source.load s.input) fun l =>
        (loadAll rest).bind fun more => .done ((s, l) :: more)).run w).1 = _
      rw [Action.run_bind, Source.run_load, Action.run_bind]
      show (s, _) :: ((loadAll rest).run _).1 = _
      rw [ih]
      rfl

theorem run_fromSources (strategy : MergeStrategy) (sources : List BatchSource) (w : World) :
    ((fromSources options strategy sources).run w).1
      = ofBatch options strategy (loadedIn w (sources.filter (·.enabled))) := by
  show ((Action.bind (loadAll _) _).run w).1 = _
  rw [Action.run_bind, run_loadAll]
  rfl

/-- All that is loaded is reckoned with if no source breaks in the world before. -/
theorem loadedIn_reckoned_iff (sources : List BatchSource) (w : World) :
    (∀ x ∈ loadedIn w sources, isReckoned x.2.1 = true)
      ↔ ∀ s ∈ sources, ¬ Breaks w (ofText s.input) := by
  induction sources generalizing w with
  | nil => exact iff_of_true (List.forall_mem_nil _) (List.forall_mem_nil _)
  | cons s rest ih =>
      rw [loadedIn, List.forall_mem_cons, List.forall_mem_cons, ih, ← Bool.not_eq_false,
        Source.textIn_unreckoned_iff]
      -- the rest is loaded in the world after, where the same of its sources break
      refine and_congr_right fun h => forall₂_congr fun t _ => not_congr ?_
      exact Source.breaks_worldAfter_iff h _

/-! ## Batches -/

theorem ofBatch_of_results (strategy : MergeStrategy) {results : List (BatchSource × Result)}
    (h : (resultsOf options loaded).1 = .ok results) :
    (ofBatch options strategy loaded).1 = .ok (merge strategy results).1 := by
  unfold ofBatch
  cases hr : resultsOf options loaded with
  | mk r notes =>
      rw [hr] at h
      obtain rfl : r = .ok results := h
      rfl

theorem ofBatch_of_failure (strategy : MergeStrategy) {f : Source.Failure}
    (h : (resultsOf options loaded).1 = .error f) :
    (ofBatch options strategy loaded).1 = .error f := by
  unfold ofBatch
  cases hr : resultsOf options loaded with
  | mk r notes =>
      rw [hr] at h
      obtain rfl : r = .error f := h
      rfl

/-- The sources of a batch that count. -/
def enabled (sources : List BatchSource) : List BatchSource := sources.filter (·.enabled)

/-- What a batch gives if no source breaks. -/
def batchIn (options : Options) (strategy : MergeStrategy) (sources : List BatchSource)
    (w : World) : Batch :=
  (merge strategy ((loadedIn w (enabled sources)).map fun x =>
    (x.1, resultIn options x.1 x.2))).1

variable (strategy : MergeStrategy) {sources : List BatchSource} {w : World}

theorem run_of_not_breaks (h : ∀ s ∈ enabled sources, ¬ Breaks w (ofText s.input)) :
    ((fromSources options strategy sources).run w).1.1
      = .ok (batchIn options strategy sources w) := by
  rw [run_fromSources]
  exact ofBatch_of_results options strategy
    (resultsOf_of_reckoned options ((loadedIn_reckoned_iff _ w).2 h))

theorem run_of_breaks (h : ∃ s ∈ enabled sources, Breaks w (ofText s.input)) :
    ∃ f, ((fromSources options strategy sources).run w).1.1 = .error f := by
  obtain ⟨s, hs, hbreaks⟩ := h
  -- something is loaded that was not reckoned with, or else no source would break
  have hloaded : ∃ x ∈ loadedIn w (enabled sources), isReckoned x.2.1 = false := by
    by_contra hnone
    refine (loadedIn_reckoned_iff _ w).1 (fun x hx => ?_) s hs hbreaks
    rw [← Bool.not_eq_false]
    exact fun hx' => hnone ⟨x, hx, hx'⟩
  obtain ⟨f, hf⟩ := resultsOf_of_unreckoned options hloaded
  refine ⟨f, ?_⟩
  rw [run_fromSources]
  exact ofBatch_of_failure options strategy hf

/-! ## Accounts -/

/-- What failed, if a result is a failure. -/
def failed? : Result → Option Failed
  | .error f => some f
  | .ok _ => none

/-- A result tells the source that it is of. -/
def IsOf (s : BatchSource) : Result → Prop
  | .ok o => o.source = some s.input
  | .error f => f.source = s.input

/-- A batch accounts for sources if each has one result, in their order, and the outcomes among
these are the results of the batch and the others its failures. -/
def Accounts (sources : List BatchSource) (b : Batch) : Prop :=
  ∃ rs : List Result, List.Forall₂ IsOf sources rs ∧
    b.results = rs.filterMap Except.toOption ∧ b.failures = rs.filterMap failed?

theorem source_of_ofDocument {source : Option String} {doc : Value} {o : Outcome}
    (h : (ofDocument options source doc).1 = .ok o) : o.source = source := by
  obtain ⟨report, api, -, rfl⟩ := exists_of_ofDocument h
  rfl

theorem isOf_resultIn (s : BatchSource) (l : Loaded) : IsOf s (resultIn options s l) := by
  obtain ⟨r, notes⟩ := l
  unfold resultIn ofLoaded
  cases r with
  | error f => rfl
  | ok doc =>
      dsimp only
      cases hdoc : (ofDocument options (some s.input) doc).1 with
      | error f => rfl
      | ok o => exact source_of_ofDocument options hdoc

theorem map_fst_loadedIn (sources : List BatchSource) (w : World) :
    (loadedIn w sources).map (·.1) = sources := by
  induction sources generalizing w with
  | nil => rfl
  | cons s rest ih => exact congrArg (s :: ·) (ih _)

theorem accounts_batchIn : Accounts (enabled sources) (batchIn options strategy sources w) := by
  refine ⟨(loadedIn w (enabled sources)).map fun x => resultIn options x.1 x.2, ?_, ?_, ?_⟩
  · have hforall : List.Forall₂ IsOf ((loadedIn w (enabled sources)).map (·.1))
        ((loadedIn w (enabled sources)).map fun x => resultIn options x.1 x.2) := by
      rw [List.forall₂_map_left_iff, List.forall₂_map_right_iff, List.forall₂_same]
      exact fun x _ => isOf_resultIn options x.1 x.2
    rwa [map_fst_loadedIn] at hforall
  · show List.filterMap _ _ = _
    rw [List.filterMap_map, List.filterMap_map]
    rfl
  · show List.filterMap _ _ = _
    rw [List.filterMap_map, List.filterMap_map]
    rfl

/-- **A batch is generated, and accounts once for each of its sources that count, if and only if
none of these breaks.** -/
theorem generates_iff_not_breaks (options : Options) (strategy : MergeStrategy)
    (sources : List BatchSource) (w : World) :
    (∃ b, ((fromSources options strategy sources).run w).1.1 = .ok b ∧
        Accounts (enabled sources) b)
      ↔ ∀ s ∈ enabled sources, ¬ Breaks w (ofText s.input) := by
  constructor
  · rintro ⟨b, hb, -⟩ s hs hbreaks
    obtain ⟨f, hf⟩ := run_of_breaks options strategy ⟨s, hs, hbreaks⟩
    rw [hf] at hb
    cases hb
  · intro h
    exact ⟨_, run_of_not_breaks options strategy h, accounts_batchIn options strategy⟩

/-! ### A file in another encoding -/

/-- A disk with a document, and with a file of one byte that no text in UTF-8 begins with. -/
def twoFiles : World :=
  { disk :=
      { entries :=
          [(["pets.json"], .file (String.toUTF8 "\x7b\"paths\":\x7b\x7d\x7d")),
           (["latin.json"], .file ⟨#[0xFF]⟩)] } }

/-- The two files as a batch. -/
def twoSources : List BatchSource := [{ input := "pets.json" }, { input := "latin.json" }]

/-- One file that is not in UTF-8 costs the batch the other one. -/
theorem twoSources_lost :
    ¬ ∃ b, ((fromSources {} .separate twoSources).run twoFiles).1.1 = .ok b := by
  rintro ⟨b, hb⟩
  have hbreaks : Breaks twoFiles (ofText "latin.json") := by
    have hfile : ofText "latin.json" = .file "latin.json" := rfl
    rw [hfile]
    exact .notText rfl rfl rfl
  have hmem : { input := "latin.json" } ∈ enabled twoSources :=
    List.mem_cons_of_mem _ List.mem_cons_self
  obtain ⟨f, hf⟩ := run_of_breaks {} .separate ⟨_, hmem, hbreaks⟩
  rw [hf] at hb
  cases hb

end ApiTools.Generation
