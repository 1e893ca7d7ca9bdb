import ApiTools.Proofs.Generation.Merge
import Mathlib.Data.List.Induction
import Mathlib.Data.List.Nodup
import Mathlib.Data.List.Range
import Mathlib.Logic.Relation
import Mathlib.Order.Basic

set_option autoImplicit false

/-!
# Workers and the order of a batch

The documents of a batch are worked on by several workers at once, and nothing is known about the
order in which these finish. What a document gives is kept under the position of its source, and
the batch is put together by position once all workers are done. So nothing is lost, nothing comes
twice, and the order is that of the sources, whichever worker was the fastest. A name that comes up
more than once is told at the place where it comes up for the second time.
-/

namespace ApiTools.Generation

open Relation

/-! ## Workers -/

/-- A document with what it gives, and the position of its source. -/
abbrev Job := (BatchSource × Result) × Nat

/-- Where the documents of a batch stand. -/
structure Workers where
  /-- The documents that no worker has taken yet, in order. -/
  waiting : List Job
  running : List Job := []
  /-- The documents that are finished, the latest first. -/
  finished : List Job := []

namespace Workers

/-- Before the first worker begins all documents wait. -/
def start (results : List (BatchSource × Result)) : Workers := { waiting := results.zipIdx }

/-- A worker takes the next document, if not all of them are busy, or any busy worker finishes. -/
inductive Step (most : Nat) : Workers → Workers → Prop
  | take {j : Job} {waiting running finished : List Job} (h : running.length < most) :
      Step most ⟨j :: waiting, running, finished⟩ ⟨waiting, j :: running, finished⟩
  | finish {j : Job} {waiting before after finished : List Job} :
      Step most ⟨waiting, before ++ j :: after, finished⟩
        ⟨waiting, before ++ after, j :: finished⟩

/-- There is at least one worker, whatever number is asked for. -/
def Runs (maxWorkers : Nat) : Workers → Workers → Prop := ReflTransGen (Step (max 1 maxWorkers))

/-- Nothing waits, and no worker is busy. -/
def IsDone (w : Workers) : Prop := w.waiting = [] ∧ w.running = []

/-- What the document at a position gave, if it is finished. -/
def resultAt? (w : Workers) (i : Nat) : Option (BatchSource × Result) :=
  (w.finished.find? (·.2 == i)).map (·.1)

/-- What the first documents gave, in the order of their sources. -/
def inOrder (w : Workers) (count : Nat) : List (BatchSource × Result) :=
  (List.range count).filterMap w.resultAt?

/-! ### Every run comes to an end -/

/-- What is left to do: a document that waits has to be taken and finished. -/
def left (w : Workers) : Nat := 2 * w.waiting.length + w.running.length

theorem left_of_step {most : Nat} {w w' : Workers} (h : Step most w w') : w'.left < w.left := by
  cases h with
  | take h => simp only [left, List.length_cons]; omega
  | finish => simp only [left, List.length_append, List.length_cons]; omega

theorem exists_step {most : Nat} (hmost : 0 < most) {w : Workers} (h : ¬ w.IsDone) :
    ∃ w', Step most w w' := by
  obtain ⟨waiting, running, finished⟩ := w
  -- a busy worker can finish, and if none is busy, there is one for what waits
  cases running with
  | cons j running =>
      have hstep : Step most ⟨waiting, [] ++ j :: running, finished⟩
          ⟨waiting, [] ++ running, j :: finished⟩ := .finish
      exact ⟨_, hstep⟩
  | nil =>
      cases waiting with
      | nil => exact absurd ⟨rfl, rfl⟩ h
      | cons j waiting => exact ⟨_, .take hmost⟩

/-- Whatever was done so far, the workers get done. -/
theorem exists_done (maxWorkers : Nat) (w : Workers) : ∃ w', Runs maxWorkers w w' ∧ w'.IsDone := by
  -- by what is left to do, since every step leaves less
  induction hn : w.left using Nat.strong_induction_on generalizing w with
  | _ n ih =>
      by_cases hdone : w.IsDone
      · exact ⟨w, .refl, hdone⟩
      · have hmost : 0 < max 1 maxWorkers := by omega
        obtain ⟨w₁, hstep⟩ := exists_step hmost hdone
        obtain ⟨w₂, hrun, hdone₂⟩ := ih w₁.left (hn ▸ left_of_step hstep) w₁ rfl
        exact ⟨w₂, ReflTransGen.head hstep hrun, hdone₂⟩

/-! ### Nothing gets lost on the way -/

/-- All documents, wherever they stand. -/
def jobs (w : Workers) : List Job := w.waiting ++ w.running ++ w.finished

theorem perm_of_step {most : Nat} {w w' : Workers} (h : Step most w w') :
    w'.jobs.Perm w.jobs := by
  cases h with
  | take h =>
      simp only [jobs, List.append_assoc, List.cons_append]
      exact List.perm_middle
  | @finish j waiting before after finished =>
      simp only [jobs, List.append_assoc, List.cons_append]
      refine List.Perm.append_left waiting (List.Perm.append_left before ?_)
      exact List.perm_middle

theorem perm_of_runs {maxWorkers : Nat} {w w' : Workers} (h : Runs maxWorkers w w') :
    w'.jobs.Perm w.jobs := by
  induction h with
  | refl => exact List.Perm.refl _
  | tail _ hstep ih => exact (perm_of_step hstep).trans ih

/-- When the workers are done, all documents are finished. -/
theorem perm_finished {maxWorkers : Nat} {results : List (BatchSource × Result)} {w : Workers}
    (hrun : Runs maxWorkers (start results) w) (hdone : w.IsDone) :
    w.finished.Perm results.zipIdx := by
  have hperm := perm_of_runs hrun
  obtain ⟨hwaiting, hrunning⟩ := hdone
  simpa only [jobs, start, hwaiting, hrunning, List.nil_append, List.append_nil] using hperm

theorem find?_position {js : List Job} (h : (js.map (·.2)).Nodup) {j : Job} (hj : j ∈ js) :
    js.find? (·.2 == j.2) = some j := by
  obtain ⟨k, hk⟩ : ∃ k, js.find? (·.2 == j.2) = some k := by
    rw [← Option.isSome_iff_exists, List.find?_isSome]
    exact ⟨j, hj, beq_self_eq_true _⟩
  have hposition : k.2 = j.2 := by
    have hfound := List.find?_some hk
    simpa using hfound
  rw [hk, List.inj_on_of_nodup_map h (List.mem_of_find?_eq_some hk) hj hposition]

theorem filterMap_range_getElem? {α : Type} (xs : List α) :
    (List.range xs.length).filterMap (xs[·]?) = xs := by
  induction xs using List.reverseRecOn with
  | nil => rfl
  | append_singleton xs x ih =>
      rw [List.length_append, List.length_singleton, List.range_succ, List.filterMap_append]
      have hfront : (List.range xs.length).filterMap ((xs ++ [x])[·]?)
          = (List.range xs.length).filterMap (xs[·]?) := by
        refine List.filterMap_congr fun i hi => ?_
        exact List.getElem?_append_left (List.mem_range.1 hi)
      rw [hfront, ih]
      simp

/-- **When the workers are done, the results are in the order of the sources**, in whatever order
they were finished. -/
theorem inOrder_eq {maxWorkers : Nat} {results : List (BatchSource × Result)} {w : Workers}
    (hrun : Runs maxWorkers (start results) w) (hdone : w.IsDone) :
    w.inOrder results.length = results := by
  have hperm := perm_finished hrun hdone
  have hnodup : (w.finished.map (·.2)).Nodup := by
    rw [(hperm.map (·.2)).nodup_iff, List.zipIdx_map_snd]
    exact List.nodup_range'
  have hresult : ∀ i ∈ List.range results.length, w.resultAt? i = results[i]? := by
    intro i hi
    have hi := List.mem_range.1 hi
    have hmem : (results[i], i) ∈ w.finished :=
      hperm.mem_iff.2 (List.mem_zipIdx_iff_getElem?.2 (List.getElem?_eq_getElem hi))
    unfold resultAt?
    rw [find?_position hnodup hmem, List.getElem?_eq_getElem hi]
    rfl
  unfold inOrder
  rw [List.filterMap_congr hresult, filterMap_range_getElem?]

end Workers

/-! ## Names that come up for the second time -/

/-- The names that come up for the second time, in the order of the places where they do. -/
def secondNames (names : List String) : List String :=
  (List.range names.length).filterMap fun i =>
    names[i]?.filter fun n => (names.take i).count n == 1

theorem secondNames_append_singleton (ns : List String) (n : String) :
    secondNames (ns ++ [n]) = secondNames ns ++ if ns.count n = 1 then [n] else [] := by
  unfold secondNames
  rw [List.length_append, List.length_singleton, List.range_succ, List.filterMap_append]
  -- at the places before the new one nothing has changed
  have hfront : ∀ i ∈ List.range ns.length,
      ((ns ++ [n])[i]?.filter fun m => ((ns ++ [n]).take i).count m == 1)
        = ns[i]?.filter fun m => (ns.take i).count m == 1 := by
    intro i hi
    have hi := List.mem_range.1 hi
    rw [List.getElem?_append_left hi, List.take_append_of_le_length (Nat.le_of_lt hi)]
  have hback : ((ns ++ [n])[ns.length]?.filter
        fun m => ((ns ++ [n]).take ns.length).count m == 1)
      = if ns.count n = 1 then some n else none := by
    simp [Option.filter_some]
  rw [List.filterMap_congr hfront, List.filterMap_cons, hback, List.filterMap_nil]
  by_cases hone : ns.count n = 1
  · rw [if_pos hone, if_pos hone]
  · rw [if_neg hone, if_neg hone]

theorem repeats_append_singleton (seen : List String) (ts : List Tool) (t : Tool) :
    repeats seen (ts ++ [t]) = repeats seen ts
      ++ if t.name ∈ seen ∨ t.name ∈ ts.map Tool.name then [t.name] else [] := by
  induction ts generalizing seen with
  | nil => simp [repeats]
  | cons u ts ih =>
      rw [List.cons_append, repeats, ih, repeats, List.append_assoc]
      congr 2
      refine if_congr ?_ rfl rfl
      rw [List.mem_cons, List.map_cons, List.mem_cons]
      tauto

/-- The names that are told are those that come up for the second time. -/
theorem distinct_repeats (ts : List Tool) :
    Named.distinct (repeats [] ts) = secondNames (ts.map Tool.name) := by
  induction ts using List.reverseRecOn with
  | nil => rfl
  | append_singleton ts t ih =>
      have hbefore : t.name ∈ repeats [] ts ↔ 2 ≤ (ts.map Tool.name).count t.name := by
        rw [mem_repeats_iff, List.duplicate_iff_two_le_count]
        simp
      rw [List.map_append, List.map_singleton, secondNames_append_singleton, ← ih,
        repeats_append_singleton]
      by_cases hnone : (ts.map Tool.name).count t.name = 0
      · -- the name is new, so it is not told
        have hnew : ¬ (t.name ∈ ([] : List String) ∨ t.name ∈ ts.map Tool.name) := by
          simpa using List.count_eq_zero.1 hnone
        rw [if_neg hnew, if_neg (by omega), List.append_nil, List.append_nil]
      · have hthere : t.name ∈ ts.map Tool.name := List.count_pos_iff.1 (by omega)
        rw [if_pos (.inr hthere), Named.distinct_append_singleton]
        by_cases hone : (ts.map Tool.name).count t.name = 1
        · rw [if_neg (by rw [hbefore]; omega), if_pos hone]
        · rw [if_pos (by rw [hbefore]; omega), if_neg hone]

theorem duplicates_eq (strategy : MergeStrategy) (results : List (BatchSource × Result)) :
    (merge strategy results).1.duplicates
      = secondNames ((merge strategy results).1.tools.map Tool.name) :=
  distinct_repeats (allTools strategy results)

/-! ## Batches -/

/-- **Merging loses, doubles and reorders nothing.** However the workers take turns they get done,
and then the results and the failures of the batch are those of its sources that count, in their
order. Its tools are those of the results, one document after the other, and only their names are
changed, if the documents are kept apart. Its duplicates are the names that at least two tools
have, each of them once, in the order in which they come up for the second time. -/
theorem merge_keeps_order {sources : List BatchSource} {results : List (BatchSource × Result)}
    (hsources : results.map (·.1) = enabled sources) (maxWorkers : Nat)
    (strategy : MergeStrategy) :
    (∀ w, Workers.Runs maxWorkers (.start results) w →
      ∃ w', Workers.Runs maxWorkers w w' ∧ w'.IsDone) ∧
    ∀ w, Workers.Runs maxWorkers (.start results) w → w.IsDone →
      ∃ b, (merge strategy (w.inOrder (enabled sources).length)).1 = b ∧
        b.results = results.filterMap (fun x => x.2.toOption) ∧
        b.failures = results.filterMap (fun x => failed? x.2) ∧
        (documentsIn results).map (·.2) = b.results ∧
        b.tools = (documentsIn results).flatMap (fun d =>
          match strategy with
          | .separate => d.2.tools.map fun t => { t with name := spaceOf d ++ "__" ++ t.name }
          | .combine => d.2.tools) ∧
        b.duplicates = secondNames (b.tools.map Tool.name) ∧ b.duplicates.Nodup ∧
        ∀ n, n ∈ b.duplicates ↔ 2 ≤ (b.tools.map Tool.name).count n := by
  refine ⟨fun w _ => Workers.exists_done maxWorkers w, fun w hrun hdone => ⟨_, rfl, ?_⟩⟩
  have hcount : (enabled sources).length = results.length := by
    rw [← hsources, List.length_map]
  rw [hcount, Workers.inOrder_eq hrun hdone]
  refine ⟨rfl, ?_, outcomes_documentsIn strategy, ?_, duplicates_eq strategy results,
    Named.nodup_distinct _, fun n => ?_⟩
  · show results.filterMap _ = _
    refine List.filterMap_congr fun x _ => ?_
    obtain ⟨s, r⟩ := x
    cases r <;> rfl
  · show allTools strategy results = _
    rw [allTools_eq]
    cases strategy <;> rfl
  · rw [mem_duplicates_iff, List.duplicate_iff_two_le_count]

/-! ### A slow document -/

/-- A tool of which only the name matters. -/
def namedTool (name : String) : Tool :=
  { name := name, description := "", method := "GET", path := "/" }

/-- What a document with some tools gives. -/
def toolsOutcome (names : List String) : Outcome :=
  { info := ⟨"Pets", "1", none⟩, tools := names.map namedTool }

/-- A batch of three files, the second of which does not count. -/
def threeFiles : List BatchSource :=
  [{ input := "cats.json" }, { input := "old.json", enabled := false }, { input := "dogs.json" }]

/-- What its first and its last file give. -/
def twoResults : List (BatchSource × Result) :=
  [({ input := "cats.json" }, .ok (toolsOutcome ["feed", "find", "find"])),
   ({ input := "dogs.json" }, .ok (toolsOutcome ["walk", "feed", "find"]))]

/-- The workers when the first file was finished behind the last one. -/
def catsWereSlow : Workers := { waiting := [], finished := twoResults.zipIdx }

/-- The tools are in the order of the files all the same, and a name that comes up three times is
told once, before one that comes up again later. -/
theorem catsWereSlow_merge : ∃ b, Workers.Runs 2 (.start twoResults) catsWereSlow ∧
    (merge .combine (catsWereSlow.inOrder (enabled threeFiles).length)).1 = b ∧
      b.tools.map Tool.name = ["feed", "find", "find", "walk", "feed", "find"] ∧
      b.duplicates = ["find", "feed"] := by
  have hrun : Workers.Runs 2 (.start twoResults) catsWereSlow := by
    obtain ⟨cats, dogs, hjobs⟩ : ∃ cats dogs, twoResults.zipIdx = [cats, dogs] := ⟨_, _, rfl⟩
    unfold catsWereSlow Workers.start
    rw [hjobs]
    -- both files are taken, then the last one is finished, which is the one taken last
    refine ReflTransGen.head (.take Nat.zero_lt_two)
      (ReflTransGen.head (.take Nat.one_lt_two) ?_)
    have hdogs : Workers.Step (max 1 2) ⟨[], [] ++ dogs :: [cats], []⟩
      ⟨[], [] ++ [cats], [dogs]⟩ := .finish
    have hcats : Workers.Step (max 1 2) ⟨[], [] ++ cats :: [], [dogs]⟩
      ⟨[], [] ++ [], [cats, dogs]⟩ := .finish
    exact ReflTransGen.head hdogs (.single hcats)
  have hsources : twoResults.map (·.1) = enabled threeFiles := rfl
  obtain ⟨-, hmerge⟩ := merge_keeps_order hsources 2 .combine
  obtain ⟨b, hb, hresults, -, hdocuments, htools, hduplicates, -⟩ :=
    hmerge catsWereSlow hrun ⟨rfl, rfl⟩
  have hnames : b.tools.map Tool.name = ["feed", "find", "find", "walk", "feed", "find"] := by
    rw [htools]
    rfl
  refine ⟨b, hrun, hb, hnames, ?_⟩
  rw [hduplicates, hnames]
  decide

end ApiTools.Generation
