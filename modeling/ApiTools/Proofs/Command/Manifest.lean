import ApiTools.Proofs.Command.Ends
import ApiTools.Proofs.Configuration.Layers
import ApiTools.Proofs.Generation.Document
import ApiTools.Proofs.Value.Serial

set_option autoImplicit false

/-!
# Printing the manifest

The manifest for a source depends on the configuration that counts in the world and on what is
loaded. A command that asks for it prints it, or stops with a code that tells the failure, without
printing anything. There is a manifest if each tool in it could be printed by itself.
-/

namespace ApiTools

/-! ## What can be printed -/

/-- A tool that can be serialised and of which a text can be made. -/
structure Tool.IsPrintable (t : Tool) : Prop where
  levels_le : t.levels ≤ Value.mostLevels
  flaw? : t.toValue.flaw? = none
  holdsLong : t.toValue.holdsLong = false

theorem Tool.toDict_eq_ok_iff {t : Tool} {limit : Nat} {d : Value} :
    t.toDict limit = .ok d ↔ t.levels ≤ limit ∧ t.toValue.flaw? = none ∧ t.toValue = d :=
  Value.serialised_eq_ok_iff

theorem Tool.IsPrintable.toDict {t : Tool} (h : t.IsPrintable) :
    (t.toDict Value.mostLevels).bind Value.writable = .ok t.toValue := by
  rw [Tool.toDict_eq_ok_iff.2 ⟨h.levels_le, h.flaw?, rfl⟩]
  exact Value.writable_eq_ok_iff.2 ⟨h.holdsLong, rfl⟩

theorem exists_mapM_eq_ok_iff {α β ε : Type} (f : α → Except ε β) (xs : List α) :
    (∃ ys, xs.mapM f = .ok ys) ↔ ∀ x ∈ xs, ∃ y, f x = .ok y := by
  induction xs with
  | nil => exact iff_of_true ⟨[], rfl⟩ nofun
  | cons x xs ih =>
      rw [List.forall_mem_cons, ← ih, List.mapM_cons]
      cases f x with
      | error e => exact iff_of_false (fun h => nomatch h.choose_spec) fun h => nomatch h.1.choose_spec
      | ok y =>
          cases xs.mapM f with
          | error e =>
              exact iff_of_false (fun h => nomatch h.choose_spec) fun h => nomatch h.2.choose_spec
          | ok ys => exact iff_of_true ⟨y :: ys, rfl⟩ ⟨⟨y, rfl⟩, ys, rfl⟩

/-- There is a manifest if each of the tools can be printed. -/
theorem Rendering.Context.toDict_eq_ok_iff {c : Context} {m : Value} :
    c.toDict = .ok m ↔ (∀ t ∈ c.tools, t.IsPrintable) ∧ c.manifest = m := by
  have hserver : c.server.holdsLong = false := rfl
  have hlong : c.manifest.holdsLong = false ↔ ∀ t ∈ c.tools, t.toValue.holdsLong = false := by
    unfold manifest
    rw [Value.holdsLong_object, List.any_cons, List.any_cons, hserver, Value.holdsLong_list]
    simp
  have hdicts : (∃ ds, c.tools.mapM (Tool.toDict Value.mostLevels) = .ok ds) ↔
      ∀ t ∈ c.tools, t.levels ≤ Value.mostLevels ∧ t.toValue.flaw? = none := by
    rw [exists_mapM_eq_ok_iff]
    simp only [Tool.toDict_eq_ok_iff, exists_and_left, exists_eq', and_true]
  have hprintable : (∀ t ∈ c.tools, t.IsPrintable) ↔
      (∃ ds, c.tools.mapM (Tool.toDict Value.mostLevels) = .ok ds) ∧
        c.manifest.holdsLong = false := by
    rw [hdicts, hlong, ← forall₂_and]
    exact forall₂_congr fun t _ =>
      ⟨fun h => ⟨⟨h.levels_le, h.flaw?⟩, h.holdsLong⟩, fun h => ⟨h.1.1, h.1.2, h.2⟩⟩
  rw [hprintable]
  unfold toDict
  cases c.tools.mapM (Tool.toDict Value.mostLevels) with
  | error f => exact iff_of_false nofun fun h => nomatch h.1.1.choose_spec
  | ok ds =>
      have hds : ∃ ds', (Except.ok ds : Except Value.Flaw (List Value)) = .ok ds' := ⟨ds, rfl⟩
      rw [and_iff_right hds]
      exact Value.writable_eq_ok_iff

namespace Command

open Generation (ofDocument ofLoaded Options Outcome)
open Rendering (Context)

variable {w : World} {source : String}

/-! ## Generating -/

/-- What the tools of a source come to in a world. -/
def outcomeIn (w : World) (source : String) (options : Options) :
    Except Generation.Obstacle Outcome := (ofLoaded options source ((Source.load source).run w).1).1

theorem outcomeIn_eq_ok_iff {options : Options} {o : Outcome} :
    outcomeIn w source options = .ok o ↔ ∃ doc, ((Source.load source).run w).1.1 = .ok doc ∧
      (ofDocument options (some source) doc).1 = .ok o := by
  unfold outcomeIn ofLoaded
  generalize ((Source.load source).run w).1 = loaded
  obtain ⟨r, notes⟩ := loaded
  cases r with
  | error f => simp
  | ok doc =>
      dsimp only
      cases hdoc : (ofDocument options (some source) doc).1 with
      | error f => simp [Except.mapError, hdoc]
      | ok p => simp [Except.mapError, hdoc]

theorem outcomeIn_of_hears {w' : World} (h : World.Hears w w') (source : String)
    (options : Options) : outcomeIn w' source options = outcomeIn w source options := by
  unfold outcomeIn
  rw [Source.load_of_hears h]

theorem run_fromSource (options : Options) (source : String) (w : World) :
    (Generation.fromSource options source).run w
      = (ofLoaded options source ((Source.load source).run w).1,
          ((Source.load source).run w).2) := by
  unfold Generation.fromSource
  rw [Action.run_seq]
  rfl

theorem gives_toolsFor (k : Console) (w : World) (source : String) (c : Configuration) :
    Gives (toolsFor k source c) w
      ((outcomeIn w source (optionsOf c)).mapError .ofObstacle) "" := by
  unfold toolsFor
  refine (gives_tell k _ w).bind_silent ?_
  -- what is loaded does not depend on what was said before
  have hheard := hears_tell k (.debug ("Loading " ++ source)) w
  generalize ((Run.tell k (.debug ("Loading " ++ source))).run.run w).2 = w' at hheard
  have hload := gives_orStopNoted k (x := Generation.fromSource (optionsOf c) source)
    Stop.ofObstacle (w := w') (by rw [run_fromSource]; exact Source.written_load source w')
  rw [run_fromSource] at hload
  change Gives _ w' ((outcomeIn w' source (optionsOf c)).mapError .ofObstacle) "" at hload
  rw [outcomeIn_of_hears hheard] at hload
  cases hr : outcomeIn w source (optionsOf c) with
  | error obstacle =>
      rw [hr] at hload
      exact hload.bind_error _
  | ok o =>
      rw [hr] at hload
      exact hload.bind_silent ((gives_tellAll k _ _).bind_silent (gives_pure o _))

/-- What a server shows of itself that is generated under a configuration. -/
def contextOf (c : Configuration) (o : Outcome) : Context :=
  .ofPackage (.ofOutcome o) c.serverName

theorem tools_contextOf (c : Configuration) (o : Outcome) : (contextOf c o).tools = o.tools := rfl

/-- The manifest for a source in a world, or why there is none. -/
def manifestIn (w : World) (source : String) : Except Stop Value :=
  match ((Configuration.resolve []).run w).1 with
  | .error f => .error (.ofConfiguration f)
  | .ok c =>
    match outcomeIn w source (optionsOf c) with
    | .error obstacle => .error (.ofObstacle obstacle)
    | .ok o =>
      (contextOf c o).toDict.mapError .ofFlaw

theorem manifestIn_eq_ok_iff {m : Value} : manifestIn w source = .ok m ↔
    ∃ c o, ((Configuration.resolve []).run w).1 = .ok c ∧
      outcomeIn w source (optionsOf c) = .ok o ∧ (∀ t ∈ o.tools, t.IsPrintable) ∧
      (contextOf c o).manifest = m := by
  have hdict : ∀ c o, (contextOf c o).toDict.mapError Stop.ofFlaw = .ok m ↔
      (∀ t ∈ o.tools, t.IsPrintable) ∧ (contextOf c o).manifest = m := by
    intro c o
    rw [← tools_contextOf c o, ← Context.toDict_eq_ok_iff]
    cases (contextOf c o).toDict <;> simp [Except.mapError]
  unfold manifestIn
  cases ((Configuration.resolve []).run w).1 with
  | error f => simp
  | ok c =>
      dsimp only
      cases ho : outcomeIn w source (optionsOf c) with
      | error obstacle => simp [ho]
      | ok o => simp [ho, hdict]

/-- Asks for the manifest for a source. -/
def manifestRequest (source : String) : GenerateRequest :=
  { source := source, settings := { toOutput := true } }

/-- A command that asks for the manifest prints it, or stops without printing anything. -/
theorem gives_generate (e : Equipment) (k : Console) (w : World) (source : String) :
    match manifestIn w source with
    | .ok m => Gives (generate e k (manifestRequest source)) w (.ok ()) (k.jsonText e.drawing m)
    | .error s => Gives (generate e k (manifestRequest source)) w (.error s) "" := by
  have hresolve := run_orStop (Configuration.resolve []) Stop.ofConfiguration w
  rw [Configuration.resolve_world] at hresolve
  unfold manifestIn generate
  cases hc : ((Configuration.resolve []).run w).1 with
  | error f =>
      rw [hc] at hresolve
      exact Gives.bind_error ⟨congrArg Prod.fst hresolve, by rw [hresolve, String.append_empty]⟩ _
  | ok c =>
      rw [hc] at hresolve
      have htools := gives_toolsFor k w source c
      dsimp only
      cases ho : outcomeIn w source (optionsOf c) with
      | error obstacle =>
          rw [ho] at htools
          exact Gives.bind_here hresolve (htools.bind_error _)
      | ok o =>
          rw [ho] at htools
          dsimp only
          cases hdict : (contextOf c o).toDict with
          | error f =>
              exact Gives.bind_here hresolve (htools.bind_silent (gives_print_error hdict e k _))
          | ok m => exact Gives.bind_here hresolve (htools.bind_silent (gives_print hdict e k _))

theorem code_ofObstacle (obstacle : Generation.Obstacle) :
    (Stop.ofObstacle obstacle).code ≠ successCode := by
  have hfailure : failureCode ≠ successCode := by decide
  have hdocument : documentCode ≠ successCode := by decide
  have hinvalid : invalidCode ≠ successCode := by decide
  cases obstacle with
  | load f =>
      show (Stop.ofSource f).code ≠ successCode
      unfold Stop.ofSource
      split
      · exact hdocument
      · exact hfailure
  | generate f =>
      cases f with
      | invalid subject report => exact hinvalid
      | noPaths => exact hdocument
      | unexpected cause => exact hfailure

theorem code_of_manifestIn {s : Stop} (h : manifestIn w source = .error s) :
    s.code ≠ successCode := by
  have hfailure : failureCode ≠ successCode := by decide
  unfold manifestIn at h
  split at h
  · cases h
    exact hfailure
  · split at h
    · cases h
      exact code_ofObstacle _
    · next o ho =>
      cases hdict : (contextOf _ o).toDict with
      | error f =>
          rw [hdict] at h
          cases h
          exact hfailure
      | ok m =>
          rw [hdict] at h
          cases h

end Command

end ApiTools
