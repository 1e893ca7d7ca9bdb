import ApiTools.Configuration.Layers
import ApiTools.Proofs.Action
import ApiTools.Proofs.Named
import ApiTools.Proofs.Value.Members

set_option autoImplicit false

/-!
# What the layers set

A layer hides what it sets and nothing else: a member of several layers is what the highest one of
them says that says something about it. The environment sets an address, a name and a number only.
So whether a configuration without arguments asks for better wording or for merging is for the file
of the project alone to say. Resolving a configuration changes nothing in a world.
-/

namespace ApiTools.Configuration

open Record

/-! ## Layers -/

/-- What a layer says about a member: the last value that it sets. -/
def Layer.says? (l : Layer) (key : String) : Option Value := Named.get? l.reverse key

theorem member?_above (upper : Layer) (lower : Members) (key : String) :
    Value.member? (upper.above lower) key = (upper.says? key).or (Value.member? lower key) := by
  induction upper generalizing lower with
  | nil => rfl
  | cons e upper ih =>
      show Value.member? (Layer.above upper (Value.insertMember lower (.str e.1) e.2)) key = _
      have hsays : Layer.says? (e :: upper) key
          = (Layer.says? upper key).or (if e.1 = key then some e.2 else none) := by
        unfold Layer.says?
        rw [List.reverse_cons, Named.get?_append, Named.get?_cons]
        rfl
      rw [ih, Value.member?_insertMember, hsays, Option.or_assoc]
      split <;> rfl

theorem says?_append (l more : Layer) (key : String) :
    Layer.says? (l ++ more) key = (more.says? key).or (l.says? key) := by
  unfold Layer.says?
  rw [List.reverse_append, Named.get?_append]

theorem says?_member (name key : String) (v : Option Value) :
    Layer.says? (member name v) key = if name = key then v else none := by
  unfold Layer.says? member
  cases v with
  | none => split <;> rfl
  | some v => exact Named.get?_cons (name, v) [] key

theorem says?_of_not_mem {l : Layer} {key : String} (h : key ∉ l.map (·.1)) :
    l.says? key = none := by
  unfold Layer.says?
  rw [Named.get?_eq_none_iff]
  unfold Named.names
  rwa [List.map_reverse, List.mem_reverse]

theorem member?_above_of_not_mem {upper : Layer} {key : String} (h : key ∉ upper.map (·.1))
    (lower : Members) : Value.member? (upper.above lower) key = Value.member? lower key := by
  rw [member?_above, says?_of_not_mem h, Option.none_or]

theorem find?_above_of_not_mem {upper : Layer} {key : String} (h : key ∉ upper.map (·.1))
    (lower : Members) : find? (upper.above lower) key key = find? lower key key := by
  unfold find?
  rw [member?_above_of_not_mem h]

/-! ## The environment -/

theorem keys_member (key : String) (v : Option Value) : (member key v).map (·.1) ⊆ [key] := by
  cases v <;> simp [member]

/-- The environment sets no other members than these. -/
theorem Environment.keys_layer {e : Environment} {layer : Layer} (h : e.layer = .ok layer) :
    layer.map (·.1) ⊆ ["base_url", "server_name", "max_workers"] := by
  have hbase := keys_member "base_url" (e.baseUrl.map .str)
  have hname := keys_member "server_name" (e.serverName.map .str)
  unfold Environment.layer at h
  dsimp only at h
  intro key hkey
  split at h
  · cases h
    rw [List.map_append, List.mem_append] at hkey
    rcases hkey with hkey | hkey
    · simp [List.mem_singleton.1 (hbase hkey)]
    · simp [List.mem_singleton.1 (hname hkey)]
  · split at h
    · cases h
      rw [List.map_append, List.map_append, List.mem_append, List.mem_append] at hkey
      rcases hkey with (hkey | hkey) | hkey
      · simp [List.mem_singleton.1 (hbase hkey)]
      · simp [List.mem_singleton.1 (hname hkey)]
      · simp [List.mem_singleton.1 hkey]
    · cases h

/-! ## What a configuration takes -/

/-- A value is taken from what is said: it is what is read there, or else the substitute. -/
def IsTaken {α : Type} (read : Value → Option α) (substitute : α) (said : Option Value) (x : α) :
    Prop :=
  match said with
  | none => x = substitute
  | some v => read v = some x

/-- A configuration takes all of its values from what is said about the members. -/
structure TakesFrom (say : String → Option Value) (c : Configuration) : Prop where
  serverName : IsTaken (orNull Value.readText?) none (say "server_name") c.serverName
  baseUrl : IsTaken (orNull Value.readText?) none (say "base_url") c.baseUrl
  enhance : IsTaken Value.readBool? false (say "enhance_descriptions") c.enhance
  templateDirectory :
    IsTaken (orNull Value.readText?) none (say "template_dir") c.templateDirectory
  mergePathParameters :
    IsTaken Value.readBool? false (say "merge_path_parameters") c.mergePathParameters
  strict : IsTaken Value.readBool? false (say "strict") c.strict
  maxWorkers : IsTaken readWorkers? 4 (say "max_workers") c.maxWorkers
  mergeStrategy : IsTaken MergeStrategy.read? .separate (say "merge_strategy") c.mergeStrategy

theorem orElse?_eq_some_iff {α : Type} {ms : Members} {key : String} {substitute : α}
    {read : Value → Option α} {x : α} :
    orElse? ms key key substitute read = some x ↔
      IsTaken read substitute (Value.member? ms key) x := by
  unfold orElse? find? IsTaken
  cases Value.member? ms key with
  | none => exact Option.some_inj.trans eq_comm
  | some v => exact Iff.rfl

theorem optional?_eq_some_iff {α : Type} {ms : Members} {key : String} {read : Value → Option α}
    {x : Option α} :
    optional? ms key key read = some x ↔
      IsTaken (orNull read) none (Value.member? ms key) x := by
  unfold optional? find? IsTaken
  cases Value.member? ms key with
  | none => exact Option.some_inj.trans eq_comm
  | some v => cases v <;> exact Iff.rfl

theorem read?_eq_some_iff {ms : Members} {c : Configuration} :
    read? ms = some c ↔ TakesFrom (Value.member? ms) c := by
  unfold read?
  simp only [Option.bind_eq_bind, Option.bind_eq_some_iff, Option.pure_def, Option.some.injEq,
    orElse?_eq_some_iff, optional?_eq_some_iff]
  constructor
  · rintro ⟨_, h₁, _, h₂, _, h₃, _, h₄, _, h₅, _, h₆, _, h₇, _, h₈, rfl⟩
    exact ⟨h₁, h₂, h₃, h₄, h₅, h₆, h₇, h₈⟩
  · rintro ⟨h₁, h₂, h₃, h₄, h₅, h₆, h₇, h₈⟩
    exact ⟨_, h₁, _, h₂, _, h₃, _, h₄, _, h₅, _, h₆, _, h₇, _, h₈, rfl⟩

theorem of_read? {ms : Members} {c : Configuration} (h : read? ms = some c) :
    orElse? ms "enhance_descriptions" "enhance_descriptions" false Value.readBool?
        = some c.enhance ∧
      orElse? ms "merge_path_parameters" "merge_path_parameters" false Value.readBool?
        = some c.mergePathParameters := by
  have htakes := read?_eq_some_iff.1 h
  exact ⟨orElse?_eq_some_iff.2 htakes.enhance, orElse?_eq_some_iff.2 htakes.mergePathParameters⟩

/-! ## The configuration -/

theorem ofLayers_eq_ok {ofProject : Option Members} {e : Environment} {c : Configuration}
    (h : ofLayers ofProject e [] = .ok c) :
    ∃ layer, e.layer = .ok layer ∧ read? (layer.above (ofProject.getD [])) = some c := by
  unfold ofLayers at h
  cases hlayer : e.layer with
  | error f =>
      rw [hlayer] at h
      cases h
  | ok layer =>
      refine ⟨layer, rfl, ?_⟩
      rw [hlayer] at h
      dsimp only [bind, Except.bind] at h
      split at h
      · next hread => exact hread.trans (congrArg some (Except.ok.inj h))
      · cases h

/-- The file of the project says whether to ask for better wording and whether to merge. -/
theorem of_ofLayers {ofProject : Option Members} {e : Environment} {c : Configuration}
    (h : ofLayers ofProject e [] = .ok c) :
    orElse? (ofProject.getD []) "enhance_descriptions" "enhance_descriptions" false
        Value.readBool? = some c.enhance ∧
      orElse? (ofProject.getD []) "merge_path_parameters" "merge_path_parameters" false
        Value.readBool? = some c.mergePathParameters := by
  obtain ⟨layer, hlayer, hread⟩ := ofLayers_eq_ok h
  -- neither of the two members is among those that the environment may set
  have hkeys := e.keys_layer hlayer
  obtain ⟨henhance, hmerge⟩ := of_read? hread
  unfold orElse? at henhance hmerge ⊢
  rw [find?_above_of_not_mem fun hmem => absurd (hkeys hmem) (by decide)] at henhance hmerge
  exact ⟨henhance, hmerge⟩

/-! ## In a world -/

theorem project_world (w : World) : (project.run w).2 = w := by
  unfold project
  rw [Action.run_seq]
  show (Action.run (Action.sight _ >>= _) w).2 = w
  rw [Action.run_seq, Action.run_sight]
  dsimp only
  split
  · rw [Action.run_seq, Action.run_content]
    dsimp only
    split <;> rfl
  · rfl
  · rfl

theorem resolve_world (arguments : Layer) (w : World) : ((resolve arguments).run w).2 = w := by
  unfold resolve
  rw [Action.run_seq, project_world]
  split <;> rfl

/-- Without a file of the project, a configuration asks for nothing but an address, a name and a
number of workers. -/
theorem plain_of_resolve {w : World} {c : Configuration} (hproject : (project.run w).1 = .ok none)
    (h : ((resolve []).run w).1 = .ok c) : c.enhance = false ∧ c.mergePathParameters = false := by
  unfold resolve at h
  rw [Action.run_seq, hproject] at h
  dsimp only at h
  rw [Action.run_seq] at h
  obtain ⟨henhance, hmerge⟩ := of_ofLayers h
  exact ⟨(Option.some.inj henhance).symm, (Option.some.inj hmerge).symm⟩

end ApiTools.Configuration
