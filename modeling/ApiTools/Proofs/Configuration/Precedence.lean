import ApiTools.Proofs.Configuration.Layers

set_option autoImplicit false

/-!
# Which layer counts

Every member of a configuration is taken from the highest layer that says something about it: the
arguments of a command, the environment, the file of the project, and the defaults. What the lower
layers say about a member that an argument sets does no harm, whatever it is, since a value has to
make sense only if it counts. There is one exception: a number of workers in the environment has
to be an integer in any case.
-/

namespace ApiTools

/-- The value of an environment variable, unless it is empty. -/
def World.filled? (w : World) (name : String) : Option String :=
  ((w.environment.find? (·.1 == name)).map (·.2)).filter (!·.isEmpty)

namespace Configuration

/-! ## What the layers say -/

/-- What the environment says about a member. A number of workers says nothing if it is no
integer. -/
def environmentSays? (w : World) (key : String) : Option Value :=
  if key = "base_url" then (w.filled? baseUrlVariable).map .str
  else if key = "server_name" then (w.filled? serverNameVariable).map .str
  else if key = "max_workers" then
    ((w.filled? workersVariable).bind Text.typedInteger?).map .int
  else none

/-- What the layers below the arguments say about a member. -/
def below? (w : World) (ofProject : Option Members) (key : String) : Option Value :=
  (environmentSays? w key).or (Value.member? (ofProject.getD []) key)

/-- What the highest layer says that says something about a member. -/
def highest? (arguments : Layer) (w : World) (ofProject : Option Members) (key : String) :
    Option Value :=
  (arguments.says? key).or (below? w ofProject key)

/-- Whether the number of workers in the environment, if there is one, is an integer. -/
def HasReadableWorkers (w : World) : Prop :=
  ∀ text, w.filled? workersVariable = some text → (Text.typedInteger? text).isSome = true

/-! ## All layers -/

/-- The settings that are there in a world. -/
theorem environment_fst (w : World) : (environment.run w).1 =
    { baseUrl := w.filled? baseUrlVariable
      serverName := w.filled? serverNameVariable
      maxWorkers := w.filled? workersVariable } := rfl

theorem resolve_fst (arguments : Layer) {w : World} {ofProject : Option Members}
    (hproject : (project.run w).1 = .ok ofProject) :
    ((resolve arguments).run w).1 = ofLayers ofProject (environment.run w).1 arguments := by
  unfold resolve
  rw [Action.run_seq, project_world, hproject]
  dsimp only
  rw [Action.run_seq]
  rfl

/-- What the environment says, as a layer. -/
def environmentLayer (w : World) : Layer :=
  member "base_url" (environmentSays? w "base_url")
    ++ member "server_name" (environmentSays? w "server_name")
    ++ member "max_workers" (environmentSays? w "max_workers")

theorem layer_environment {w : World} (h : HasReadableWorkers w) :
    (environment.run w).1.layer = .ok (environmentLayer w) := by
  rw [environment_fst]
  unfold Environment.layer environmentLayer environmentSays?
  cases hworkers : w.filled? workersVariable with
  | none => exact congrArg Except.ok (List.append_nil _).symm
  | some text =>
      obtain ⟨n, hn⟩ := Option.isSome_iff_exists.1 (h text hworkers)
      dsimp only
      rw [hn, Option.bind_some, hn]
      rfl

theorem says?_environmentLayer (w : World) (key : String) :
    (environmentLayer w).says? key = environmentSays? w key := by
  unfold environmentLayer
  rw [says?_append, says?_append, says?_member, says?_member, says?_member]
  by_cases hbase : "base_url" = key
  · subst hbase
    rfl
  · by_cases hname : "server_name" = key
    · subst hname
      exact Option.or_none
    · by_cases hworkers : "max_workers" = key
      · subst hworkers
        exact Option.or_none
      · rw [if_neg hbase, if_neg hname, if_neg hworkers]
        unfold environmentSays?
        rw [if_neg (Ne.symm hbase), if_neg (Ne.symm hname), if_neg (Ne.symm hworkers)]
        rfl

/-- What all layers together hold is what the highest one says. -/
theorem member?_layers (arguments : Layer) (w : World) (ofProject : Option Members) :
    Value.member? (arguments.above ((environmentLayer w).above (ofProject.getD [])))
      = highest? arguments w ofProject := by
  funext key
  unfold highest? below?
  rw [member?_above, member?_above, says?_environmentLayer]

/-- If the number of workers in the environment is an integer, the configuration is the one that
takes its values from the highest layers. -/
theorem resolve_eq_of_readable (arguments : Layer) {w : World} {ofProject : Option Members}
    (hproject : (project.run w).1 = .ok ofProject) (h : HasReadableWorkers w) :
    ∃ taken : Option Configuration,
      ((resolve arguments).run w).1 = taken.elim (.error .invalid) .ok ∧
        ∀ c, taken = some c ↔ TakesFrom (highest? arguments w ofProject) c := by
  refine ⟨read? (arguments.above ((environmentLayer w).above (ofProject.getD []))), ?_,
    fun c => ?_⟩
  · rw [resolve_fst arguments hproject]
    unfold ofLayers
    rw [layer_environment h]
    dsimp only [bind, Except.bind]
    cases read? (arguments.above ((environmentLayer w).above (ofProject.getD []))) <;> rfl
  · rw [read?_eq_some_iff, member?_layers]

/-- **Each value comes from the highest layer that sets it, and what is hidden does no harm.** If
the number of workers in the environment is no integer, no configuration is given, whatever the
arguments say. Otherwise a configuration is given exactly if what the highest layers say makes
sense, and it takes its values from there. So it does not depend on what the lower layers say about
a member that the arguments set. -/
theorem resolve_takes_highest (arguments : Layer) {w : World} {ofProject : Option Members}
    (hproject : (project.run w).1 = .ok ofProject) :
    (∀ text, w.filled? workersVariable = some text → Text.typedInteger? text = none →
      ((resolve arguments).run w).1 = .error (.workersNotInteger text)) ∧
    (HasReadableWorkers w →
      (∀ c, ((resolve arguments).run w).1 = .ok c ↔
        TakesFrom (highest? arguments w ofProject) c) ∧
      ((∀ c, ¬ TakesFrom (highest? arguments w ofProject) c) →
        ((resolve arguments).run w).1 = .error .invalid) ∧
      ∀ w' ofProject', (project.run w').1 = .ok ofProject' → HasReadableWorkers w' →
        (∀ key, arguments.says? key = none → below? w ofProject key = below? w' ofProject' key) →
          ((resolve arguments).run w).1 = ((resolve arguments).run w').1) := by
  constructor
  · intro text htext hodd
    rw [resolve_fst arguments hproject, environment_fst, htext]
    unfold ofLayers Environment.layer
    dsimp only
    rw [hodd]
    rfl
  · intro hreadable
    obtain ⟨taken, hresult, htaken⟩ := resolve_eq_of_readable arguments hproject hreadable
    refine ⟨fun c => ?_, fun hnone => ?_, fun w' ofProject' hproject' hreadable' hbelow => ?_⟩
    · rw [hresult, ← htaken]
      cases taken with
      | none => simp
      | some d => simp
    · have htaken : taken = none := Option.eq_none_iff_forall_ne_some.2 fun c hc =>
        hnone c ((htaken c).1 hc)
      rw [hresult, htaken]
      rfl
    · obtain ⟨taken', hresult', htaken'⟩ := resolve_eq_of_readable arguments hproject' hreadable'
      -- where the arguments say something, it does not matter what is below
      have hhighest : highest? arguments w ofProject = highest? arguments w' ofProject' := by
        funext key
        unfold highest?
        cases hsays : arguments.says? key with
        | none => rw [hbelow key hsays]
        | some v => rfl
      have hsame : taken = taken' := by
        ext c
        rw [htaken, htaken', hhighest]
      rw [hresult, hresult', hsame]

/-! ### Numbers of workers that make no sense -/

/-- Arguments that ask for two workers. -/
def twoWorkers : Layer := member "max_workers" (some (.int 2))

/-- The file of a project that asks for an odd number of workers, and for templates of its own. -/
def crowdedProject : String := "\x7b\"max_workers\": \"many\", \"template_dir\": \"pages\"\x7d"

/-- A project with that file, in an environment that asks for no workers at all. -/
def crowded : World :=
  { disk := { entries := [([projectFile], .file crowdedProject.toUTF8)] }
    environment := [(baseUrlVariable, "https://staging"), (workersVariable, "0")] }

theorem project_crowded : (project.run crowded).1
    = .ok (some [(.str "max_workers", .str "many"), (.str "template_dir", .str "pages")]) := by
  have htext : Text.ofFile? crowdedProject.toUTF8 = some crowdedProject := by decide +kernel
  have hread : Json.read crowdedProject = .ok
      (.map [(.str "max_workers", .str "many"), (.str "template_dir", .str "pages")]) := by cbv
  show (ofContent _ crowdedProject.toUTF8).map some = _
  unfold ofContent
  rw [htext]
  dsimp only
  rw [hread]
  rfl

/-- Two workers come of it, since neither of the other numbers counts. -/
theorem crowded_hidden : ∃ c, ((resolve twoWorkers).run crowded).1 = .ok c ∧
    c.maxWorkers = 2 ∧ c.baseUrl = some "https://staging" ∧ c.templateDirectory = some "pages" := by
  obtain ⟨-, hreadable⟩ := resolve_takes_highest twoWorkers project_crowded
  have hworkers : HasReadableWorkers crowded := by
    intro text htext
    obtain rfl : "0" = text := Option.some.inj htext
    rfl
  obtain ⟨htaken, -, -⟩ := hreadable hworkers
  refine ⟨{ baseUrl := some "https://staging", templateDirectory := some "pages", maxWorkers := 2 },
    (htaken _).2 ⟨rfl, rfl, rfl, rfl, rfl, rfl, rfl, rfl⟩, rfl, rfl, rfl⟩

/-- A number of workers in the environment that is no integer. -/
def manyWorkers : World := { environment := [(workersVariable, "many")] }

/-- The arguments hide it, and still it takes the configuration away. -/
theorem manyWorkers_refused :
    twoWorkers.says? "max_workers" = some (.int 2) ∧
    (project.run manyWorkers).1 = .ok none ∧ (project.run {}).1 = .ok none ∧
    (∀ key, twoWorkers.says? key = none → below? manyWorkers none key = below? {} none key) ∧
    ((resolve twoWorkers).run manyWorkers).1 = .error (.workersNotInteger "many") ∧
    ∃ c, ((resolve twoWorkers).run {}).1 = .ok c ∧ c.maxWorkers = 2 := by
  refine ⟨rfl, rfl, rfl, fun key _ => ?_, rfl, _, rfl, rfl⟩
  unfold below? environmentSays?
  split
  · rfl
  · split
    · rfl
    · split <;> rfl

end Configuration

end ApiTools
