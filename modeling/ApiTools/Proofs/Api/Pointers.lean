import ApiTools.Api.Reader
import ApiTools.Proofs.Text.Runs
import ApiTools.Proofs.Value.Members

set_option autoImplicit false

/-!
# What pointers lead to

A pointer spells the way to a place in a document: the keys on the way, with slashes between them.
In a key that holds slashes or tildes itself these are escaped, tildes first, so that no escape is
taken for part of the key. Decoding undoes this for every key. So a pointer is cut exactly between
its keys and leads where they lead, and a reference to a named schema finds the schema, whatever
its name is.
-/

namespace ApiTools

/-! ## Escapes -/

namespace Reference

/-- A text with another one in the place of every occurrence of a character. -/
def replace (c : Char) (text cs : List Char) : List Char :=
  cs.flatMap fun d => if d = c then text else [d]

/-- A key as it is spelled in a pointer: every tilde becomes `~0`, then every slash `~1`. -/
def escape (key : String) : String :=
  String.ofList (replace '/' ['~', '1'] (replace '~' ['~', '0'] key.toList))

/-- The reference to a name in a registry that is kept at a place. -/
def toName (place name : String) : String := place ++ escape name

@[simp] theorem replace_nil (c : Char) (text : List Char) : replace c text [] = [] := rfl

@[simp] theorem replace_cons (c d : Char) (text cs : List Char) :
    replace c text (d :: cs) = (if d = c then text else [d]) ++ replace c text cs := rfl

theorem toList_escape (key : String) :
    (escape key).toList = replace '/' ['~', '1'] (replace '~' ['~', '0'] key.toList) :=
  String.toList_ofList

theorem decode_of_ne {c : Char} (h : c ≠ '~') (cs : List Char) :
    decode (c :: cs) = c :: decode cs := by
  simp [decode, h]

/-- Decoding undoes both replacements. -/
theorem decode_replace (cs : List Char) :
    decode (replace '/' ['~', '1'] (replace '~' ['~', '0'] cs)) = cs := by
  induction cs with
  | nil => rfl
  | cons c cs ih =>
      by_cases htilde : c = '~'
      · subst htilde
        exact congrArg ('~' :: ·) ih
      · by_cases hslash : c = '/'
        · subst hslash
          exact congrArg ('/' :: ·) ih
        · rw [replace_cons, if_neg htilde, List.singleton_append, replace_cons, if_neg hslash,
            List.singleton_append, decode_of_ne htilde, ih]

theorem decode_escape (key : String) : decode (escape key).toList = key.toList := by
  rw [toList_escape, decode_replace]

theorem slash_not_mem_escape (key : String) : '/' ∉ (escape key).toList := by
  rw [toList_escape]
  unfold replace
  intro h
  obtain ⟨d, -, hd⟩ := List.mem_flatMap.1 h
  split at hd
  · simp at hd
  · next hne => exact hne (List.mem_singleton.1 hd).symm

theorem escape_ne_empty {key : String} (h : key ≠ "") : (escape key).toList ≠ [] := by
  intro hnil
  have hkey := decode_escape key
  rw [hnil] at hkey
  exact h (String.toList_injective hkey.symm)

/-! ## References -/

/-- A reference to a name points at that name. -/
theorem name?_toName {place name : String} (hplace : place ∈ places) (hname : name ≠ "") :
    name? (toName place name) = some name := by
  -- of the two places only the one that is written there is at the beginning
  have hfound : places.findSome? (fun p => Text.after? p.toList (toName place name).toList)
      = some (escape name).toList := by
    unfold toName
    rw [String.toList_append]
    rcases List.mem_cons.1 hplace with rfl | hplace
    · rfl
    · obtain rfl := List.mem_singleton.1 hplace
      rfl
  unfold name?
  rw [hfound]
  split
  · next h => cases h
  · next h => exact absurd (Option.some.inj h) (escape_ne_empty hname)
  · next h =>
    rw [← Option.some.inj h, decode_escape, String.ofList_toList]

end Reference

/-! ## Ways through documents -/

namespace Api

open Reference (escape)

/-- Some keys lead from a value to another one through nested mappings. -/
inductive Leads : Value → List String → Value → Prop
  | here (v : Value) : Leads v [] v
  | member {v w u : Value} {ms : Members} {key : String} {keys : List String}
      (hmap : v.asMap? = some ms) (hkey : Value.member? ms key = some w) (hrest : Leads w keys u) :
      Leads v (key :: keys) u

/-- Some keys lead nowhere: something else than a mapping is met, or a key is missing. -/
inductive LeadsNowhere : Value → List String → Prop
  | notMap {v : Value} (hmap : v.isMap = false) (key : String) (keys : List String) :
      LeadsNowhere v (key :: keys)
  | missing {v : Value} {ms : Members} {key : String} (hmap : v.asMap? = some ms)
      (hkey : Value.member? ms key = none) (keys : List String) : LeadsNowhere v (key :: keys)
  | member {v w : Value} {ms : Members} {key : String} {keys : List String}
      (hmap : v.asMap? = some ms) (hkey : Value.member? ms key = some w)
      (hrest : LeadsNowhere w keys) : LeadsNowhere v (key :: keys)

/-- The pointer with some keys. -/
def pointerTo (keys : List String) : String := "#/" ++ "/".intercalate (keys.map escape)

theorem leads_of_descend {v u : Value} {keys : List String} (h : descend v keys = some u) :
    Leads v keys u := by
  induction keys generalizing v with
  | nil =>
      obtain rfl := Option.some.inj h
      exact .here v
  | cons key keys ih =>
      obtain ⟨w, hw, hrest⟩ := Option.bind_eq_some_iff.1 h
      rw [Value.get?_eq_bind] at hw
      obtain ⟨ms, hmap, hkey⟩ := Option.bind_eq_some_iff.1 hw
      exact .member hmap hkey (ih hrest)

theorem descend_of_leads {v u : Value} {keys : List String} (h : Leads v keys u) :
    descend v keys = some u := by
  induction h with
  | here v => rfl
  | member hmap hkey _ ih =>
      rw [descend, Value.get?_eq_bind, hmap, Option.bind_some, hkey, Option.bind_some, ih]

theorem leadsNowhere_of_descend {v : Value} {keys : List String} (h : descend v keys = none) :
    LeadsNowhere v keys := by
  induction keys generalizing v with
  | nil => cases h
  | cons key keys ih =>
      cases hmap : v.asMap? with
      | none =>
          refine .notMap ?_ key keys
          rw [Value.isMap_eq, hmap]
          rfl
      | some ms =>
          rw [descend, Value.get?_eq_bind, hmap, Option.bind_some] at h
          cases hkey : Value.member? ms key with
          | none => exact .missing hmap hkey keys
          | some w =>
              rw [hkey] at h
              exact .member hmap hkey (ih h)

theorem descend_of_leadsNowhere {v : Value} {keys : List String} (h : LeadsNowhere v keys) :
    descend v keys = none := by
  induction h with
  | notMap hmap key keys =>
      rw [descend, Value.get?_of_isMap_false hmap]
      rfl
  | missing hmap hkey keys =>
      rw [descend, Value.get?_eq_bind, hmap, Option.bind_some, hkey]
      rfl
  | member hmap hkey _ ih =>
      rw [descend, Value.get?_eq_bind, hmap, Option.bind_some, hkey, Option.bind_some, ih]

/-! ## Pointers -/

/-- A pointer is cut between its keys and nowhere else, as no escaped key holds a slash. -/
theorem pointer?_pointerTo {keys : List String} (h : keys ≠ []) :
    pointer? (pointerTo keys) = some keys := by
  have htext : Text.after? ['#', '/'] (pointerTo keys).toList
      = some (Text.joinWith ['/'] (keys.map fun key => (escape key).toList)) := by
    unfold pointerTo
    rw [String.toList_append, String.toList_intercalate, List.map_map,
      Text.joinWith_eq_intercalate]
    rfl
  have hpieces : Text.pieces (· != '/')
        (Text.joinWith ['/'] (keys.map fun key => (escape key).toList))
      = keys.map fun key => (escape key).toList := by
    refine Text.pieces_joinWith (by simpa using h) ?_ (by decide)
    intro w hw c hc
    obtain ⟨key, -, rfl⟩ := List.mem_map.1 hw
    have hne : c ≠ '/' := fun heq => Reference.slash_not_mem_escape key (heq ▸ hc)
    simpa using hne
  unfold pointer?
  rw [htext, Option.map_some, hpieces, List.map_map]
  have hdecode : (fun key => String.ofList (Reference.decode (escape key).toList)) = id := by
    funext key
    rw [Reference.decode_escape, String.ofList_toList]
    rfl
  exact congrArg some ((congrArg keys.map hdecode).trans keys.map_id)

/-- What a pointer leads to is what its keys lead to. -/
theorem lookup_pointerTo {doc : Members} {keys : List String} (h : keys ≠ []) :
    lookup doc (.str (pointerTo keys)) = descend (.map doc) keys := by
  show (pointer? (pointerTo keys)).bind (descend (.map doc)) = _
  rw [pointer?_pointerTo h, Option.bind_some]

/-- **Escapes are undone wherever a pointer is read.** A reference to a name, at either of the
places of a registry, points at exactly that name, so it finds what the registry has under it. A
pointer with some keys leads to a value if and only if the keys do, and to none if and only if
they lead nowhere. -/
theorem escapes_undone :
    (∀ place ∈ Reference.places, ∀ name ≠ "",
      Reference.name? (Reference.toName place name) = some name ∧
      ∀ reg : Registry, Reference.resolve? reg (Reference.toName place name) = reg.get? name) ∧
    ∀ (doc : Members) (keys : List String), keys ≠ [] →
      (∀ v, lookup doc (.str (pointerTo keys)) = some v ↔ Leads (.map doc) keys v) ∧
      (lookup doc (.str (pointerTo keys)) = none ↔ LeadsNowhere (.map doc) keys) := by
  constructor
  · intro place hplace name hname
    have hfound := Reference.name?_toName hplace hname
    refine ⟨hfound, fun reg => ?_⟩
    unfold Reference.resolve?
    rw [hfound, Option.bind_some]
  · intro doc keys hkeys
    rw [lookup_pointerTo hkeys]
    exact ⟨fun v => ⟨leads_of_descend, descend_of_leads⟩,
      leadsNowhere_of_descend, descend_of_leadsNowhere⟩

/-! ### A name that looks escaped -/

/-- Two parameters; the name of the first one is the escaped form of that of the second one. -/
def slashed : Members :=
  [(.str "parameters", Value.object [("a~1b", .int 1), ("a/b", .int 2)])]

/-- Each of the two names is found under its own spelling. -/
theorem slashed_found :
    Reference.toName "#/definitions/" "a~1b" = "#/definitions/a~01b" ∧
    Reference.name? "#/definitions/a~01b" = some "a~1b" ∧
    pointerTo ["parameters", "a~1b"] = "#/parameters/a~01b" ∧
    lookup slashed (.str "#/parameters/a~01b") = some (.int 1) ∧
    pointerTo ["parameters", "a/b"] = "#/parameters/a~1b" ∧
    lookup slashed (.str "#/parameters/a~1b") = some (.int 2) := by
  have hname : Reference.toName "#/definitions/" "a~1b" = "#/definitions/a~01b" := rfl
  have hfirst : pointerTo ["parameters", "a~1b"] = "#/parameters/a~01b" := rfl
  have hsecond : pointerTo ["parameters", "a/b"] = "#/parameters/a~1b" := rfl
  obtain ⟨hnames, hlookup⟩ := escapes_undone
  have hfound := (hnames "#/definitions/" (by decide) "a~1b" (by decide)).1
  have hone := ((hlookup slashed ["parameters", "a~1b"] (by simp)).1 (.int 1)).2
    (.member rfl rfl (.member rfl rfl (.here _)))
  have htwo := ((hlookup slashed ["parameters", "a/b"] (by simp)).1 (.int 2)).2
    (.member rfl rfl (.member rfl rfl (.here _)))
  rw [hname] at hfound
  rw [hfirst] at hone
  rw [hsecond] at htwo
  exact ⟨hname, hfound, hfirst, hone, hsecond, htwo⟩

end Api

end ApiTools
