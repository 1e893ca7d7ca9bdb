import ApiTools.Proofs.Schema.Inside
import ApiTools.Proofs.Schema.Steps

set_option autoImplicit false

/-!
# Schemas that hold values of JSON

A schema holds two kinds of values as they are written: its default, and the values that it admits.
In a schema that is read from JSON all of them are values of JSON, however deep they lie, and no
step from such a schema leads to other values: neither a reference, nor a property, nor the items,
nor collapsing a composition.
-/

namespace ApiTools

theorem Facet.orElse_eq_given {α : Type} {x y : Facet α} {a : α} (h : x.orElse y = .given a) :
    x = .given a ∨ y = .given a := by
  cases x with
  | absent => exact .inr h
  | null => cases h
  | given b => exact .inl h

/-- The default and the admitted values are values of JSON. -/
structure Facets.HoldsJson (f : Facets) : Prop where
  default : ∀ v, f.default = .given v → v.isJson = true
  enum : ∀ vs, f.enum = .given vs → ∀ v ∈ vs, v.isJson = true

namespace Schema

open Record

/-- The values that a schema holds, in it and in the schemas in it, are values of JSON. -/
inductive HoldsJson : Schema → Prop
  | intro {s : Schema} (hf : s.facets.HoldsJson) (hp : ∀ p ∈ s.propertyList, HoldsJson p.2)
      (hi : ∀ i, s.items = .given i → HoldsJson i)
      (hc : ∀ c ∈ compositionMembers s, HoldsJson c) : HoldsJson s

namespace HoldsJson

variable {s : Schema}

theorem facets (h : s.HoldsJson) : s.facets.HoldsJson := by
  cases h with
  | intro hf => exact hf

theorem of_mem_propertyList (h : s.HoldsJson) {p : String × Schema} (hp : p ∈ s.propertyList) :
    p.2.HoldsJson := by
  cases h with
  | intro _ hall => exact hall p hp

theorem of_items (h : s.HoldsJson) {i : Schema} (hi : s.items = .given i) : i.HoldsJson := by
  cases h with
  | intro _ _ hall => exact hall i hi

theorem of_compositionMembers (h : s.HoldsJson) {c : Schema} (hc : c ∈ compositionMembers s) :
    c.HoldsJson := by
  cases h with
  | intro _ _ _ hall => exact hall c hc

end HoldsJson

/-! ## Reading -/

/-- What is given under a key was read from a value there that is not null. -/
theorem given_of_facet {α : Type} {ms : Members} {camel snake : String} {read : Value → Option α}
    {faults : List String} {a : α} (h : ((facet ms camel snake read).run faults).1 = .given a) :
    ∃ key v, find? ms camel snake = some (key, v) ∧ v ≠ .null ∧ read v = some a := by
  unfold facet at h
  split at h
  · cases h
  · cases h
  · next key v hnull hf =>
    cases hr : read v with
    | none =>
        rw [hr] at h
        cases h
    | some b =>
        rw [hr] at h
        injection h with h
        exact ⟨key, v, hf, hnull, by rw [hr, h]⟩

/-- A value that is given as it stands is one of JSON, and not null. -/
theorem isJson_of_facet_some {ms : Members} (hms : Value.isJsonMembers ms = true)
    {camel snake : String} {faults : List String} {v : Value}
    (h : ((facet (counted ms) camel snake some).run faults).1 = .given v) :
    v ≠ .null ∧ v.isJson = true := by
  obtain ⟨key, w, hf, hnull, hw⟩ := given_of_facet h
  obtain rfl := Option.some.inj hw
  exact ⟨hnull, isJson_of_find?_counted hms hf⟩

theorem holdsJson_readFacets {ms : Members} (hms : Value.isJsonMembers ms = true)
    (faults : List String) : ((readFacets (counted ms)).run faults).1.HoldsJson where
  default v h := by
    obtain ⟨-, hv⟩ := isJson_of_facet_some hms h
    exact hv
  enum vs h := by
    obtain ⟨key, w, hf, -, hw⟩ : ∃ key w,
        find? (counted ms) "enum" "enum" = some (key, w) ∧ w ≠ .null ∧ w.readList? = some vs :=
      given_of_facet h
    have hv := isJson_of_find?_counted hms hf
    exact (Value.isJsonList_iff vs).1 (Value.readList?_of_isJson hv hw)

/-- A schema that is read from JSON holds values of JSON. -/
theorem holdsJson_of_readWithin {around : List Nat} {v : Value} (hv : v.isJson = true) {s : Schema}
    (h : (readWithin around v).toOption = some s) : s.HoldsJson := by
  match v with
  | .map ms =>
      have hms : Value.isJsonMembers ms = true := by rwa [Value.isJson] at hv
      -- a schema inside was read from a smaller value
      have hinside : ∀ {t : Schema}, s.Holds t → t.HoldsJson := by
        intro t ht
        obtain ⟨w, hw, hread⟩ := readFrom_inner hms h ht
        have hsize := sizeOf_of_mem_inner hw
        exact holdsJson_of_readWithin (isJson_of_mem_inner hms hw) hread
      refine .intro ?_ (fun p hp => hinside (.property hp)) (fun i hi => hinside (.items hi))
        fun c hc => hinside (.of_compositionMembers hc)
      rw [eq_reading h]
      exact holdsJson_readFacets hms []
  | .knot name w => simp [Value.isJson] at hv
  | .null | .bool _ | .int _ | .float _ | .str _ | .bytes _ | .date _ | .dateTime _ | .pair _ _
  | .set _ | .list _ => simp [readWithin, Except.toOption] at h
termination_by sizeOf v
decreasing_by exact hsize

theorem holdsJson_of_read {v : Value} (hv : v.isJson = true) {s : Schema}
    (h : (Schema.read v).toOption = some s) : s.HoldsJson := holdsJson_of_readWithin hv h

/-! ## Steps -/

/-- All named schemas hold values of JSON. -/
def RegistryHoldsJson (reg : Registry) : Prop := ∀ n s, reg.get? n = some s → s.HoldsJson

variable {reg : Registry} {s : Schema}

/-- The members of a composition hold values of JSON. -/
theorem HoldsJson.of_member (h : s.HoldsJson) (hreg : RegistryHoldsJson reg) {m : Member}
    (hm : m ∈ merged reg s ++ (variant? reg s).toList) : m.schema.HoldsJson := by
  rcases mem_members hm with ⟨c, hc, rfl⟩ | ⟨n, -, -, hn⟩
  · exact h.of_compositionMembers hc
  · exact hreg n _ hn

theorem HoldsJson.of_variant? (h : s.HoldsJson) (hreg : RegistryHoldsJson reg) {v : Member}
    (hv : variant? reg s = some v) : v.schema.HoldsJson :=
  h.of_member hreg (by simp [hv])

/-- The facets of a variant, laid over others, give nothing but what one of the two gives. -/
theorem holdsJson_overlay {f : Facets} (hf : f.HoldsJson) (hv : s.facets.HoldsJson) :
    (overlay f s).HoldsJson where
  default v h := by
    rcases Facet.orElse_eq_given h with h | h
    · exact hv.default v h
    · exact hf.default v h
  enum vs h := by
    rcases Facet.orElse_eq_given h with h | h
    · exact hv.enum vs h
    · exact hf.enum vs h

/-- Collapsing a composition keeps the default and the admitted values among those of JSON. -/
theorem HoldsJson.facets_compose (h : s.HoldsJson) (hreg : RegistryHoldsJson reg) :
    (compose reg s).facets.HoldsJson := by
  have hlaid : (laidOver reg s).HoldsJson := by
    unfold laidOver
    cases hv : variant? reg s with
    | none => exact h.facets
    | some v => exact holdsJson_overlay h.facets (h.of_variant? hreg hv).facets
  by_cases hc : s.hasComposition = true
  · rw [compose_of_hasComposition hc]
    exact ⟨hlaid.default, hlaid.enum⟩
  · unfold compose
    rw [if_pos (by simpa using hc)]
    exact h.facets

theorem HoldsJson.of_follow (h : s.HoldsJson) (hreg : RegistryHoldsJson reg) {g g' : Guard}
    {t : Schema} (hf : follow reg g s = .at t g') : t.HoldsJson := by
  rcases follow_at_cases hf with ⟨-, rfl, -⟩ | ⟨n, -, -, hn, -⟩
  · exact h
  · exact hreg n t hn

theorem HoldsJson.of_mem_parts (h : s.HoldsJson) (hreg : RegistryHoldsJson reg) {p : Part}
    (hp : p ∈ parts reg s) : p.schema.HoldsJson := by
  rcases List.mem_append.1 (mem_of_mem_parts hp) with hp | hp
  · obtain ⟨q, hq, rfl⟩ := List.mem_map.1 hp
    exact h.of_mem_propertyList hq
  · obtain ⟨m, hm, hp⟩ := List.mem_flatMap.1 hp
    obtain ⟨q, hq, rfl⟩ := List.mem_map.1 hp
    exact (h.of_member hreg hm).of_mem_propertyList hq

/-- The items of a collapsed schema hold values of JSON. -/
theorem HoldsJson.of_compose_items (h : s.HoldsJson) (hreg : RegistryHoldsJson reg) {i : Schema}
    (hi : (compose reg s).items = .given i) : i.HoldsJson := by
  rw [compose_items] at hi
  cases hv : variant? reg s with
  | none =>
      rw [hv] at hi
      exact h.of_items hi
  | some v =>
      rw [hv] at hi
      rcases Facet.orElse_eq_given hi with hi | hi
      · exact (h.of_variant? hreg hv).of_items hi
      · exact h.of_items hi

theorem HoldsJson.of_itemStep (h : s.HoldsJson) (hreg : RegistryHoldsJson reg) {g g' : Guard}
    {i : Schema} (hi : itemStep reg g s = .into i g') : i.HoldsJson := by
  rcases itemStep_cases reg g s with ⟨hn, -⟩ | ⟨j, hj, hitems, -⟩ | ⟨n, j, hb, hj⟩
  · rw [hn] at hi
    cases hi
  · rw [hj] at hi
    injection hi with hi
    exact h.of_compose_items hreg (hi ▸ hitems)
  · rcases hj with ⟨-, hj⟩ | ⟨-, hj⟩
    · rw [hj] at hi
      cases hi
    · rw [hj] at hi
      injection hi with hi
      exact h.of_compose_items hreg (hi ▸ hb.compose_items)

theorem isKept_holdsJson (hreg : RegistryHoldsJson reg) : IsKept reg HoldsJson :=
  ⟨fun h => h.of_follow hreg, fun h => h.of_mem_parts hreg, fun h => h.of_itemStep hreg⟩

end Schema

end ApiTools
