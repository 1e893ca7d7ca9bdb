import ApiTools.Proofs.Dialect.Schema
import ApiTools.Proofs.Value.Keyed

set_option autoImplicit false

/-!
# Schemas inside schemas

A schema holds others: those of its properties, its items, the members of its compositions, and the
one for additional properties. In a schema that is read from a mapping of JSON each of them is read
from a value that has its place in the mapping. So what is passed on from a mapping to the values in
these places holds of all schemas in it, however deep they lie.
-/

namespace ApiTools

theorem Facet.exists_given {α : Type} {f : Facet (List α)} {x : α} (h : x ∈ f.get?.getD []) :
    ∃ xs, f = .given xs ∧ x ∈ xs := by
  cases f with
  | absent => cases h
  | null => cases h
  | given xs => exact ⟨xs, rfl, h⟩

namespace Schema

open Record
open Value (Within)

/-- A schema holds another one. -/
inductive Holds (s : Schema) : Schema → Prop
  | property {p : String × Schema} (h : p ∈ s.propertyList) : Holds s p.2
  | items {i : Schema} (h : s.items = .given i) : Holds s i
  | allOf {c : Schema} (h : c ∈ members s.allOf) : Holds s c
  | oneOf {c : Schema} (h : c ∈ members s.oneOf) : Holds s c
  | anyOf {c : Schema} (h : c ∈ members s.anyOf) : Holds s c
  | additional {t : Schema} (h : s.additional = .given (.inr t)) : Holds s t

theorem Holds.of_compositionMembers {s c : Schema} (h : c ∈ compositionMembers s) : Holds s c := by
  rcases List.mem_append.1 h with h | h
  · rcases List.mem_append.1 h with h | h
    · exact .allOf h
    · exact .anyOf h
  · exact .oneOf (List.mem_of_mem_take h)

/-! ## Places of schemas -/

/-- The values of the members of a mapping. -/
def valuesOf : Value → List Value
  | .map ms => ms.map (·.2)
  | _ => []

/-- The elements of a list. -/
def elementsOf : Value → List Value
  | .list xs => xs
  | _ => []

/-- What counts as the items: of a list the first element. -/
def firstOf : Value → List Value
  | .list xs => xs.take 1
  | v => [v]

/-- The values under some keys. -/
def under (ms : Members) (keys : List String) : List Value := keys.filterMap (Value.member? ms)

/-- The keys of compositions in both spellings. -/
def compositionKeys : List String := ["allOf", "all_of", "oneOf", "one_of", "anyOf", "any_of"]

/-- The keys of what is said about additional properties. -/
def additionalKeys : List String := ["additionalProperties", "additional_properties"]

/-- The values in a mapping that have the place of a schema. -/
def inner (ms : Members) : List Value :=
  (under ms ["properties"]).flatMap valuesOf ++ (under ms ["items"]).flatMap firstOf
    ++ (under ms compositionKeys).flatMap elementsOf ++ under ms additionalKeys

variable {ms : Members} {v w : Value}

theorem within_of_mem_valuesOf (h : w ∈ valuesOf v) : Within w v := by
  unfold valuesOf at h
  split at h
  · obtain ⟨m, hm, rfl⟩ := List.mem_map.1 h
    exact .member hm (.self _)
  · cases h

theorem within_of_mem_elementsOf (h : w ∈ elementsOf v) : Within w v := by
  unfold elementsOf at h
  split at h
  · exact .element h (.self w)
  · cases h

theorem within_of_mem_firstOf (h : w ∈ firstOf v) : Within w v := by
  unfold firstOf at h
  split at h
  · exact .element (List.mem_of_mem_take h) (.self w)
  · obtain rfl := List.mem_singleton.1 h
    exact .self w

/-- A place of a schema is within a member. -/
theorem within_of_mem_inner (h : w ∈ inner ms) : ∃ m ∈ ms, Within w m.2 := by
  have hunder : ∀ {keys : List String} {v : Value}, v ∈ under ms keys → Within w v →
      ∃ m ∈ ms, Within w m.2 := by
    intro keys v hv hw
    obtain ⟨key, -, hkey⟩ := List.mem_filterMap.1 hv
    obtain ⟨k, hk⟩ := Value.mem_of_lookup hkey
    exact ⟨(k, v), hk, hw⟩
  rcases List.mem_append.1 h with h | h
  · rcases List.mem_append.1 h with h | h
    · rcases List.mem_append.1 h with h | h
      · obtain ⟨v, hv, hw⟩ := List.mem_flatMap.1 h
        exact hunder hv (within_of_mem_valuesOf hw)
      · obtain ⟨v, hv, hw⟩ := List.mem_flatMap.1 h
        exact hunder hv (within_of_mem_firstOf hw)
    · obtain ⟨v, hv, hw⟩ := List.mem_flatMap.1 h
      exact hunder hv (within_of_mem_elementsOf hw)
  · exact hunder h (.self w)

theorem isJson_of_mem_inner (hms : Value.isJsonMembers ms = true) (h : w ∈ inner ms) :
    w.isJson = true := by
  obtain ⟨m, hm, hw⟩ := within_of_mem_inner h
  exact Value.isJson_of_within hw (Value.isJson_of_mem_members hms hm)

theorem sizeOf_of_mem_inner (h : w ∈ inner ms) : sizeOf w < sizeOf (Value.map ms) := by
  obtain ⟨m, hm, hw⟩ := within_of_mem_inner h
  have hle := Value.sizeOf_le_of_within hw
  have hlt := List.sizeOf_lt_of_mem hm
  have hvalue := Value.sizeOf_snd_lt m
  rw [Value.map.sizeOf_spec]
  omega

/-! ## What is read in the places -/

variable {around : List Nat}

/-- A schema is read from one of some values. -/
def ReadFrom (around : List Nat) (vs : List Value) (s : Schema) : Prop :=
  ∃ v ∈ vs, (readWithin around v).toOption = some s

theorem readFrom_of_readEntries {ps : Members} {es : List (String × Schema)}
    (h : readEntries around ps = some es) : ∀ e ∈ es, ReadFrom around (ps.map (·.2)) e.2 := by
  induction ps generalizing es with
  | nil =>
      rw [readEntries] at h
      obtain rfl := Option.some.inj h
      simp
  | cons m ps ih =>
      obtain ⟨k, v⟩ := m
      have hlater : ∀ es, readEntries around ps = some es →
          ∀ e ∈ es, ReadFrom around (((k, v) :: ps).map (·.2)) e.2 := by
        intro es hes e he
        obtain ⟨w, hw, hread⟩ := ih hes e he
        exact ⟨w, List.mem_cons_of_mem v hw, hread⟩
      rw [readEntries] at h
      split at h
      · obtain ⟨s, hs, h⟩ := Option.bind_eq_some_iff.1 h
        obtain ⟨rest, hrest, h⟩ := Option.bind_eq_some_iff.1 h
        obtain rfl := Option.some.inj h
        rw [List.forall_mem_cons]
        exact ⟨⟨v, List.mem_cons_self, hs⟩, hlater rest hrest⟩
      · exact hlater es h

theorem readFrom_of_readMembers {loose : Bool} {xs : List Value} {ss : List Schema}
    (h : readMembers around loose xs = some ss) : ∀ s ∈ ss, ReadFrom around xs s := by
  induction xs generalizing ss with
  | nil =>
      rw [readMembers] at h
      obtain rfl := Option.some.inj h
      simp
  | cons x xs ih =>
      have hlater : ∀ ss, readMembers around loose xs = some ss →
          ∀ s ∈ ss, ReadFrom around (x :: xs) s := by
        intro ss hss s hs
        obtain ⟨w, hw, hread⟩ := ih hss s hs
        exact ⟨w, List.mem_cons_of_mem x hw, hread⟩
      rw [readMembers] at h
      split at h
      · obtain ⟨s, hs, h⟩ := Option.bind_eq_some_iff.1 h
        obtain ⟨rest, hrest, h⟩ := Option.bind_eq_some_iff.1 h
        obtain rfl := Option.some.inj h
        rw [List.forall_mem_cons]
        exact ⟨⟨x, List.mem_cons_self, hs⟩, hlater rest hrest⟩
      · split at h
        · exact hlater ss h
        · cases h

theorem readFrom_of_readProperties (hv : v.isJson = true) {ps : List (String × Schema)}
    (h : readProperties around v = some (.given ps)) :
    ∀ p ∈ ps, ReadFrom around (valuesOf v) p.2 := by
  cases v with
  | map ms =>
      rw [readProperties] at h
      obtain ⟨es, hes, h⟩ := Option.map_eq_some_iff.1 h
      injection h with h
      subst h
      exact fun p hp => readFrom_of_readEntries hes p (Named.mem_of_mem_ofList hp)
  | knot name w => simp [Value.isJson] at hv
  | _ => simp [readProperties] at h

theorem readFrom_of_readItems (hv : v.isJson = true) {i : Schema}
    (h : readItems around v = some (.given i)) : ReadFrom around (firstOf v) i := by
  have hgiven : ∀ {w : Value}, ((readWithin around w).toOption.map Facet.given) = some (.given i) →
      (readWithin around w).toOption = some i := by
    intro w hw
    obtain ⟨s, hs, hw⟩ := Option.map_eq_some_iff.1 hw
    injection hw with hw
    rw [hs, hw]
  match v with
  | .map ms =>
      rw [readItems] at h
      exact ⟨.map ms, List.mem_singleton_self _, hgiven h⟩
  | .list (x :: xs) =>
      rw [readItems] at h
      split at h
      · exact ⟨x, List.mem_cons_self, hgiven h⟩
      · cases h
  | .list [] => simp [readItems] at h
  | .knot name w => simp [Value.isJson] at hv
  | .null | .bool _ | .int _ | .float _ | .str _ | .bytes _ | .date _ | .dateTime _ | .pair _ _
  | .set _ => simp [readItems] at h

theorem readFrom_of_readComposition {loose : Bool} (hv : v.isJson = true) {ss : List Schema}
    (h : readComposition around loose v = some (.given ss)) :
    ∀ s ∈ ss, ReadFrom around (elementsOf v) s := by
  cases v with
  | list xs =>
      rw [readComposition] at h
      obtain ⟨ss', hss, h⟩ := Option.map_eq_some_iff.1 h
      injection h with h
      subst h
      exact readFrom_of_readMembers hss
  | knot name w => simp [Value.isJson] at hv
  | _ => simp [readComposition] at h

theorem readWithin_of_readAdditional (hv : v.isJson = true) {t : Schema}
    (h : readAdditional around v = some (.given (.inr t))) :
    (readWithin around v).toOption = some t := by
  cases v with
  | map ms =>
      rw [readAdditional] at h
      obtain ⟨s, hs, h⟩ := Option.map_eq_some_iff.1 h
      injection h with h
      injection h with h
      rw [hs, h]
  | knot name w => simp [Value.isJson] at hv
  | _ => simp [readAdditional] at h

/-! ## Schemas that are held -/

/-- What counts under a key is what stands there. -/
theorem member?_of_find?_counted (hms : Value.isJsonMembers ms = true) {camel snake key : String}
    (h : find? (counted ms) camel snake = some (key, v)) : Value.member? ms key = some v := by
  have hkey : Value.member? (counted ms) key = some v := by
    unfold find? at h
    split at h
    · next w hw =>
      injection h with h
      injection h with h hv
      rw [← h, ← hv, hw]
    · obtain ⟨w, hw, h⟩ := Option.map_eq_some_iff.1 h
      injection h with h hv
      rw [← h, ← hv, hw]
  have hmem : (Value.str key, v) ∈ ms := (List.mem_filter.1 (Value.mem_of_member? hkey)).1
  -- under each text there is one value
  exact Value.member?_of_mem hms hmem

theorem isJson_of_find?_counted (hms : Value.isJsonMembers ms = true) {camel snake key : String}
    (h : find? (counted ms) camel snake = some (key, v)) : v.isJson = true :=
  Value.isJson_of_member? hms (member?_of_find?_counted hms h)

/-- What is given under a key was read from the value there. -/
theorem given_of_settle {α : Type} {camel snake : String}
    {read : String → Value → Option (Facet α)} {faults : List String} {a : α}
    (h : ((settle (Dialect.childRead ms camel snake read)).run faults).1 = .given a) :
    ∃ key v, find? (counted ms) camel snake = some (key, v) ∧ read key v = some (.given a) := by
  unfold Dialect.childRead at h
  cases hf : find? (counted ms) camel snake with
  | none =>
      rw [hf] at h
      cases h
  | some e =>
      obtain ⟨key, v⟩ := e
      rw [hf] at h
      refine ⟨key, v, rfl, ?_⟩
      cases hr : read key v with
      | none =>
          rw [Option.map_some, hr] at h
          cases h
      | some f =>
          rw [Option.map_some, hr] at h
          exact congrArg some h

/-- What is read without a fault is the result of the reading. -/
theorem eq_reading {s : Schema} (h : (readWithin around (.map ms)).toOption = some s) :
    s = ((Dialect.reading around ms).run []).1 := by
  rw [Dialect.readWithin_map] at h
  generalize (Dialect.reading around ms).run [] = r at h ⊢
  obtain ⟨t, faults⟩ := r
  cases faults with
  | nil => exact (Option.some.inj h).symm
  | cons fault faults => cases h

/-- A schema in a schema was read from a value in the place of a schema. -/
theorem readFrom_inner (hms : Value.isJsonMembers ms = true) {s t : Schema}
    (h : (readWithin around (.map ms)).toOption = some s) (ht : s.Holds t) :
    ReadFrom around (inner ms) t := by
  have hunder : ∀ (keys : List String) {camel snake key : String} {v : Value},
      find? (counted ms) camel snake = some (key, v) → camel ∈ keys → snake ∈ keys →
        v ∈ under ms keys ∧ v.isJson = true := by
    intro keys camel snake key v hf hc hs
    have hv := member?_of_find?_counted hms hf
    refine ⟨List.mem_filterMap.2 ⟨key, ?_, hv⟩, Value.isJson_of_member? hms hv⟩
    rcases Dialect.key_of_find? hf with rfl | rfl
    · exact hc
    · exact hs
  have hcomposition : ∀ {camel snake : String} {faults : List String} {c : Schema},
      camel ∈ compositionKeys → snake ∈ compositionKeys →
      c ∈ members ((settle (Dialect.childRead ms camel snake
        fun k => readComposition around (k == camel))).run faults).1 →
      ReadFrom around (inner ms) c := by
    intro camel snake faults c hc hs hmem
    obtain ⟨ss, hss, hmem⟩ := Facet.exists_given hmem
    obtain ⟨key, v, hf, hread⟩ := given_of_settle hss
    obtain ⟨hv, hjson⟩ := hunder compositionKeys hf hc hs
    obtain ⟨w, hw, hread⟩ := readFrom_of_readComposition hjson hread c hmem
    exact ⟨w, List.mem_append_left _ (List.mem_append_right _ (List.mem_flatMap.2 ⟨v, hv, hw⟩)),
      hread⟩
  obtain rfl := eq_reading h
  cases ht with
  | property hp =>
      obtain ⟨ps, hps, hp⟩ := Facet.exists_given hp
      obtain ⟨key, v, hf, hread⟩ := given_of_settle hps
      obtain ⟨hv, hjson⟩ := hunder ["properties"] hf (by decide) (by decide)
      obtain ⟨w, hw, hread⟩ := readFrom_of_readProperties hjson hread _ hp
      exact ⟨w, List.mem_append_left _ (List.mem_append_left _ (List.mem_append_left _
        (List.mem_flatMap.2 ⟨v, hv, hw⟩))), hread⟩
  | items hi =>
      obtain ⟨key, v, hf, hread⟩ := given_of_settle hi
      obtain ⟨hv, hjson⟩ := hunder ["items"] hf (by decide) (by decide)
      obtain ⟨w, hw, hread⟩ := readFrom_of_readItems hjson hread
      exact ⟨w, List.mem_append_left _ (List.mem_append_left _ (List.mem_append_right _
        (List.mem_flatMap.2 ⟨v, hv, hw⟩))), hread⟩
  | allOf hc => exact hcomposition (by decide) (by decide) hc
  | oneOf hc => exact hcomposition (by decide) (by decide) hc
  | anyOf hc => exact hcomposition (by decide) (by decide) hc
  | additional ha =>
      obtain ⟨key, v, hf, hread⟩ := given_of_settle ha
      obtain ⟨hv, hjson⟩ := hunder additionalKeys hf (by decide) (by decide)
      exact ⟨v, List.mem_append_right _ hv, readWithin_of_readAdditional hjson hread⟩

end Schema

end ApiTools
