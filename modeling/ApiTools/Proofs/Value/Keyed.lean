import ApiTools.Proofs.Value.Json

set_option autoImplicit false

/-!
# Keyed values

In a document in JSON every mapping has texts as keys, each of them once. That is all a reader of
documents takes for granted who looks for members by their names; what stands under the keys may
be anything, numbers that are not finite included.
-/

namespace ApiTools.Value

/-! ## What stands within a value -/

/-- A value stands within another one: it is that value, or it stands within an element or a
member of it. -/
inductive Within : Value → Value → Prop
  | self (v : Value) : Within v v
  | element {w x : Value} {xs : List Value} (hx : x ∈ xs) (h : Within w x) : Within w (.list xs)
  | member {w : Value} {m : Value × Value} {ms : Members} (hm : m ∈ ms) (h : Within w m.2) :
      Within w (.map ms)
  | content {w v : Value} {name : Nat} (h : Within w v) : Within w (.knot name v)

theorem Within.trans {u v w : Value} (h : Within u v) (h' : Within v w) : Within u w := by
  induction h' with
  | self => exact h
  | element hx _ ih => exact .element hx ih
  | member hm _ ih => exact .member hm ih
  | content _ ih => exact .content ih

theorem sizeOf_snd_lt (m : Value × Value) : sizeOf m.2 < sizeOf m := by
  cases m
  simp only [Prod.mk.sizeOf_spec]
  omega

theorem sizeOf_le_of_within {v w : Value} (h : Within w v) : sizeOf w ≤ sizeOf v := by
  induction h with
  | self => exact Nat.le_refl _
  | element hx _ ih =>
      have := List.sizeOf_lt_of_mem hx
      rw [list.sizeOf_spec]
      omega
  | @member m ms hm _ ih =>
      have := List.sizeOf_lt_of_mem hm
      have := sizeOf_snd_lt m
      rw [map.sizeOf_spec]
      omega
  | content _ ih =>
      rw [knot.sizeOf_spec]
      omega

theorem within_of_content {v w : Value} (h : Within w v.content) : Within w v := by
  cases v with
  | knot name v => exact .content h
  | _ => exact h

theorem within_of_asMap? {v : Value} {ms : Members} (h : v.asMap? = some ms) :
    Within (.map ms) v := by
  unfold asMap? at h
  split at h
  · next hcontent =>
    obtain rfl := Option.some.inj h
    exact within_of_content (hcontent ▸ .self _)
  · cases h

theorem within_of_get? {v w : Value} {key : String} (h : v.get? key = some w) : Within w v := by
  rw [get?_eq_bind] at h
  obtain ⟨ms, hms, hw⟩ := Option.bind_eq_some_iff.1 h
  obtain ⟨k, hk⟩ := mem_of_lookup hw
  have hmember : Within w (.map ms) := .member hk (.self w)
  exact hmember.trans (within_of_asMap? hms)

/-! ## Keyed values -/

/-- Every mapping within a value has texts as keys, each of them once. -/
def IsKeyed (v : Value) : Prop :=
  ∀ ms, Within (.map ms) v → ∃ es, ms = keyed es ∧ (Named.names es).Nodup

namespace IsKeyed

variable {v w : Value}

theorem within (h : v.IsKeyed) (hw : Within w v) : w.IsKeyed :=
  fun ms hms => h ms (hms.trans hw)

theorem get? {key : String} (h : v.IsKeyed) (hw : v.get? key = some w) : w.IsKeyed :=
  h.within (within_of_get? hw)

theorem getD (h : v.IsKeyed) (key : String) : (v.getD key).IsKeyed := by
  unfold Value.getD
  cases hw : v.get? key with
  | none => exact fun _ hms => nomatch hms
  | some w => exact h.get? hw

theorem asMap? {ms : Members} (h : v.IsKeyed) (hms : v.asMap? = some ms) :
    ∃ es, ms = keyed es ∧ (Named.names es).Nodup ∧ ∀ e ∈ es, e.2.IsKeyed := by
  obtain ⟨es, rfl, hnodup⟩ := h ms (within_of_asMap? hms)
  refine ⟨es, rfl, hnodup, fun e he => h.within ?_⟩
  have hmember : Within e.2 (.map (keyed es)) :=
    .member (List.mem_map.2 ⟨e, he, rfl⟩ : (Value.str e.1, e.2) ∈ keyed es) (.self _)
  exact hmember.trans (within_of_asMap? hms)

/-- The members of a keyed value, if there are any, are a keyed mapping. -/
theorem members (h : v.IsKeyed) :
    ∃ es, v.asMap?.getD [] = keyed es ∧ (Named.names es).Nodup ∧ ∀ e ∈ es, e.2.IsKeyed := by
  cases hms : v.asMap? with
  | none => exact ⟨[], rfl, List.nodup_nil, fun _ he => absurd he List.not_mem_nil⟩
  | some ms => exact h.asMap? hms

end IsKeyed

/-- A list is keyed if its elements are. -/
theorem isKeyed_list {xs : List Value} (h : ∀ x ∈ xs, x.IsKeyed) : (list xs).IsKeyed := by
  intro ms hms
  cases hms with
  | element hx hms => exact h _ hx ms hms

/-- A mapping is keyed if it is a keyed one of keyed values. -/
theorem isKeyed_map {es : List (String × Value)} (hnames : (Named.names es).Nodup)
    (h : ∀ e ∈ es, e.2.IsKeyed) : (map (keyed es)).IsKeyed := by
  intro ms hms
  cases hms with
  | self => exact ⟨es, rfl, hnames⟩
  | member hm hms =>
      obtain ⟨e, he, rfl⟩ := List.mem_map.1 hm
      exact h e he ms hms

theorem isJson_of_within {v w : Value} (h : Within w v) (hv : v.isJson = true) :
    w.isJson = true := by
  induction h with
  | self => exact hv
  | element hx _ ih =>
      rw [isJson, isJsonList_iff] at hv
      exact ih (hv _ hx)
  | member hm _ ih =>
      rw [isJson] at hv
      exact ih (isJson_of_mem_members hv hm)
  | content _ _ => simp [isJson] at hv

/-- Values of JSON are keyed. -/
theorem isKeyed_of_isJson {v : Value} (hv : v.isJson = true) : v.IsKeyed := by
  intro ms hms
  have hmembers : isJsonMembers ms = true := by
    have h := isJson_of_within hms hv
    rwa [isJson] at h
  obtain ⟨es, rfl⟩ := exists_keyed hmembers
  exact ⟨es, rfl, ((isJsonMembers_keyed es).1 hmembers).1⟩

end ApiTools.Value
