import ApiTools.Value.Basic
import Mathlib.Data.List.Basic

set_option autoImplicit false

/-!
# Members of changed mappings

What is found under a text key once members were left out, put behind the others, or changed. Of
all keys only the text itself is the same key as a text, so members under other keys do not
matter.
-/

namespace ApiTools.Value

/-! ## Keys -/

theorem eq_str_of_sameKey {a : String} {v : Value} (h : (Value.str a).sameKey v = true) :
    v = .str a := by
  cases v with
  | str b =>
      have h : (a == b) = true := h
      rw [beq_iff_eq.1 h]
  | float x =>
      -- a number may be an integer or not, and a text is none in either case
      unfold sameKey asInteger? at h
      cases hx : Number.integer? x <;> simp [hx] at h
  | _ => simp [sameKey, asInteger?] at h

theorem sameKey_str_iff (v : Value) (a : String) : v.sameKey (.str a) = true ↔ v = .str a := by
  constructor
  · intro h
    cases v with
    | str b =>
        have h : (b == a) = true := h
        rw [beq_iff_eq.1 h]
    | float x =>
        unfold sameKey asInteger? at h
        cases hx : Number.integer? x <;> simp [hx] at h
    | _ => simp [sameKey, asInteger?] at h
  · rintro rfl
    exact beq_self_eq_true a

theorem eq_str_of_asText? {v : Value} {t : String} (h : v.asText? = some t) : v = .str t := by
  cases v with
  | str u => rw [Option.some.inj h]
  | _ => cases h

/-! ## Members -/

variable {ms : Members} {key : String}

theorem member?_nil (key : String) : member? [] key = none := rfl

theorem member?_cons (m : Value × Value) (ms : Members) (key : String) :
    member? (m :: ms) key = if m.1.sameKey (.str key) then some m.2 else member? ms key := by
  unfold member? lookup
  by_cases hm : m.1.sameKey (.str key) = true
  · rw [if_pos hm, List.find?_cons_of_pos (by exact hm)]
    rfl
  · rw [if_neg hm, List.find?_cons_of_neg (by exact hm)]

theorem member?_cons_str (a : String) (v : Value) (ms : Members) (key : String) :
    member? ((.str a, v) :: ms) key = if a = key then some v else member? ms key := by
  rw [member?_cons]
  by_cases ha : a = key
  · rw [if_pos ((sameKey_str_iff _ _).2 (by rw [ha])), if_pos ha]
  · rw [if_neg, if_neg ha]
    intro h
    have heq := (sameKey_str_iff _ _).1 h
    injection heq with heq
    exact ha heq

theorem member?_append (ms more : Members) (key : String) :
    member? (ms ++ more) key = (member? ms key).or (member? more key) := by
  induction ms with
  | nil => rfl
  | cons m ms ih =>
      rw [List.cons_append, member?_cons, member?_cons, ih]
      split <;> rfl

/-- Under the key of a new member, that member is found. -/
theorem member?_insertMember (ms : Members) (a : String) (v : Value) (key : String) :
    member? (insertMember ms (.str a) v) key = if a = key then some v else member? ms key := by
  induction ms with
  | nil => rw [insertMember, member?_cons_str]
  | cons m ms ih =>
      rw [insertMember]
      by_cases hm : m.1.sameKey (.str a) = true
      · rw [if_pos hm, member?_cons, member?_cons, (sameKey_str_iff _ _).1 hm]
        by_cases ha : a = key
        · rw [if_pos ha, if_pos ((sameKey_str_iff _ _).2 (by rw [ha]))]
        · rw [if_neg ha, if_neg, if_neg] <;>
            exact fun h => ha (Value.str.inj ((sameKey_str_iff _ _).1 h))
      · rw [if_neg hm, member?_cons, member?_cons, ih]
        by_cases hk : m.1.sameKey (.str key) = true
        · rw [if_pos hk, if_pos hk, if_neg]
          rintro rfl
          exact hm hk
        · rw [if_neg hk, if_neg hk]

/-- Changing the values changes what is found. -/
theorem member?_map (f : Value → Value → Value) (ms : Members) (key : String) :
    member? (ms.map fun m => (m.1, f m.1 m.2)) key = (member? ms key).map (f (.str key)) := by
  induction ms with
  | nil => rfl
  | cons m ms ih =>
      rw [List.map_cons, member?_cons, member?_cons, ih]
      dsimp only
      by_cases hm : m.1.sameKey (.str key) = true
      · rw [if_pos hm, if_pos hm, (sameKey_str_iff _ _).1 hm]
        rfl
      · rw [if_neg hm, if_neg hm]

/-- The members without those under some text keys. -/
def without (keys : List String) (ms : Members) : Members :=
  ms.filter fun m => !keys.any fun key => m.1.sameKey (.str key)

theorem member?_without {keys : List String} (ms : Members) (h : key ∉ keys) :
    member? (without keys ms) key = member? ms key := by
  induction ms with
  | nil => rfl
  | cons m ms ih =>
      rw [member?_cons, without, List.filter_cons]
      split
      · rw [member?_cons, ← ih, without]
      · next hm =>
        -- a member that is left out has one of the other keys
        have hkey : ¬ m.1.sameKey (.str key) = true := by
          intro hk
          rw [(sameKey_str_iff _ _).1 hk] at hm
          simp only [Bool.not_eq_true', Bool.not_eq_false, List.any_eq_true] at hm
          obtain ⟨other, hother, hsame⟩ := hm
          have heq := (sameKey_str_iff _ _).1 hsame
          injection heq with heq
          exact h (heq ▸ hother)
        rw [if_neg hkey, ← ih, without]

theorem member?_without_self {keys : List String} (ms : Members) (h : key ∈ keys) :
    member? (without keys ms) key = none := by
  unfold member? lookup
  rw [List.find?_eq_none.2]
  · rfl
  · intro m hm hkey
    have hfree := (List.mem_filter.1 hm).2
    simp only [Bool.not_eq_true', List.any_eq_false] at hfree
    exact hfree key h hkey

/-- The members with the value under a text key changed. -/
def changed (key : String) (f : Value → Value) (ms : Members) : Members :=
  ms.map fun m => (m.1, if m.1.sameKey (.str key) then f m.2 else m.2)

theorem member?_changed_self (key : String) (f : Value → Value) (ms : Members) :
    member? (changed key f ms) key = (member? ms key).map f := by
  unfold changed
  rw [member?_map fun k v => if k.sameKey (.str key) then f v else v]
  have hkey : (Value.str key).sameKey (.str key) = true := beq_self_eq_true key
  simp only [hkey, if_true]

theorem member?_changed {other : String} (f : Value → Value) (ms : Members) (h : key ≠ other) :
    member? (changed other f ms) key = member? ms key := by
  unfold changed
  rw [member?_map fun k v => if k.sameKey (.str other) then f v else v]
  have hkey : (Value.str key).sameKey (.str other) = false := by
    rw [Bool.eq_false_iff]
    intro hk
    have heq := (sameKey_str_iff _ _).1 hk
    injection heq with heq
    exact h heq
  simp only [hkey, Bool.false_eq_true, if_false]
  exact Option.map_id'

/-! ## Mappings and lists -/

theorem get?_eq_bind (v : Value) (key : String) :
    v.get? key = v.asMap?.bind (member? · key) := by
  unfold get? asMap?
  cases v.content <;> rfl

theorem isMap_eq (v : Value) : v.isMap = v.asMap?.isSome := by
  unfold isMap asMap?
  cases v.content <;> rfl

theorem get?_of_isMap_false {v : Value} (h : v.isMap = false) (key : String) :
    v.get? key = none := by
  rw [isMap_eq, Option.isSome_eq_false_iff, Option.isNone_iff_eq_none] at h
  rw [get?_eq_bind, h]
  rfl

/-- Changes the members of a mapping; any other value stays. -/
def mapMembers (f : Members → Members) : Value → Value
  | .map ms => .map (f ms)
  | .knot n (.map ms) => .knot n (.map (f ms))
  | v => v

theorem asMap?_mapMembers (f : Members → Members) (v : Value) :
    (v.mapMembers f).asMap? = v.asMap?.map f := by
  unfold mapMembers
  split
  · rfl
  · rfl
  · next h h' =>
    have hnone : v.asMap? = none := by
      unfold asMap?
      split
      · next ms hc =>
        -- a value that is no mapping may still be a knot, but not one that marks a mapping
        cases v with
        | map ns => exact absurd rfl (h ns)
        | knot n w => exact absurd (congrArg (Value.knot n) hc) (h' n ms)
        | _ => cases hc
      · rfl
    rw [hnone]
    rfl

theorem isMap_mapMembers (f : Members → Members) (v : Value) :
    (v.mapMembers f).isMap = v.isMap := by
  rw [isMap_eq, isMap_eq, asMap?_mapMembers, Option.isSome_map]

theorem get?_mapMembers (f : Members → Members) (v : Value) (key : String) :
    (v.mapMembers f).get? key = v.asMap?.bind fun ms => member? (f ms) key := by
  rw [get?_eq_bind, asMap?_mapMembers, Option.bind_map]
  rfl

/-- Where the members are changed but not those under a key, the same is found under it. -/
theorem get?_mapMembers_of_eq {f : Members → Members} {key : String}
    (h : ∀ ms, member? (f ms) key = member? ms key) (v : Value) :
    (v.mapMembers f).get? key = v.get? key := by
  rw [get?_mapMembers, get?_eq_bind]
  simp only [h]

/-- Changes the elements of a list; any other value stays. -/
def mapElements (f : List Value → List Value) : Value → Value
  | .list xs => .list (f xs)
  | .knot n (.list xs) => .knot n (.list (f xs))
  | v => v

theorem asList?_mapElements (f : List Value → List Value) (v : Value) :
    (v.mapElements f).asList? = v.asList?.map f := by
  unfold mapElements
  split
  · rfl
  · rfl
  · next h h' =>
    have hnone : v.asList? = none := by
      unfold asList?
      split
      · next xs hc =>
        cases v with
        | list ys => exact absurd rfl (h ys)
        | knot n w => exact absurd (congrArg (Value.knot n) hc) (h' n xs)
        | _ => cases hc
      · rfl
    rw [hnone]
    rfl

end ApiTools.Value
