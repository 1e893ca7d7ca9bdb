import ApiTools.Proofs.Value.Record
import ApiTools.Value.Serial
import Mathlib.Data.List.Basic

set_option autoImplicit false

/-!
# What can be serialised

Values of JSON have no flaw, and what is put together from values without flaws has none either. So
what is written of them is serialised unless it takes up more levels than there may be, and a text is
made of it unless an integer in it has too many digits.
-/

namespace ApiTools.Value

/-! ## Flaws -/

mutual

theorem flawWithin_of_isJson {v : Value} (h : v.isJson = true) (around : List Nat) :
    v.flawWithin around = none := by
  match v with
  | .null | .bool _ | .int _ | .str _ | .float _ => rfl
  | .list xs =>
      rw [isJson] at h
      rw [flawWithin, flawOfList_of_isJson h]
  | .map ms =>
      rw [isJson] at h
      rw [flawWithin, flawOfMembers_of_isJson h]

theorem flawOfList_of_isJson {xs : List Value} (h : isJsonList xs = true) (around : List Nat) :
    flawOfList around xs = none := by
  match xs with
  | [] => rfl
  | x :: xs =>
      rw [isJsonList, Bool.and_eq_true] at h
      rw [flawOfList, flawWithin_of_isJson h.1, flawOfList_of_isJson h.2]
      rfl

theorem flawOfMembers_of_isJson {ms : Members} (h : isJsonMembers ms = true)
    (around : List Nat) : flawOfMembers around ms = none := by
  match ms with
  | [] => rfl
  | (k, v) :: ms =>
      cases k with
      | str key =>
          rw [isJsonMembers, Bool.and_eq_true, Bool.and_eq_true] at h
          rw [flawOfMembers, flawWithin_of_isJson h.1.2, flawOfMembers_of_isJson h.2]
          rfl
      | _ => simp [isJsonMembers] at h

end

theorem flaw?_of_isJson {v : Value} (h : v.isJson = true) : v.flaw? = none :=
  flawWithin_of_isJson h []

theorem flaw?_list_eq_none_iff (vs : List Value) :
    (list vs).flaw? = none ↔ ∀ v ∈ vs, v.flaw? = none := by
  show flawOfList [] vs = none ↔ _
  induction vs with
  | nil => simp [flawOfList]
  | cons v vs ih =>
      rw [flawOfList, Option.or_eq_none_iff, ih, List.forall_mem_cons]
      rfl

/-- A list of values that are written the same way has no flaw if none of these has one. -/
theorem flaw?_list_map {α : Type} {f : α → Value} (h : ∀ x, (f x).flaw? = none) (xs : List α) :
    (list (xs.map f)).flaw? = none := by
  rw [flaw?_list_eq_none_iff, List.forall_mem_map]
  exact fun x _ => h x

theorem flaw?_object_eq_none_iff (es : List (String × Value)) :
    (object es).flaw? = none ↔ ∀ e ∈ es, e.2.flaw? = none := by
  show flawOfMembers [] (es.map fun e => (.str e.1, e.2)) = none ↔ _
  induction es with
  | nil => simp [flawOfMembers]
  | cons e es ih =>
      rw [List.map_cons, flawOfMembers, Option.or_eq_none_iff, ih, List.forall_mem_cons]
      rfl

/-- What is written of a record with further members has no flaw if no field and no such member has
one. -/
theorem flaw?_written_append {fs : Record.Fields}
    (h : ∀ f ∈ fs, ∀ v, f.2 = some v → v.flaw? = none) {es : List (String × Value)}
    (hes : ∀ e ∈ es, e.2.flaw? = none) :
    (Value.map (keyed (Record.written fs ++ es))).flaw? = none := by
  rw [← object_eq, flaw?_object_eq_none_iff, List.forall_mem_append]
  refine ⟨fun e he => ?_, hes⟩
  obtain ⟨f, hf, he⟩ := List.mem_filterMap.1 he
  obtain ⟨v, hv, rfl⟩ := Option.map_eq_some_iff.1 he
  exact h f hf v hv

theorem flaw?_written {fs : Record.Fields} (h : ∀ f ∈ fs, ∀ v, f.2 = some v → v.flaw? = none) :
    (Value.map (keyed (Record.written fs))).flaw? = none := by
  rw [← List.append_nil (Record.written fs)]
  exact flaw?_written_append h (List.forall_mem_nil _)

theorem flaw?_of_map {α : Type} {x : Option α} {write : α → Value}
    (h : ∀ a, x = some a → (write a).flaw? = none) (v : Value) (hv : x.map write = some v) :
    v.flaw? = none := by
  obtain ⟨a, ha, rfl⟩ := Option.map_eq_some_iff.1 hv
  exact h a ha

theorem flaw?_of_map_all {α : Type} {x : Option α} {write : α → Value}
    (h : ∀ a, (write a).flaw? = none) (v : Value) (hv : x.map write = some v) : v.flaw? = none :=
  flaw?_of_map (fun a _ => h a) v hv

theorem flaw?_numeric (n : Numeric) : n.toValue.flaw? = none := by
  cases n <;> rfl

theorem flaw?_bound (b : Bound) : b.toValue.flaw? = none := by
  cases b with
  | flag b => rfl
  | number n => exact flaw?_numeric n

theorem flaw?_writeList {vs : List Value} (h : ∀ v ∈ vs, v.isJson = true) :
    (Record.writeList vs).flaw? = none := by
  rw [Record.writeList, serialList_of_isJson ((isJsonList_iff vs).2 h), flaw?_list_eq_none_iff]
  exact fun v hv => flaw?_of_isJson (h v hv)

/-! ## Integers with too many digits -/

theorem holdsLong_list (vs : List Value) : (list vs).holdsLong = vs.any holdsLong := by
  show holdsLongList vs = _
  induction vs with
  | nil => rfl
  | cons v vs ih => rw [holdsLongList, ih, List.any_cons]

theorem holdsLong_object (es : List (String × Value)) :
    (object es).holdsLong = es.any fun e => e.2.holdsLong := by
  show holdsLongMembers (es.map fun e => (.str e.1, e.2)) = _
  induction es with
  | nil => rfl
  | cons e es ih =>
      rw [List.map_cons, holdsLongMembers, ih, List.any_cons]
      rfl

/-! ## Serialising -/

variable {limit levels : Nat} {v d : Value}

theorem serialised_eq_ok_iff :
    serialised limit levels v = .ok d ↔ levels ≤ limit ∧ v.flaw? = none ∧ v = d := by
  unfold serialised
  by_cases hlimit : limit < levels
  · rw [if_pos hlimit]
    exact ⟨nofun, fun h => absurd h.1 (Nat.not_le.2 hlimit)⟩
  · rw [if_neg hlimit, and_iff_right (Nat.not_lt.1 hlimit)]
    cases v.flaw? with
    | some f => simp
    | none => simp

/-- Without a flaw only the levels count. -/
theorem serialised_of_flaw?_eq_none (h : v.flaw? = none) (limit levels : Nat) :
    serialised limit levels v = if limit < levels then .error .tooDeep else .ok v := by
  unfold serialised
  rw [h]

theorem writable_eq_ok_iff : v.writable = .ok d ↔ v.holdsLong = false ∧ v = d := by
  unfold writable
  cases v.holdsLong <;> simp

/-! ### Lists in lists -/

/-- An empty list in as many lists. -/
def nest : Nat → Value
  | 0 => .list []
  | n + 1 => .list [nest n]

theorem isJson_nest (n : Nat) : (nest n).isJson = true := by
  induction n with
  | zero => rfl
  | succ n ih => rw [nest, isJson, isJsonList, ih, isJsonList, Bool.and_true]

theorem levels_nest (n : Nat) : (nest n).levels = n + 1 := by
  induction n with
  | zero => rfl
  | succ n ih => rw [nest, Value.levels, levelsOfList, levelsOfList, ih, Nat.max_zero, Nat.add_comm]

end ApiTools.Value
