import ApiTools.Proofs.Value.Json
import ApiTools.Value.Lenient
import ApiTools.Value.Record

set_option autoImplicit false

/-!
# Records are read as they are written

A record is written by leaving out what is not set, and it is read by looking for its keys, each in
two spellings. Nothing is lost in between as long as the written keys are different, no key has its
second spelling among them, and nothing is written as null.
-/

namespace ApiTools

/-! ## Lists -/

/-- What undoes writing for each element undoes it for the list. -/
theorem mapM_map_of_inverse {α β : Type} {write : α → β} {read : β → Option α} {xs : List α}
    (h : ∀ x ∈ xs, read (write x) = some x) : (xs.map write).mapM read = some xs := by
  induction xs with
  | nil => rfl
  | cons x xs ih =>
      rw [List.forall_mem_cons] at h
      rw [List.map_cons, List.mapM_cons, h.1, ih h.2]
      rfl

theorem Value.readTexts?_list (ss : List String) :
    Value.readTexts? (.list (ss.map .str)) = some ss :=
  mapM_map_of_inverse fun _ _ => rfl

/-! ## Records -/

namespace Record

/-- A field of a record: its key, and what is written if it is set. -/
abbrev Fields := List (String × Option Value)

/-- The entries of the fields that are set. -/
def written (fs : Fields) : List (String × Value) :=
  fs.filterMap fun f => f.2.map fun v => (f.1, v)

theorem written_append (fs gs : Fields) : written (fs ++ gs) = written fs ++ written gs :=
  List.filterMap_append

theorem names_written_sublist (fs : Fields) :
    (Named.names (written fs)).Sublist (Named.names fs) := by
  induction fs with
  | nil => exact List.Sublist.refl _
  | cons f fs ih =>
      obtain ⟨k, x⟩ := f
      rw [written, List.filterMap_cons]
      cases x with
      | none => exact ih.cons k
      | some v => exact ih.cons_cons k

/-- Fields with different keys do not hide each other. -/
theorem get?_written {fs : Fields} (h : (Named.names fs).Nodup) (key : String) :
    Named.get? (written fs) key = (Named.get? fs key).join := by
  induction fs with
  | nil => rfl
  | cons f fs ih =>
      obtain ⟨k, x⟩ := f
      rw [Named.names_cons, List.nodup_cons] at h
      rw [Named.get?_cons, written, List.filterMap_cons]
      by_cases hk : k = key
      · rw [if_pos hk]
        cases x with
        | none =>
            -- a field that is not set leaves its key to no other field
            refine (Named.get?_eq_none_iff _ _).2 fun hmem => h.1 ?_
            rw [hk]
            exact (names_written_sublist fs).subset hmem
        | some v => exact (Named.get?_cons (k, v) _ key).trans (if_pos hk)
      · rw [if_neg hk, ← ih h.2]
        cases x with
        | none => rfl
        | some v => exact (Named.get?_cons (k, v) _ key).trans (if_neg hk)

/-- Under some keys a mapping has what the fields of a record say. -/
def Shows (ms : Members) (keys : List String) (fs : Fields) : Prop :=
  ∀ key ∈ keys, Value.member? ms key = (Named.get? fs key).join

/-- A mapping that is written from several records shows each of them. -/
theorem shows_written {whole before fs after : Fields} (hw : whole = before ++ fs ++ after)
    (h : (Named.names whole).Nodup) {keys : List String}
    (hb : ∀ key ∈ keys, key ∉ Named.names before) (ha : ∀ key ∈ keys, key ∉ Named.names after) :
    Shows (Value.keyed (written whole)) keys fs := by
  intro key hkey
  rw [Value.member?_keyed, get?_written h, hw, Named.get?_append, Named.get?_append,
    (Named.get?_eq_none_iff _ _).2 (hb key hkey), (Named.get?_eq_none_iff _ _).2 (ha key hkey),
    Option.none_or, Option.or_none]

variable {α : Type}

/-- A value is not null and read as something. -/
def Reads (read : Value → Option α) (v : Value) (a : α) : Prop := v ≠ .null ∧ read v = some a

variable {ms : Members} {camel snake : String} {read : Value → Option α}

theorem find?_of_some {v : Value} (hc : Value.member? ms camel = some v) :
    find? ms camel snake = some (camel, v) := by
  rw [find?, hc]

/-- What is not there in its first spelling is not there if the second one is the same or not there
either. -/
theorem find?_of_none (hc : Value.member? ms camel = none)
    (hs : snake = camel ∨ Value.member? ms snake = none) : find? ms camel snake = none := by
  have hsnake : Value.member? ms snake = none := by
    rcases hs with rfl | hs
    · exact hc
    · exact hs
  rw [find?, hc, hsnake]
  rfl

/-- A field that may be missing is read as it was written. -/
theorem optional?_eq {x : Option α} {write : α → Value}
    (hr : ∀ a, x = some a → Reads read (write a) a)
    (hc : Value.member? ms camel = x.map write)
    (hs : snake = camel ∨ Value.member? ms snake = none) :
    optional? ms camel snake read = some x := by
  unfold optional?
  cases x with
  | none => rw [find?_of_none hc hs]
  | some a =>
      obtain ⟨hnull, ha⟩ := hr a rfl
      rw [find?_of_some hc]
      split
      · next h => cases h
      · next h =>
        injection h with h
        injection h with _ h
        exact absurd h hnull
      · next h =>
        injection h with h
        injection h with _ h
        rw [← h, ha]
        rfl

theorem needed?_eq {v : Value} {a : α} (hv : read v = some a)
    (hc : Value.member? ms camel = some v) : needed? ms camel snake read = some a := by
  unfold needed? find?
  rw [hc]
  exact hv

theorem orElse?_eq {v : Value} {a substitute : α} (hv : read v = some a)
    (hc : Value.member? ms camel = some v) :
    orElse? ms camel snake substitute read = some a := by
  unfold orElse? find?
  rw [hc]
  exact hv

/-! ### Plain fields -/

theorem reads_text (s : String) : Reads Value.readText? (.str s) s := ⟨by simp, rfl⟩

theorem reads_bool (b : Bool) : Reads Value.readBool? (.bool b) b := ⟨by simp, rfl⟩

theorem reads_int (n : Int) : Reads Value.readInt? (.int n) n := ⟨by simp, rfl⟩

theorem optional?_text {x : Option String} (hc : Value.member? ms camel = x.map .str)
    (hs : snake = camel ∨ Value.member? ms snake = none) :
    optional? ms camel snake Value.readText? = some x :=
  optional?_eq (fun s _ => reads_text s) hc hs

theorem optional?_bool {x : Option Bool} (hc : Value.member? ms camel = x.map .bool)
    (hs : snake = camel ∨ Value.member? ms snake = none) :
    optional? ms camel snake Value.readBool? = some x :=
  optional?_eq (fun b _ => reads_bool b) hc hs

theorem optional?_int {x : Option Int} (hc : Value.member? ms camel = x.map .int)
    (hs : snake = camel ∨ Value.member? ms snake = none) :
    optional? ms camel snake Value.readInt? = some x :=
  optional?_eq (fun n _ => reads_int n) hc hs

theorem reads_numeric (n : Numeric) : Reads Value.readNumeric? n.toValue n := by
  cases n <;> exact ⟨by simp [Numeric.toValue], rfl⟩

theorem optional?_numeric {x : Option Numeric}
    (hc : Value.member? ms camel = x.map Numeric.toValue)
    (hs : snake = camel ∨ Value.member? ms snake = none) :
    optional? ms camel snake Value.readNumeric? = some x :=
  optional?_eq (fun n _ => reads_numeric n) hc hs

theorem reads_bound (b : Bound) : Reads Value.readBound? b.toValue b := by
  rcases b with b | n
  · exact ⟨by simp [Bound.toValue], rfl⟩
  · cases n <;> exact ⟨by simp [Bound.toValue, Numeric.toValue], rfl⟩

theorem optional?_bound {x : Option Bound} (hc : Value.member? ms camel = x.map Bound.toValue)
    (hs : snake = camel ∨ Value.member? ms snake = none) :
    optional? ms camel snake Value.readBound? = some x :=
  optional?_eq (fun b _ => reads_bound b) hc hs

/-- The elements of a list. -/
def writeList (vs : List Value) : Value := .list (Value.serialList vs)

theorem reads_list {vs : List Value} (h : ∀ v ∈ vs, v.isJson = true) :
    Reads Value.readList? (writeList vs) vs := by
  rw [writeList, Value.serialList_of_isJson ((Value.isJsonList_iff vs).2 h)]
  exact ⟨by simp, rfl⟩

end Record

end ApiTools
