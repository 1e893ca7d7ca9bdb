import ApiTools.Proofs.Named
import ApiTools.Proofs.Value.Members
import ApiTools.Value.Serial

set_option autoImplicit false

/-!
# Values of JSON

A document in JSON has texts as keys, each of them once, and nothing in it but null, truth values,
finite numbers, texts, lists and mappings. Such a value is its own serialised form, and everything
that is found in it is such a value again.
-/

namespace ApiTools.Value

/-! ## Members under texts -/

/-- Members under text keys. -/
def keyed (es : List (String × Value)) : Members := es.map fun (k, v) => (.str k, v)

theorem object_eq (es : List (String × Value)) : object es = .map (keyed es) := rfl

theorem member?_keyed (es : List (String × Value)) (key : String) :
    member? (keyed es) key = Named.get? es key := by
  induction es with
  | nil => rfl
  | cons e es ih =>
      rw [Named.get?_cons, ← ih]
      exact member?_cons_str e.1 e.2 (keyed es) key

theorem insertMember_keyed (es : List (String × Value)) (key : String) (v : Value) :
    insertMember (keyed es) (.str key) v = keyed (Named.insert es key v) := by
  induction es with
  | nil => rfl
  | cons e es ih =>
      show insertMember ((.str e.1, e.2) :: keyed es) (.str key) v = _
      rw [insertMember, Named.insert, ih]
      -- two texts are the same key if they are equal
      show (if (e.1 == key) = true then _ else _) = keyed (if (e.1 == key) = true then _ else _)
      split <;> rfl

theorem ofMembers_keyed (es : List (String × Value)) :
    ofMembers (keyed es) = keyed (Named.ofList es) := by
  have hfold : ∀ acc : List (String × Value),
      (keyed es).foldl (fun acc m => insertMember acc m.1 m.2) (keyed acc)
        = keyed (Named.insertAll acc es) := by
    induction es with
    | nil => exact fun _ => rfl
    | cons e es ih =>
        intro acc
        rw [Named.insertAll_cons, ← ih, ← insertMember_keyed]
        rfl
  exact hfold []

/-! ## Values of JSON -/

mutual

/-- Whether a value is one of JSON. -/
def isJson : Value → Bool
  | .null | .bool _ | .int _ | .str _ => true
  | .float x => Number.isFinite x
  | .list xs => isJsonList xs
  | .map ms => isJsonMembers ms
  | .bytes _ | .date _ | .dateTime _ | .pair _ _ | .set _ | .knot _ _ => false

/-- Whether all values of a list are values of JSON. -/
def isJsonList : List Value → Bool
  | [] => true
  | x :: xs => isJson x && isJsonList xs

/-- Whether members have texts as keys, each of them once, and values of JSON under them. -/
def isJsonMembers : Members → Bool
  | [] => true
  | (k, v) :: ms =>
    (match k with
      | .str key => (member? ms key).isNone
      | _ => false) && isJson v && isJsonMembers ms

end

theorem isJsonList_iff (xs : List Value) :
    isJsonList xs = true ↔ ∀ x ∈ xs, x.isJson = true := by
  induction xs with
  | nil => simp [isJsonList]
  | cons x xs ih => rw [isJsonList, Bool.and_eq_true, ih, List.forall_mem_cons]

theorem isJsonMembers_keyed (es : List (String × Value)) :
    isJsonMembers (keyed es) = true ↔
      (Named.names es).Nodup ∧ ∀ e ∈ es, e.2.isJson = true := by
  induction es with
  | nil => simp [keyed, isJsonMembers]
  | cons e es ih =>
      have hnew : (member? (keyed es) e.1).isNone = true ↔ e.1 ∉ Named.names es := by
        rw [member?_keyed, Option.isNone_iff_eq_none, Named.get?_eq_none_iff]
      show ((member? (keyed es) e.1).isNone && isJson e.2 && isJsonMembers (keyed es)) = true ↔ _
      rw [Bool.and_eq_true, Bool.and_eq_true, hnew, ih, Named.names_cons, List.nodup_cons,
        List.forall_mem_cons]
      tauto

/-- Members of JSON stand under texts. -/
theorem exists_keyed {ms : Members} (h : isJsonMembers ms = true) : ∃ es, ms = keyed es := by
  induction ms with
  | nil => exact ⟨[], rfl⟩
  | cons m ms ih =>
      obtain ⟨k, v⟩ := m
      cases k with
      | str key =>
          rw [isJsonMembers, Bool.and_eq_true] at h
          obtain ⟨es, rfl⟩ := ih h.2
          exact ⟨(key, v) :: es, rfl⟩
      | _ => simp [isJsonMembers] at h

theorem isJson_object (es : List (String × Value)) :
    (object es).isJson = true ↔ (Named.names es).Nodup ∧ ∀ e ∈ es, e.2.isJson = true := by
  rw [object_eq, isJson]
  exact isJsonMembers_keyed es

/-! ## Serialised values -/

mutual

/-- A value of JSON is its own serialised form. -/
theorem serial_of_isJson {v : Value} (h : v.isJson = true) : v.serial = v := by
  match v with
  | .null | .bool _ | .int _ | .str _ => rfl
  | .float x =>
      rw [isJson] at h
      rw [serial, if_pos h]
  | .list xs =>
      rw [isJson] at h
      rw [serial, serialList_of_isJson h]
  | .map ms =>
      rw [isJson] at h
      rw [serial, serialMembers_of_isJson h]
      -- every key is there once, so no member is dropped
      obtain ⟨es, rfl⟩ := exists_keyed h
      rw [ofMembers_keyed, Named.ofList_of_nodup ((isJsonMembers_keyed es).1 h).1]

theorem serialList_of_isJson {xs : List Value} (h : isJsonList xs = true) :
    serialList xs = xs := by
  match xs with
  | [] => rfl
  | x :: xs =>
      rw [isJsonList, Bool.and_eq_true] at h
      rw [serialList, serial_of_isJson h.1, serialList_of_isJson h.2]

theorem serialMembers_of_isJson {ms : Members} (h : isJsonMembers ms = true) :
    serialMembers ms = ms := by
  match ms with
  | [] => rfl
  | (.str key, v) :: ms =>
      rw [isJsonMembers, Bool.and_eq_true, Bool.and_eq_true] at h
      rw [serialMembers, serial_of_isJson h.1.2, serialMembers_of_isJson h.2]
      rfl

end

/-! ## What is found in a value -/

theorem isJson_of_mem_members {ms : Members} (h : isJsonMembers ms = true) {m : Value × Value}
    (hm : m ∈ ms) : m.2.isJson = true := by
  obtain ⟨es, rfl⟩ := exists_keyed h
  obtain ⟨e, he, rfl⟩ := List.mem_map.1 hm
  exact ((isJsonMembers_keyed es).1 h).2 e he

theorem mem_of_lookup {ms : Members} {key v : Value} (h : lookup ms key = some v) :
    ∃ k, (k, v) ∈ ms := by
  unfold lookup at h
  obtain ⟨m, hm, rfl⟩ := Option.map_eq_some_iff.1 h
  exact ⟨m.1, List.mem_of_find?_eq_some hm⟩

theorem mem_of_member? {ms : Members} {key : String} {v : Value} (h : member? ms key = some v) :
    (Value.str key, v) ∈ ms := by
  obtain ⟨m, hm, rfl⟩ := Option.map_eq_some_iff.1 h
  have hkey := List.find?_some hm
  change m.1.sameKey (.str key) = true at hkey
  rw [← (sameKey_str_iff m.1 key).1 hkey]
  exact List.mem_of_find?_eq_some hm

/-- In a mapping of JSON each value is found under its key. -/
theorem member?_of_mem {ms : Members} (h : isJsonMembers ms = true) {key : String} {v : Value}
    (hmem : (Value.str key, v) ∈ ms) : member? ms key = some v := by
  obtain ⟨es, rfl⟩ := exists_keyed h
  obtain ⟨e, he, heq⟩ := List.mem_map.1 hmem
  injection heq with hkey hv
  injection hkey with hkey
  rw [member?_keyed]
  exact Named.get?_of_mem ((isJsonMembers_keyed es).1 h).1 (by rw [← hkey, ← hv]; exact he)

theorem isJson_of_member? {ms : Members} (h : isJsonMembers ms = true) {key : String} {v : Value}
    (hv : member? ms key = some v) : v.isJson = true := by
  obtain ⟨k, hk⟩ := mem_of_lookup hv
  exact isJson_of_mem_members h hk

variable {v w : Value}

theorem asMap?_of_isJson {ms : Members} (h : v.isJson = true) (hms : v.asMap? = some ms) :
    isJsonMembers ms = true := by
  cases v with
  | map ns =>
      obtain rfl : ns = ms := Option.some.inj hms
      rwa [isJson] at h
  | knot name w => simp [isJson] at h
  | _ => cases hms

theorem asList?_of_isJson {xs : List Value} (h : v.isJson = true) (hxs : v.asList? = some xs) :
    isJsonList xs = true := by
  cases v with
  | list ys =>
      obtain rfl : ys = xs := Option.some.inj hxs
      rwa [isJson] at h
  | knot name w => simp [isJson] at h
  | _ => cases hxs

theorem readList?_of_isJson {xs : List Value} (h : v.isJson = true) (hxs : v.readList? = some xs) :
    isJsonList xs = true := by
  cases v with
  | list ys =>
      obtain rfl : ys = xs := Option.some.inj hxs
      rwa [isJson] at h
  | knot _ _ | set _ | pair _ _ => simp [isJson] at h
  | _ => cases hxs

theorem isJson_of_get? {key : String} (h : v.isJson = true) (hw : v.get? key = some w) :
    w.isJson = true := by
  rw [get?_eq_bind] at hw
  obtain ⟨ms, hms, hw⟩ := Option.bind_eq_some_iff.1 hw
  exact isJson_of_member? (asMap?_of_isJson h hms) hw

theorem isJson_getD (h : v.isJson = true) (key : String) : (v.getD key).isJson = true := by
  unfold getD
  cases hw : v.get? key with
  | none => rfl
  | some w => exact isJson_of_get? h hw

end ApiTools.Value
