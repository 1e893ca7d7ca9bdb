import ApiTools.Named
import Mathlib.Data.List.Induction
import Mathlib.Data.List.Nodup

set_option autoImplicit false

/-!
# Lists of named things

A list that was put together by adding named things has every name once, and under each name the
thing that was added last. So how many things get lost is a question about the names alone.
-/

namespace ApiTools.Named

variable {α : Type}

@[simp] theorem names_nil : names ([] : List (String × α)) = [] := rfl

@[simp] theorem names_cons (e : String × α) (xs : List (String × α)) :
    names (e :: xs) = e.1 :: names xs := rfl

/-! ## One thing -/

/-- A name that is there keeps its place, a new one goes to the end. -/
theorem names_insert (xs : List (String × α)) (n : String) (x : α) :
    names (insert xs n x) = if n ∈ names xs then names xs else names xs ++ [n] := by
  induction xs with
  | nil => rfl
  | cons e xs ih =>
      unfold insert
      by_cases he : e.1 = n
      · rw [if_pos (by simpa using he), if_pos (by simp [he])]
        rfl
      · -- the name is looked for behind the first one
        rw [if_neg (by simpa using he), names_cons, ih, names_cons]
        have hm : n ∈ e.1 :: names xs ↔ n ∈ names xs := by simp [Ne.symm he]
        simp only [hm]
        split <;> rfl

theorem get?_cons (e : String × α) (xs : List (String × α)) (n : String) :
    get? (e :: xs) n = if e.1 = n then some e.2 else get? xs n := by
  unfold get?
  by_cases he : e.1 = n
  · rw [if_pos he, List.find?_cons_of_pos (by simpa using he)]
    rfl
  · rw [if_neg he, List.find?_cons_of_neg (by simpa using he)]

theorem get?_append (xs ys : List (String × α)) (n : String) :
    get? (xs ++ ys) n = (get? xs n).or (get? ys n) := by
  unfold get?
  rw [List.find?_append]
  cases xs.find? (·.1 == n) <;> rfl

theorem get?_eq_none_iff (xs : List (String × α)) (n : String) :
    get? xs n = none ↔ n ∉ names xs := by
  induction xs with
  | nil => simp [get?]
  | cons e xs ih =>
      rw [get?_cons, names_cons, List.mem_cons, not_or, ← ih]
      by_cases he : e.1 = n
      · simp [he]
      · simp [he, Ne.symm he]

theorem mem_of_get? {xs : List (String × α)} {n : String} {x : α} (h : get? xs n = some x) :
    (n, x) ∈ xs := by
  obtain ⟨e, he, rfl⟩ := Option.map_eq_some_iff.1 h
  have hn : e.1 = n := by simpa using List.find?_some he
  exact hn ▸ List.mem_of_find?_eq_some he

theorem get?_map {β : Type} (f : α → β) (xs : List (String × α)) (n : String) :
    get? (xs.map fun e => (e.1, f e.2)) n = (get? xs n).map f := by
  induction xs with
  | nil => rfl
  | cons e xs ih =>
      rw [List.map_cons, get?_cons, get?_cons, ih]
      split <;> rfl

/-- Dropping or changing things with other names does not matter for a name. -/
theorem get?_filterMap {f : String × α → Option (String × α)} {xs : List (String × α)}
    {n : String} (hname : ∀ e e', f e = some e' → e'.1 = e.1)
    (hkept : ∀ e : String × α, e.1 = n → f e = some e) :
    get? (xs.filterMap f) n = get? xs n := by
  induction xs with
  | nil => rfl
  | cons e xs ih =>
      rw [get?_cons]
      by_cases he : e.1 = n
      · rw [List.filterMap_cons_some (hkept e he), get?_cons, if_pos he, if_pos he]
      · rw [if_neg he]
        cases hf : f e with
        | none => rw [List.filterMap_cons_none hf, ih]
        | some e' =>
            rw [List.filterMap_cons_some hf, get?_cons, if_neg (by rwa [hname e e' hf]), ih]

theorem get?_flatMap {β : Type} (f : β → List (String × α)) (xs : List β) (n : String) :
    get? (xs.flatMap f) n = xs.findSome? fun x => get? (f x) n := by
  induction xs with
  | nil => rfl
  | cons x xs ih =>
      rw [List.flatMap_cons, get?_append, ih, List.findSome?_cons]
      cases get? (f x) n <;> rfl

theorem get?_insert (xs : List (String × α)) (n m : String) (x : α) :
    get? (insert xs n x) m = if n = m then some x else get? xs m := by
  induction xs with
  | nil => exact get?_cons (n, x) [] m
  | cons e xs ih =>
      unfold insert
      by_cases he : e.1 = n
      · rw [if_pos (by simpa using he), get?_cons, get?_cons]
        subst he
        split <;> rfl
      · rw [if_neg (by simpa using he), get?_cons, ih, get?_cons]
        by_cases hm : e.1 = m
        · rw [if_pos hm, if_pos hm, if_neg (by rw [← hm]; exact Ne.symm he)]
        · rw [if_neg hm, if_neg hm]

/-! ## Many things -/

theorem insertAll_cons (xs more : List (String × α)) (e : String × α) :
    insertAll xs (e :: more) = insertAll (insert xs e.1 e.2) more := rfl

theorem nodup_names_insertAll {xs : List (String × α)} (h : (names xs).Nodup)
    (more : List (String × α)) : (names (insertAll xs more)).Nodup := by
  induction more generalizing xs with
  | nil => exact h
  | cons e more ih =>
      rw [insertAll_cons]
      refine ih ?_
      rw [names_insert]
      split
      · exact h
      · next hn => exact List.Nodup.append h (by simp) (by simpa using hn)

theorem mem_names_insertAll (xs more : List (String × α)) (n : String) :
    n ∈ names (insertAll xs more) ↔ n ∈ names xs ∨ n ∈ names more := by
  induction more generalizing xs with
  | nil => simp [insertAll]
  | cons e more ih =>
      rw [insertAll_cons, ih, names_insert, names_cons, List.mem_cons]
      split
      · next he =>
        constructor
        · rintro (h | h)
          · exact .inl h
          · exact .inr (.inr h)
        · rintro (h | rfl | h)
          · exact .inl h
          · exact .inl he
          · exact .inr h
      · rw [List.mem_append, List.mem_singleton, or_assoc]

/-- Of the things with a name the last one counts. -/
theorem get?_insertAll (xs more : List (String × α)) (n : String) :
    get? (insertAll xs more) n = (get? more.reverse n).or (get? xs n) := by
  induction more generalizing xs with
  | nil => rfl
  | cons e more ih =>
      rw [insertAll_cons, ih, get?_insert, List.reverse_cons]
      unfold get?
      rw [List.find?_append]
      cases more.reverse.find? (·.1 == n) with
      | some f => rfl
      | none =>
          by_cases he : e.1 = n
          · simp [he]
          · simp [he]

/-- Changing things without their names does not matter for their order. -/
theorem insert_map {β : Type} (f : α → β) (xs : List (String × α)) (n : String) (x : α) :
    (insert xs n x).map (fun e => (e.1, f e.2))
      = insert (xs.map fun e => (e.1, f e.2)) n (f x) := by
  induction xs with
  | nil => rfl
  | cons e xs ih =>
      rw [List.map_cons]
      unfold insert
      by_cases he : e.1 = n
      · rw [if_pos (by simpa using he), if_pos (by simpa using he)]
        rfl
      · rw [if_neg (by simpa using he), if_neg (by simpa using he), List.map_cons, ih]

theorem insertAll_map {β : Type} (f : α → β) (xs more : List (String × α)) :
    (insertAll xs more).map (fun e => (e.1, f e.2))
      = insertAll (xs.map fun e => (e.1, f e.2)) (more.map fun e => (e.1, f e.2)) := by
  induction more generalizing xs with
  | nil => rfl
  | cons e more ih => rw [insertAll_cons, ih, insert_map, List.map_cons, insertAll_cons]

theorem ofList_map {β : Type} (f : α → β) (xs : List (String × α)) :
    (ofList xs).map (fun e => (e.1, f e.2)) = ofList (xs.map fun e => (e.1, f e.2)) :=
  insertAll_map f [] xs

theorem nodup_names_ofList (xs : List (String × α)) : (names (ofList xs)).Nodup := by
  have h : (names ([] : List (String × α))).Nodup := List.nodup_nil
  exact nodup_names_insertAll h xs

theorem insert_of_not_mem {xs : List (String × α)} {n : String} (x : α) (h : n ∉ names xs) :
    insert xs n x = xs ++ [(n, x)] := by
  induction xs with
  | nil => rfl
  | cons e xs ih =>
      rw [names_cons, List.mem_cons, not_or] at h
      rw [insert, if_neg (by simpa using Ne.symm h.1), ih h.2, List.cons_append]

theorem insertAll_of_nodup {xs more : List (String × α)} (h : (names (xs ++ more)).Nodup) :
    insertAll xs more = xs ++ more := by
  induction more generalizing xs with
  | nil => exact (List.append_nil xs).symm
  | cons e more ih =>
      have hsplit : xs ++ e :: more = (xs ++ [(e.1, e.2)]) ++ more := by simp
      have hn : e.1 ∉ names xs := by
        intro hmem
        rw [names, List.map_append] at h
        exact List.disjoint_of_nodup_append h hmem List.mem_cons_self
      rw [insertAll_cons, insert_of_not_mem e.2 hn, hsplit]
      exact ih (hsplit ▸ h)

/-- If no name is added twice, the list stays what it is. -/
theorem ofList_of_nodup {xs : List (String × α)} (h : (names xs).Nodup) : ofList xs = xs :=
  insertAll_of_nodup h

theorem mem_names_ofList (xs : List (String × α)) (n : String) :
    n ∈ names (ofList xs) ↔ n ∈ names xs := by
  unfold ofList
  rw [mem_names_insertAll]
  simp

theorem get?_ofList (xs : List (String × α)) (n : String) :
    get? (ofList xs) n = get? xs.reverse n := by
  unfold ofList
  rw [get?_insertAll]
  exact Option.or_none

/-- The last thing that is added under a name is found under it. -/
theorem get?_ofList_append_cons (before : List (String × α)) {after : List (String × α)}
    {n : String} (x : α) (h : n ∉ names after) :
    get? (ofList (before ++ (n, x) :: after)) n = some x := by
  have hafter : get? after.reverse n = none := by
    rw [get?_eq_none_iff]
    unfold names
    rwa [List.map_reverse, List.mem_reverse]
  rw [get?_ofList, List.reverse_append, List.reverse_cons, List.append_assoc, get?_append, hafter,
    Option.none_or, List.singleton_append, get?_cons, if_pos rfl]

theorem mem_of_mem_insert {xs : List (String × α)} {n : String} {x : α} {e : String × α}
    (h : e ∈ insert xs n x) : e ∈ xs ∨ e = (n, x) := by
  induction xs with
  | nil => exact .inr (List.mem_singleton.1 h)
  | cons f xs ih =>
      unfold insert at h
      by_cases hf : f.1 = n
      · rw [if_pos (by simpa using hf)] at h
        rcases List.mem_cons.1 h with rfl | h
        · exact .inr (by rw [hf])
        · exact .inl (List.mem_cons_of_mem f h)
      · rw [if_neg (by simpa using hf)] at h
        rcases List.mem_cons.1 h with rfl | h
        · exact .inl List.mem_cons_self
        · exact (ih h).imp (List.mem_cons_of_mem f) id

theorem mem_of_mem_insertAll {xs more : List (String × α)} {e : String × α}
    (h : e ∈ insertAll xs more) : e ∈ xs ∨ e ∈ more := by
  induction more generalizing xs with
  | nil => exact .inl h
  | cons f more ih =>
      rw [insertAll_cons] at h
      rcases ih h with h | h
      · rcases mem_of_mem_insert h with h | rfl
        · exact .inl h
        · exact .inr List.mem_cons_self
      · exact .inr (List.mem_cons_of_mem f h)

theorem mem_of_mem_ofList {xs : List (String × α)} {e : String × α} (h : e ∈ ofList xs) :
    e ∈ xs := by
  rcases mem_of_mem_insertAll h with h | h
  · cases h
  · exact h

/-- Under a name that was added there is the thing behind which the name was not added again. -/
theorem get?_ofList_of_mem {xs : List (String × α)} {n : String} (h : n ∈ names xs) :
    ∃ before x after, xs = before ++ (n, x) :: after ∧ n ∉ names after ∧
      get? (ofList xs) n = some x := by
  rw [get?_ofList]
  unfold get?
  have hsome : (xs.reverse.find? (·.1 == n)).isSome := by
    rw [List.find?_isSome]
    obtain ⟨e, he, hn⟩ := List.mem_map.1 h
    exact ⟨e, List.mem_reverse.2 he, by simpa using hn⟩
  obtain ⟨e, he⟩ := Option.isSome_iff_exists.1 hsome
  obtain ⟨hn, later, earlier, hxs, hl⟩ := List.find?_eq_some_iff_append.1 he
  have hn : e.1 = n := by simpa using hn
  refine ⟨earlier.reverse, e.2, later.reverse, ?_, ?_, by rw [he]; rfl⟩
  · rw [← List.reverse_reverse xs, hxs, ← hn]
    simp
  · intro hm
    obtain ⟨f, hf, hfn⟩ := List.mem_map.1 hm
    have := hl f (List.mem_reverse.1 hf)
    simp [hfn] at this

/-- If no name was added twice, each thing is found under its name. -/
theorem get?_ofList_of_nodup {xs : List (String × α)} (h : (names xs).Nodup) {n : String} {x : α}
    (hx : (n, x) ∈ xs) : get? (ofList xs) n = some x := by
  obtain ⟨before, y, after, rfl, -, hget⟩ :=
    get?_ofList_of_mem (List.mem_map_of_mem hx : n ∈ names xs)
  have hy : (n, y) ∈ before ++ (n, y) :: after :=
    List.mem_append_right before List.mem_cons_self
  have hsame : (n, x) = (n, y) := List.inj_on_of_nodup_map h hx hy rfl
  rw [hget, (Prod.mk.inj hsame).2]

theorem get?_of_mem {xs : List (String × α)} (h : (names xs).Nodup) {n : String} {x : α}
    (hx : (n, x) ∈ xs) : get? xs n = some x := by
  rw [← get?_ofList_of_nodup h hx, ofList_of_nodup h]

/-! ## Names alone -/

theorem mem_distinct (ns : List String) (n : String) : n ∈ distinct ns ↔ n ∈ ns := by
  have hfold : ∀ acc : List String,
      n ∈ ns.foldl (fun acc n => if acc.contains n then acc else n :: acc) acc ↔
        n ∈ acc ∨ n ∈ ns := by
    induction ns with
    | nil => simp
    | cons m ns ih =>
        intro acc
        rw [List.foldl_cons, ih, List.mem_cons]
        by_cases hm : m ∈ acc
        · rw [if_pos (by simpa using hm)]
          constructor
          · rintro (hn | hn)
            · exact .inl hn
            · exact .inr (.inr hn)
          · rintro (hn | rfl | hn)
            · exact .inl hn
            · exact .inl hm
            · exact .inr hn
        · rw [if_neg (by simpa using hm), List.mem_cons]
          tauto
  unfold distinct
  rw [List.mem_reverse, hfold []]
  simp

theorem distinct_append_singleton (ns : List String) (n : String) :
    distinct (ns ++ [n]) = distinct ns ++ if n ∈ ns then [] else [n] := by
  have hmem := mem_distinct ns n
  unfold distinct at hmem ⊢
  rw [List.mem_reverse] at hmem
  rw [List.foldl_append, List.foldl_cons, List.foldl_nil]
  by_cases hn : n ∈ ns
  · rw [if_pos (by simpa using hmem.2 hn), if_pos hn, List.append_nil]
  · rw [if_neg (by simpa using fun h => hn (hmem.1 h)), if_neg hn, List.reverse_cons]

/-- Each name is kept where it first comes up. -/
theorem distinct_eq_eraseDups (ns : List String) : distinct ns = ns.eraseDups := by
  induction ns using List.reverseRecOn with
  | nil => rfl
  | append_singleton ns n ih =>
      rw [distinct_append_singleton, ih, List.eraseDups_append]
      congr 1
      unfold List.removeAll
      by_cases hn : n ∈ ns
      · simp [hn]
      · simp [hn, List.eraseDups_cons]

/-- The names of what was put together are those that were added, in the order in which they first
came up. -/
theorem names_ofList (xs : List (String × α)) : names (ofList xs) = distinct (names xs) := by
  induction xs using List.reverseRecOn with
  | nil => rfl
  | append_singleton xs e ih =>
      have hadd : ofList (xs ++ [e]) = insert (ofList xs) e.1 e.2 := by
        unfold ofList insertAll
        rw [List.foldl_append]
        rfl
      have hnames : names (xs ++ [e]) = names xs ++ [e.1] := List.map_append
      rw [hadd, names_insert, hnames, distinct_append_singleton, ih]
      by_cases he : e.1 ∈ names xs
      · rw [if_pos ((mem_distinct _ _).2 he), if_pos he, List.append_nil]
      · rw [if_neg (fun h => he ((mem_distinct _ _).1 h)), if_neg he]

theorem nodup_distinct (ns : List String) : (distinct ns).Nodup := by
  have hfold : ∀ acc : List String, acc.Nodup →
      (ns.foldl (fun acc n => if acc.contains n then acc else n :: acc) acc).Nodup := by
    induction ns with
    | nil => exact fun _ h => h
    | cons m ns ih =>
        intro acc h
        rw [List.foldl_cons]
        refine ih _ ?_
        by_cases hm : m ∈ acc
        · rw [if_pos (by simpa using hm)]
          exact h
        · rw [if_neg (by simpa using hm)]
          exact List.nodup_cons.2 ⟨hm, h⟩
  unfold distinct
  exact List.nodup_reverse.2 (hfold [] List.nodup_nil)

end ApiTools.Named
