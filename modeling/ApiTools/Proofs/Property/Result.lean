import ApiTools.Proofs.Schema.Steps
import ApiTools.Property.Flatten

set_option autoImplicit false

/-!
# When flattening and converting give a result

Each of the functions that go through a schema is looked at for one step: it gives a result if
and only if the functions that it calls for the properties or the items give one.
-/

namespace ApiTools.Property

open Schema

theorem leavesOf_append (xs ys : List Event) :
    leavesOf (xs ++ ys) = leavesOf xs ++ leavesOf ys := List.filterMap_append

theorem leavesOf_notes (ns : List Log.Note) : leavesOf (ns.map Event.note) = [] := by
  induction ns with
  | nil => rfl
  | cons n ns ih => exact ih

@[simp] theorem isOk_ok {ε α : Type} (a : α) : (Except.ok a : Except ε α).isOk = true := rfl

@[simp] theorem isOk_error {ε α : Type} (e : ε) : (Except.error e : Except ε α).isOk = false := rfl

theorem mapError_ok {ε ε' α : Type} (f : ε → ε') (a : α) :
    (Except.ok a : Except ε α).mapError f = .ok a := rfl

theorem mapError_error {ε ε' α : Type} (f : ε → ε') (e : ε) :
    (Except.error e : Except ε α).mapError f = .error (f e) := rfl

theorem isOk_iff {ε α : Type} (r : Except ε α) : r.isOk = true ↔ ∃ a, r = .ok a := by
  cases r <;> simp

/-- The items of an array behind a guard, if it has any, can be converted. -/
def ItemsEnd (reg : Registry) (g : Guard) (s : Schema) : Prop :=
  itemStep reg g s ≠ .unending ∧
    ∀ i g', itemStep reg g s = .into i g' → (convertFrom reg g' i none).isOk = true

theorem itemsEnd_of_none {reg : Registry} {g : Guard} {s : Schema}
    (h : itemStep reg g s = .none) : ItemsEnd reg g s := by
  simp [ItemsEnd, h]

theorem itemsEnd_of_into {reg : Registry} {g g' : Guard} {s i : Schema}
    (h : itemStep reg g s = .into i g') (hi : (convertFrom reg g' i none).isOk = true) :
    ItemsEnd reg g s := by
  simp [ItemsEnd, h, hi]

/-- What converting does in one step. -/
theorem convertFrom_eq (reg : Registry) (g : Guard) (s : Schema) (d : Option String) :
    convertFrom reg g s d = match follow reg g s with
      | .dangling => .ok (plainText (describe [descriptionOf s, d]), followNotes reg g s ++
          [Log.warning ("Dangling reference " ++ s.ref?.getD "None" ++ "; treating as string")])
      | .cycle => .ok (opaqueObject (describe [descriptionOf s, d]), followNotes reg g s)
      | .at t g' =>
        let property := ofSchema (compose reg t) (some (describe [descriptionOf s, d]))
        if isArray (compose reg t) then
          match itemStep reg g' t with
          | .none => .ok (property none, followNotes reg g s)
          | .unending => .error ⟨followNotes reg g s⟩
          | .into i g'' => do
            let (item, notes) ← (convertFrom reg g'' i none).mapError (.after (followNotes reg g s))
            return (property (some item), followNotes reg g s ++ notes)
        else .ok (property none, followNotes reg g s) := by
  rw [convertFrom]
  -- the definition keeps the equation of each match for its termination, the lemma does not
  split
  · next hf => rw [hf]
  · next hf => rw [hf]
  · next t g' hf =>
    rw [hf]
    dsimp only
    congr 1
    split
    · next hi => rw [hi]
    · next hi => rw [hi]
    · next hi => rw [hi]

/-- What holds of a bare text, of a bare object, and of the property of any schema of a kind if it
holds of the one of its items, holds of everything that converting a schema of the kind gives. -/
theorem of_convertFrom_kept {reg : Registry} {Q : Schema → Prop} (hq : IsKept reg Q)
    {P : Property → Prop} (htext : ∀ d, P (plainText d)) (hobject : ∀ d, P (opaqueObject d))
    (hschema : ∀ t d items, Q t → (∀ q, items = some q → P q) →
      P (ofSchema (compose reg t) d items))
    {g : Guard} {s : Schema} (hs : Q s) {d : Option String} {p : Property}
    {notes : List Log.Note} (h : convertFrom reg g s d = .ok (p, notes)) : P p := by
  rw [convertFrom_eq] at h
  match hf : follow reg g s with
  | .dangling =>
      rw [hf] at h
      cases h
      exact htext _
  | .cycle =>
      rw [hf] at h
      cases h
      exact hobject _
  | .at t g' =>
      have ht : Q t := hq.follow hs hf
      rw [hf] at h
      dsimp only at h
      split at h
      · match hi : itemStep reg g' t with
        | .none =>
            rw [hi] at h
            cases h
            exact hschema _ _ _ ht (by simp)
        | .unending =>
            rw [hi] at h
            cases h
        | .into i g'' =>
            rw [hi] at h
            dsimp only at h
            cases hr : convertFrom reg g'' i none with
            | error u =>
                rw [hr] at h
                cases h
            | ok r =>
                rw [hr] at h
                cases h
                refine hschema _ _ _ ht fun q hq' => ?_
                obtain rfl : r.1 = q := Option.some.inj hq'
                exact of_convertFrom_kept hq htext hobject hschema (hq.items ht hi) hr
      · cases h
        exact hschema _ _ _ ht (by simp)
termination_by extent reg g s
decreasing_by exact extent_follow hf (extent_items hi)

/-- What holds of a bare text, of a bare object, and of the property of any schema if it holds of
the one of its items, holds of everything that converting gives. -/
theorem of_convertFrom {P : Property → Prop} (htext : ∀ d, P (plainText d))
    (hobject : ∀ d, P (opaqueObject d))
    (hschema : ∀ s d items, (∀ q, items = some q → P q) → P (ofSchema s d items))
    {reg : Registry} {g : Guard} {s : Schema} {d : Option String} {p : Property}
    {notes : List Log.Note} (h : convertFrom reg g s d = .ok (p, notes)) : P p :=
  of_convertFrom_kept (isKept_true reg) htext hobject (fun _ d items _ => hschema _ d items)
    trivial h

theorem convertFrom_isOk_iff (reg : Registry) (g : Guard) (s : Schema) (d : Option String) :
    (convertFrom reg g s d).isOk = true ↔ ∀ t g', follow reg g s = .at t g' →
      isArray (compose reg t) = true → ItemsEnd reg g' t := by
  rw [convertFrom_eq]
  cases follow reg g s with
  | dangling => simp
  | cycle => simp
  | «at» t g' =>
      dsimp only
      by_cases ha : isArray (compose reg t) = true
      · rw [if_pos ha]
        unfold ItemsEnd
        cases hi : itemStep reg g' t with
        | none => simp [hi, ha]
        | unending => simp [hi, ha]
        | into i g'' =>
            cases hc : convertFrom reg g'' i none with
            | error u => simp [hi, ha, hc, mapError_error, bind, Except.bind]
            | ok r => simp [hi, ha, hc, mapError_ok, bind, Except.bind, pure, Except.pure]
      · rw [if_neg ha]
        simp [ha]

/-! ## Walking through a body -/

theorem eventsAfter_isOk (before : List Event) (r : Except Unending (List Event)) :
    (eventsAfter before r).isOk = r.isOk := by
  cases r <;> rfl

theorem collect_isOk_iff {α : Type} (xs : List α)
    (f : (x : α) → x ∈ xs → Except Unending (List Event)) :
    (collect xs f).isOk = true ↔ ∀ x (hx : x ∈ xs), (f x hx).isOk = true := by
  induction xs with
  | nil => simp [collect]
  | cons x xs ih =>
      have hb : (collect (x :: xs) f).isOk = ((f x List.mem_cons_self).isOk
          && (collect xs fun y hy => f y (List.mem_cons_of_mem x hy)).isOk) := by
        rw [collect]
        cases f x List.mem_cons_self with
        | error u => rfl
        | ok here => exact eventsAfter_isOk _ _
      rw [hb, Bool.and_eq_true, ih]
      constructor
      · rintro ⟨h₁, h₂⟩ y hy
        rcases List.mem_cons.1 hy with rfl | hy'
        · exact h₁
        · exact h₂ y hy'
      · intro h
        exact ⟨h x List.mem_cons_self, fun y hy => h y (List.mem_cons_of_mem x hy)⟩

/-- The events that a result holds, none if there is no result. -/
def eventsIn (r : Except Unending (List Event)) : List Event := r.toOption.getD []

/-- A collection holds the events of all its elements, one after the other. -/
theorem collect_eq_ok {α : Type} {xs : List α} {f : α → Except Unending (List Event)}
    {events : List Event} (h : collect xs (fun x _ => f x) = .ok events) :
    (∀ x ∈ xs, f x = .ok (eventsIn (f x))) ∧ events = xs.flatMap fun x => eventsIn (f x) := by
  induction xs generalizing events with
  | nil =>
      rw [collect] at h
      injection h with h
      exact ⟨by simp, h.symm⟩
  | cons x xs ih =>
      rw [collect] at h
      cases hx : f x with
      | error u => rw [hx] at h; cases h
      | ok here =>
          rw [hx] at h
          cases hc : collect xs fun y _ => f y with
          | error u => rw [hc] at h; cases h
          | ok rest =>
              rw [hc] at h
              obtain ⟨hall, hrest⟩ := ih hc
              have he : here ++ rest = events := by injection h
              constructor
              · intro y hy
                rcases List.mem_cons.1 hy with rfl | hy
                · rw [hx]; rfl
                · exact hall y hy
              · rw [← he, List.flatMap_cons, hx, ← hrest]
                rfl

/-- The walk from a part of a collapsed object on. -/
def walkPart (reg : Registry) (g : Guard) (path : List String) (required : Bool) (s : Schema)
    (p : Part) : Except Unending (List Event) :=
  walk reg (p.guard g) (path ++ [p.name]) (required && s.requiredNames.contains p.name) p.schema

theorem walk_isOk_iff (reg : Registry) (g : Guard) (path : List String) (required : Bool)
    (s : Schema) :
    (walk reg g path required s).isOk = true ↔ ∀ t g', follow reg g s = .at t g' →
      (isNested (compose reg t) = true → ∀ p ∈ parts reg t,
        (walkPart reg g' path required (compose reg t) p).isOk = true) ∧
      (isNested (compose reg t) = false → isArray (compose reg t) = true →
        ItemsEnd reg g' t) := by
  rw [walk]
  split
  · next hf => simp [hf]
  · next hf => simp [hf]
  · next t g' hf =>
    rw [hf]
    dsimp only
    by_cases hn : isNested (compose reg t) = true
    · rw [if_pos hn, eventsAfter_isOk, collect_isOk_iff]
      simp [hn, walkPart]
    · rw [if_neg hn]
      by_cases ha : isArray (compose reg t) = true
      · rw [if_pos ha]
        unfold ItemsEnd
        split
        · next hi => simp [hi, ha, hn]
        · next hi => simp [hi, ha, hn]
        · next i g'' hi =>
          rw [eventsAfter_isOk]
          cases hc : convertFrom reg g'' i none with
          | error u => simp [hi, ha, hn, hc, bind, Except.bind]
          | ok r => simp [hi, ha, hn, hc, bind, Except.bind, pure, Except.pure]
      · rw [if_neg ha]
        simp [ha, hn]

theorem walkBody_isOk_iff (reg : Registry) (s : Schema) :
    (walkBody reg s).isOk = true ↔ ∀ t g, follow reg {} s = .at t g →
      ∀ p ∈ parts reg t, (walkPart reg g [] true (compose reg t) p).isOk = true := by
  unfold walkBody
  dsimp only
  cases hf : follow reg {} s with
  | dangling => simp
  | cycle => simp
  | «at» t g =>
      dsimp only
      rw [eventsAfter_isOk, collect_isOk_iff]
      simp [walkPart]

theorem flatten_isOk (reg : Registry) (s : Schema) :
    (flatten reg s).isOk = (walkBody reg s).isOk := by
  unfold flatten
  cases walkBody reg s <;> rfl

end ApiTools.Property
