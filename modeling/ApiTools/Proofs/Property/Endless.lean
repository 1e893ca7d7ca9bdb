import ApiTools.Proofs.Property.Descent
import ApiTools.Proofs.Property.Result

set_option autoImplicit false

/-!
# Ways without an end

Flattening a body or converting a value gives a result if and only if no way through the schema
is endless, and a way is endless if and only if borrowed items lead back to the array that borrows
them. The functions themselves find that out by remembering the variants whose items were taken
since the last entry: what they remember lies before the visit they are at (`Remembers`), so that
taking the items of a remembered variant again closes a loop.
-/

namespace ApiTools.Property

open Schema Relation

/-! ## A result means that every way ends -/

/-- The visits on ways through a visit can be exhausted. -/
def Ends (reg : Registry) (v : Visit) : Prop := Acc (fun w v => Inside reg v w) v

theorem ends_of_itemsEnd {reg : Registry} {g : Guard} {t i : Schema}
    (h : ItemsEnd reg g t) (hi : (compose reg t).items = .given i)
    (ih : ∀ j g', itemStep reg g t = .into j g' → (convertFrom reg g' j none).isOk = true →
      Ends reg ⟨.value, g'.visited, j⟩) :
    Ends reg ⟨.value, g.visited, i⟩ := by
  have hstep : ∀ j g', itemStep reg g t = .into j g' → (compose reg t).items = .given j →
      g'.visited = g.visited → Ends reg ⟨.value, g.visited, i⟩ := by
    intro j g' hs hj hg
    have hij : i = j := by
      rw [hi] at hj
      injection hj
    rw [hij, ← hg]
    exact ih j g' hs (h.2 j g' hs)
  rcases itemStep_cases reg g t with ⟨-, hne⟩ | ⟨j, hs, hj, -⟩ | ⟨n, j, hb, ⟨-, hs⟩ | ⟨-, hs⟩⟩
  · exact absurd hi (hne i)
  · exact hstep j g hs hj rfl
  · exact absurd hs h.1
  · exact hstep j (g.take n) hs hb.compose_items rfl

theorem ends_of_convertFrom_isOk {reg : Registry} (g : Guard) (s : Schema) (d : Option String)
    (h : (convertFrom reg g s d).isOk = true) : Ends reg ⟨.value, g.visited, s⟩ := by
  rw [convertFrom_isOk_iff] at h
  refine Acc.intro _ fun w hw => ?_
  rcases hw with ⟨p, r, ⟨-, ho, -⟩⟩ | hw
  · -- a value is not taken apart
    rcases ho with ho | ⟨ho, -⟩ <;> cases ho
  · obtain ⟨hv, ⟨-, ha⟩, hi⟩ := hw
    obtain ⟨g', hf, he⟩ := Visit.follow_at hv
    -- the visit forgets what was taken, so the result is carried over along the entries
    rw [← he]
    exact ends_of_itemsEnd (h _ g' hf ha) hi fun j g'' hs hj =>
      ends_of_convertFrom_isOk g'' j none hj
termination_by extent reg g s
decreasing_by exact extent_follow hf (extent_items hs)

theorem ends_of_walk_isOk {reg : Registry} (g : Guard) (path : List String) (required : Bool)
    (s : Schema) (h : (walk reg g path required s).isOk = true) :
    Ends reg ⟨.inside, g.visited, s⟩ := by
  rw [walk_isOk_iff] at h
  refine Acc.intro _ fun w hw => ?_
  rcases hw with ⟨p, r, hw⟩ | hw
  · obtain @⟨t, h', p, hv, ho, hp⟩ := hw
    obtain ⟨g', hf, he⟩ := Visit.follow_at hv
    have hn : isNested (compose reg t) = true := by
      rcases ho with ho | ⟨-, hn⟩
      · cases ho
      · exact hn
    rw [← Part.visited_guard he]
    exact ends_of_walk_isOk (p.guard g') _ _ p.schema ((h t g' hf).1 hn p hp)
  · obtain @⟨t, i, h', hv, ⟨-, ha⟩, hi⟩ := hw
    obtain ⟨g', hf, he⟩ := Visit.follow_at hv
    rw [← he]
    exact ends_of_itemsEnd ((h t g' hf).2 (isNested_eq_false_of_isArray ha) ha) hi
      fun j g'' _ hj => ends_of_convertFrom_isOk g'' j none hj
termination_by extent reg g s
decreasing_by exact extent_follow hf (extent_part hp (follow_names hf))

theorem ends_of_flatten_isOk {reg : Registry} {s : Schema} (h : (flatten reg s).isOk = true) :
    Ends reg ⟨.body, [], s⟩ := by
  rw [flatten_isOk, walkBody_isOk_iff] at h
  refine Acc.intro _ fun w hw => ?_
  rcases hw with ⟨p, r, @⟨t, g, p, hv, -, hp⟩⟩ | ⟨-, ⟨hm, -⟩, -⟩
  · exact ends_of_walk_isOk (p.guard g) _ _ p.schema (h t g hv p hp)
  · exact absurd rfl hm

/-! ## No result means that a way loops -/

/-- The items of the variants that a guard remembers as taken lie before a visit on its way. -/
def Remembers (reg : Registry) (g : Guard) (v : Visit) : Prop :=
  ∀ n ∈ g.taken, ∀ e i, reg.get? n = some e → e.items = .given i →
    ReflTransGen (Inside reg) ⟨.value, g.visited, i⟩ v

theorem remembers_of_taken_eq_nil {reg : Registry} {g : Guard} {v : Visit} (h : g.taken = []) :
    Remembers reg g v := by
  intro n hn
  rw [h] at hn
  cases hn

theorem Remembers.follow {reg : Registry} {g g' : Guard} {v : Visit} {s t : Schema}
    (h : Remembers reg g v) (hf : follow reg g s = .at t g') : Remembers reg g' v := by
  rcases follow_at_cases hf with ⟨-, -, rfl⟩ | ⟨n, -, -, -, rfl⟩
  · exact h
  · -- entering something forgets what was taken
    exact remembers_of_taken_eq_nil rfl

theorem Remembers.part {reg : Registry} {g : Guard} {v w : Visit} (h : Remembers reg g v)
    (hvw : Inside reg v w) (p : Part) : Remembers reg (p.guard g) w := by
  unfold Part.guard
  cases p.origin with
  | none => exact fun n hn e i he hi => (h n hn e i he hi).tail hvw
  | some n => exact remembers_of_taken_eq_nil rfl

/-- The items of an array that cannot be converted are borrowed and loop, if those loop that
cannot be converted behind a step. -/
theorem loops_of_not_itemsEnd {reg : Registry} {g : Guard} {v : Visit} {t : Schema}
    (hr : Remembers reg g v) (hu : v.Unpacks (compose reg t))
    (hv : ∃ h, v.place reg = .at t h ∧ h.visited = g.visited) (h : ¬ ItemsEnd reg g t)
    (ih : ∀ j g', itemStep reg g t = .into j g' → Remembers reg g' ⟨.value, g'.visited, j⟩ →
      (convertFrom reg g' j none).isOk ≠ true → Loops reg ⟨.value, g'.visited, j⟩) :
    Loops reg v := by
  obtain ⟨k, hk, hkg⟩ := hv
  have hitems : ∀ i, (compose reg t).items = .given i → Inside reg v ⟨.value, g.visited, i⟩ :=
    fun i hi => hkg ▸ .inr (.intro hk hu hi)
  -- a step that is not refused leads to items that cannot be converted
  have hinto : ∀ j g', itemStep reg g t = .into j g' → (convertFrom reg g' j none).isOk ≠ true :=
    fun j g' hs hj => h (itemsEnd_of_into hs hj)
  rcases itemStep_cases reg g t with ⟨hs, -⟩ | ⟨j, hs, hj, -⟩ | ⟨n, j, hb, ⟨hn, -⟩ | ⟨hn, hs⟩⟩
  · exact absurd (itemsEnd_of_none hs) h
  · have hw := hitems j hj
    refine (ih j g hs ?_ (hinto j g hs)).of_inside hw
    exact fun n hn e i he hi => (hr n hn e i he hi).tail hw
  · -- the variant was taken before, so its items lie before this visit and after it
    obtain ⟨e, he, hi⟩ := hb.entry
    exact ⟨v, ⟨.value, g.visited, j⟩, n, .refl, hkg ▸ .intro hk hu hb, hr n hn e j he hi⟩
  · have hw := hitems j hb.compose_items
    refine (ih j (g.take n) hs ?_ (hinto j _ hs)).of_inside hw
    -- what is taken now lies at the next visit, what was taken before lies before this one
    intro m hm e i he hi
    rcases List.mem_cons.1 hm with rfl | hm
    · obtain ⟨e', he', hi'⟩ := hb.entry
      obtain rfl : e = e' := by rw [he] at he'; injection he'
      obtain rfl : i = j := by rw [hi] at hi'; injection hi'
      exact .refl
    · exact (hr m hm e i he hi).tail hw

theorem loops_of_convertFrom_not_isOk {reg : Registry} (g : Guard) (s : Schema)
    (d : Option String) (hr : Remembers reg g ⟨.value, g.visited, s⟩)
    (h : (convertFrom reg g s d).isOk ≠ true) : Loops reg ⟨.value, g.visited, s⟩ := by
  rw [ne_eq, convertFrom_isOk_iff] at h
  push Not at h
  obtain ⟨t, g', hf, ha, hi⟩ := h
  exact loops_of_not_itemsEnd (hr.follow hf) ⟨by simp, ha⟩ (Visit.place_at hf) hi
    fun j g'' hs hj hn => loops_of_convertFrom_not_isOk g'' j none hj hn
termination_by extent reg g s
decreasing_by exact extent_follow hf (extent_items hs)

theorem loops_of_walk_not_isOk {reg : Registry} (g : Guard) (path : List String)
    (required : Bool) (s : Schema) (hr : Remembers reg g ⟨.inside, g.visited, s⟩)
    (h : (walk reg g path required s).isOk ≠ true) : Loops reg ⟨.inside, g.visited, s⟩ := by
  rw [ne_eq, walk_isOk_iff] at h
  push Not at h
  obtain ⟨t, g', hf, h⟩ := h
  obtain ⟨k, hk, hkg⟩ := Visit.place_at hf (m := .inside)
  by_cases hn : isNested (compose reg t) = true
  · have hpart : ∃ p ∈ parts reg t,
        (walkPart reg g' path required (compose reg t) p).isOk ≠ true := by
      by_contra hc
      push Not at hc
      obtain ⟨hn', -⟩ := h fun _ => hc
      rw [hn] at hn'
      cases hn'
    obtain ⟨p, hp, hpn⟩ := hpart
    have hw : Inside reg ⟨.inside, g.visited, s⟩ ⟨.inside, (p.guard g').visited, p.schema⟩ := by
      rw [← Part.visited_guard hkg]
      exact .inl ⟨p, _, .intro hk (.inr ⟨rfl, hn⟩) hp⟩
    exact (loops_of_walk_not_isOk (p.guard g') _ _ p.schema ((hr.follow hf).part hw p)
      hpn).of_inside hw
  · obtain ⟨-, ha, hi⟩ := h fun h => absurd h hn
    exact loops_of_not_itemsEnd (hr.follow hf) ⟨by simp, ha⟩ ⟨k, hk, hkg⟩ hi
      fun j g'' _ hj hn => loops_of_convertFrom_not_isOk g'' j none hj hn
termination_by extent reg g s
decreasing_by exact extent_follow hf (extent_part hp (follow_names hf))

theorem loops_of_flatten_not_isOk {reg : Registry} {s : Schema}
    (h : (flatten reg s).isOk ≠ true) : Loops reg ⟨.body, [], s⟩ := by
  rw [ne_eq, flatten_isOk, walkBody_isOk_iff] at h
  push Not at h
  obtain ⟨t, g, hf, p, hp, hpn⟩ := h
  have hw : Inside reg ⟨.body, [], s⟩ ⟨.inside, (p.guard g).visited, p.schema⟩ :=
    .inl ⟨p, _, .intro hf (.inl rfl) hp⟩
  have hr : Remembers reg g ⟨.body, [], s⟩ := (remembers_of_taken_eq_nil rfl).follow hf
  exact (loops_of_walk_not_isOk (p.guard g) _ _ p.schema (hr.part hw p) hpn).of_inside hw

/-! ## A loop is an endless way -/

theorem Ends.of_reflTransGen {reg : Registry} {v w : Visit} (h : Ends reg v)
    (hvw : ReflTransGen (Inside reg) v w) : Ends reg w := by
  induction hvw with
  | refl => exact h
  | tail _ hab ih => exact ih.inv hab

theorem Ends.not_transGen {reg : Registry} {v : Visit} (h : Ends reg v) :
    ¬ TransGen (Inside reg) v v := by
  induction h with
  | intro v _ ih =>
      intro hc
      obtain ⟨w, hvw, hwv⟩ := TransGen.head'_iff.1 hc
      exact ih w hvw (TransGen.tail' hwv hvw)

theorem Ends.not_loops {reg : Registry} {v : Visit} (h : Ends reg v) : ¬ Loops reg v := by
  rintro ⟨a, b, n, hva, hab, hba⟩
  exact (h.of_reflTransGen hva).not_transGen (TransGen.head' hab.inside hba)

/-- There is a way through the schema of a visit that never comes to an end. -/
def Endless (reg : Registry) (v : Visit) : Prop :=
  ∃ way : ℕ → Visit, way 0 = v ∧ ∀ n, Inside reg (way n) (way (n + 1))

theorem endless_iff_not_ends {reg : Registry} {v : Visit} : Endless reg v ↔ ¬ Ends reg v := by
  unfold Endless Ends
  exact (not_acc_iff_exists_descending_chain (r := fun w v => Inside reg v w)).symm

/-- A function that gives a result only if all ways end, and no result only if a way loops, tells
the endless ways apart. -/
theorem isOk_iff_not_endless {α : Type} {reg : Registry} {v : Visit} {r : Except Unending α}
    (hends : r.isOk = true → Ends reg v) (hloops : r.isOk ≠ true → Loops reg v) :
    ((∃ a, r = .ok a) ↔ ¬ Endless reg v) ∧ (Endless reg v ↔ Loops reg v) := by
  rw [← isOk_iff, endless_iff_not_ends, not_not]
  have hl : Ends reg v → ¬ Loops reg v := Ends.not_loops
  by_cases h : r.isOk = true
  · have he := hends h
    exact ⟨iff_of_true h he, iff_of_false (not_not.2 he) (hl he)⟩
  · have hv := hloops h
    exact ⟨iff_of_false h fun he => hl he hv, iff_of_true (fun he => hl he hv) hv⟩

theorem flatten_isOk_iff {reg : Registry} {s : Schema} :
    (flatten reg s).isOk = true ↔ ¬ Loops reg ⟨.body, [], s⟩ := by
  constructor
  · intro h
    exact (ends_of_flatten_isOk h).not_loops
  · intro h
    by_contra hn
    exact h (loops_of_flatten_not_isOk hn)

theorem convert_isOk_iff {reg : Registry} {s : Schema} {d : Option String} :
    (convert reg (some s) d).isOk = true ↔ ¬ Loops reg ⟨.value, [], s⟩ := by
  constructor
  · intro h
    exact (ends_of_convertFrom_isOk {} s d h).not_loops
  · intro h
    by_contra hn
    exact h (loops_of_convertFrom_not_isOk {} s d (remembers_of_taken_eq_nil rfl) hn)

/-! ## Results -/

/-- **Flattening and converting give a result exactly where no way is endless, and that is where
no borrowed items loop.** Every other step shrinks the schema or enters something new. -/
theorem result_iff_not_loops (reg : Registry) (s : Schema) (d : Option String) :
    ((∃ r, flatten reg s = .ok r) ↔ ¬ Endless reg ⟨.body, [], s⟩) ∧
      (Endless reg ⟨.body, [], s⟩ ↔ Loops reg ⟨.body, [], s⟩) ∧
      ((∃ r, convert reg (some s) d = .ok r) ↔ ¬ Endless reg ⟨.value, [], s⟩) ∧
      (Endless reg ⟨.value, [], s⟩ ↔ Loops reg ⟨.value, [], s⟩) ∧
      (∃ r, convert reg none d = .ok r) ∧
      ∀ v w, Inside reg v w → Shrinks v w ∨ Deepens reg v w ∨ ∃ n, Borrows reg v n w := by
  obtain ⟨hf, hfl⟩ := isOk_iff_not_endless (r := flatten reg s) ends_of_flatten_isOk
    loops_of_flatten_not_isOk
  obtain ⟨hc, hcl⟩ := isOk_iff_not_endless (r := convert reg (some s) d)
    (ends_of_convertFrom_isOk {} s d)
    (loops_of_convertFrom_not_isOk {} s d (remembers_of_taken_eq_nil rfl))
  exact ⟨hf, hfl, hc, hcl, ⟨_, rfl⟩, fun v w h => h.cases⟩

/-! ### An array of its own kind -/

/-- The reference to an entry, as the only variant of a schema. -/
def variantOf (name : String) : Schema :=
  .mk {} .absent .absent .absent
    (.given [.plain { ref := .given ("#/components/schemas/" ++ name) }]) .absent .absent

/-- An entry of arrays whose items are again a variant of that entry. -/
def rows : Registry :=
  [("Rows", .mk { type := .given (.one "array") } .absent (.given (variantOf "Rows"))
    .absent .absent .absent .absent)]

/-- An object with one property. -/
def objectOf (name : String) (s : Schema) : Schema :=
  .mk {} (.given [(name, s)]) .absent .absent .absent .absent .absent

theorem rows_borrows (m : Mode) (h : m ≠ .body) :
    Borrows rows ⟨m, [], variantOf "Rows"⟩ "Rows" ⟨.value, [], variantOf "Rows"⟩ :=
  .intro (g := {}) rfl ⟨h, rfl⟩ ⟨⟨some "Rows", _⟩, rfl, rfl, rfl⟩

/-- Neither a value nor a body that is made of such arrays gives a result. -/
theorem rows_endless :
    (¬ ∃ r, flatten rows (objectOf "rows" (variantOf "Rows")) = .ok r) ∧
      ¬ ∃ r, convert rows (some (variantOf "Rows")) none = .ok r := by
  have hb := rows_borrows .value (by decide)
  have hv : Loops rows ⟨.value, [], variantOf "Rows"⟩ := ⟨_, _, _, .refl, hb, .refl⟩
  refine ⟨fun h => ?_, fun h => ?_⟩
  · have hp : Inside rows ⟨.body, [], objectOf "rows" (variantOf "Rows")⟩
        ⟨.inside, [], variantOf "Rows"⟩ :=
      .inl ⟨⟨"rows", none, variantOf "Rows"⟩, _, .intro (g := {}) rfl (.inl rfl) List.mem_cons_self⟩
    have hi := (rows_borrows .inside (by decide)).inside
    exact (ends_of_flatten_isOk ((isOk_iff _).2 h)).not_loops ((hv.of_inside hi).of_inside hp)
  · exact (ends_of_convertFrom_isOk {} _ none ((isOk_iff _).2 h)).not_loops hv

end ApiTools.Property
