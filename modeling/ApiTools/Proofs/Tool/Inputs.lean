import ApiTools.Api.Reader
import ApiTools.Proofs.Property.Endless
import ApiTools.Proofs.Property.Leaves
import ApiTools.Tool.Inputs

set_option autoImplicit false

/-!
# Where the inputs of a tool come from

An operation takes values from its path, its query, its headers and its body, and may take values
of one name from several of them. The inputs have one property for each name. It carries exactly
one mark, that of the last location from which a value of the name is taken, so a path parameter
keeps its mark if and only if its name is taken from the path alone. The name itself stays
required.
-/

namespace ApiTools

open Property (Unending Visit Loops)

/-! ## Marks -/

/-- The place of a location in the order in which inputs are collected. -/
def Location.rank : Location → Nat
  | path => 0
  | query => 1
  | header => 2
  | body => 3

namespace Property

/-- A property without a mark gets the mark of a location and no other. -/
theorem locations_withLocation {p : Property} (h : p.locations = []) (l : Location) :
    (p.withLocation l).locations = [l] := by
  unfold locations at h
  simp only [List.append_eq_nil_iff] at h
  obtain ⟨⟨⟨h₁, h₂⟩, h₃⟩, h₄⟩ := h
  cases p <;> cases l <;>
    simp_all [locations, withLocation, updateTraits, withTraits, traits]

theorem isPathParam_iff (p : Property) :
    p.traits.isPathParam = some true ↔ .path ∈ p.locations := by
  unfold locations
  by_cases h : p.traits.isPathParam = some true
  · simp [h]
  · simp [h]

theorem locations_withPlace (p : Property) (path : List String) :
    (p.withPlace path).locations = p.locations := by
  unfold withPlace
  split
  · cases p <;> rfl
  · rfl

theorem locations_ofSchema (s : Schema) (d : Option String) (items : Option Property) :
    (ofSchema s d items).locations = [] := by
  have ht : (ofSchema s d items).traits = traitsOf s d := by
    unfold ofSchema
    dsimp only
    repeat' split
    all_goals rfl
  unfold locations
  rw [ht]
  rfl

/-- Converting a schema marks no location. -/
theorem locations_of_convertFrom {reg : Registry} {g : Schema.Guard} {s : Schema}
    {d : Option String} {p : Property} {notes : List Log.Note}
    (h : convertFrom reg g s d = .ok (p, notes)) : p.locations = [] :=
  of_convertFrom (P := fun p => p.locations = []) (fun _ => rfl) (fun _ => rfl)
    (fun s d items _ => locations_ofSchema s d items) h

theorem locations_of_convert {reg : Registry} {s : Option Schema} {d : Option String}
    {p : Property} {notes : List Log.Note} (h : convert reg s d = .ok (p, notes)) :
    p.locations = [] := by
  cases s with
  | none => cases h; rfl
  | some s => exact locations_of_convertFrom h

theorem locations_of_flatten {reg : Registry} {s : Schema} {flat : Flat} {notes : List Log.Note}
    (h : flatten reg s = .ok (flat, notes)) : ∀ e ∈ flat.properties, e.2.locations = [] := by
  intro e he
  obtain ⟨l, ⟨g, s', p, ns, hc, hl⟩, rfl⟩ := flatten_converted h e he
  show l.property.locations = []
  rw [hl, locations_withPlace]
  exact locations_of_convertFrom hc

end Property

/-! ## The last location counts -/

/-- Of the candidates with a name the last one gives the property; if they come in the order of
the locations, none of them has a later location. -/
theorem InputSchema.get?_ofCandidates {cs : List Candidate} {n : String}
    (hs : cs.Pairwise fun c d => c.location.rank ≤ d.location.rank)
    (hn : ∃ c ∈ cs, c.name = n) :
    ∃ c ∈ cs, c.name = n ∧ Named.get? (InputSchema.ofCandidates cs).properties n
        = some (c.property.withLocation c.location) ∧
      ∀ d ∈ cs, d.name = n → d.location.rank ≤ c.location.rank := by
  have hmem : n ∈ Named.names (cs.map fun c => (c.name, c.property.withLocation c.location)) := by
    obtain ⟨c, hc, rfl⟩ := hn
    exact List.mem_map.2 ⟨_, List.mem_map.2 ⟨c, hc, rfl⟩, rfl⟩
  obtain ⟨before, x, after, hsplit, hafter, hget⟩ := Named.get?_ofList_of_mem hmem
  obtain ⟨cs₁, cs₂, rfl, -, h₂⟩ := List.map_eq_append_iff.1 hsplit
  obtain ⟨c, cs₃, rfl, hc, h₃⟩ := List.map_eq_cons_iff.1 h₂
  injection hc with hcn hcx
  refine ⟨c, by simp, hcn, ?_, fun d hd hdn => ?_⟩
  · rw [hcx]
    exact hget
  · rcases List.mem_append.1 hd with hd | hd
    · exact (List.pairwise_append.1 hs).2.2 d hd c List.mem_cons_self
    · rcases List.mem_cons.1 hd with rfl | hd
      · exact Nat.le_refl _
      · -- behind the last candidate no other one has the name
        refine absurd ?_ hafter
        rw [← h₃, ← hdn]
        exact List.mem_map.2 ⟨_, List.mem_map.2 ⟨d, hd, rfl⟩, rfl⟩

/-! ## What an operation takes -/

namespace Endpoint

/-- The headers that a caller supplies. -/
def openHeaders (e : Endpoint) : List Parameter :=
  (e.parametersIn .header).filter fun p => !isSignature p

/-- The schemas of the bodies that are flattened, and whether the bodies are required. -/
def bodies (e : Endpoint) : List (Schema × Bool) :=
  e.jsonBody?.toList
    ++ (e.parametersIn .body).filterMap fun p => p.schema.map fun s => (s, p.required)

/-- The schemas that are read for the inputs. -/
def visits (e : Endpoint) : List Visit :=
  (e.parametersIn .path ++ e.parametersIn .query ++ e.openHeaders).filterMap
      (fun p => p.schema.map fun s => ⟨.value, [], s⟩)
    ++ e.bodies.map fun b => ⟨.body, [], b.1⟩

/-- The operation takes a value of a name from a location. -/
inductive Takes (e : Endpoint) (reg : Registry) (name : String) : Location → Prop
  | path {p : Parameter} (hp : p ∈ e.parametersIn .path) (hn : p.name = name) :
      Takes e reg name .path
  | query {p : Parameter} (hp : p ∈ e.parametersIn .query) (hn : p.name = name) :
      Takes e reg name .query
  | header {p : Parameter} (hp : p ∈ e.openHeaders) (hn : p.name = name) :
      Takes e reg name .header
  | body {b : Schema × Bool} {flat : Property.Flat} {notes : List Log.Note} (hb : b ∈ e.bodies)
      (hf : Property.flatten reg b.1 = .ok (flat, notes))
      (hn : name ∈ Named.names flat.properties) : Takes e reg name .body

/-! ## Candidates -/

/-- The candidates that a part gives, none if it has no end. -/
def candidatesIn (part : Part) : List Candidate := (part.toOption.map (·.1)).getD []

theorem gatherParts_of_isOk {parts : List Part} (h : ∀ part ∈ parts, part.isOk = true) :
    (gatherParts parts).1 = .ok (parts.flatMap candidatesIn) := by
  induction parts with
  | nil => rfl
  | cons part parts ih =>
      rw [List.forall_mem_cons] at h
      cases part with
      | error u => exact absurd h.1 (by simp)
      | ok r =>
          show (gatherParts parts).1.map (r.1 ++ ·) = _
          rw [ih h.2]
          rfl

theorem isOk_of_gatherParts {parts : List Part} (h : (gatherParts parts).1.isOk = true) :
    ∀ part ∈ parts, part.isOk = true := by
  induction parts with
  | nil => simp
  | cons part parts ih =>
      rw [List.forall_mem_cons]
      cases part with
      | error u => exact absurd h (by simp [gatherParts])
      | ok r =>
          refine ⟨rfl, ih ?_⟩
          have h : ((gatherParts parts).1.map (r.1 ++ ·)).isOk = true := h
          cases hg : (gatherParts parts).1 with
          | error u =>
              rw [hg] at h
              cases h
          | ok more => rfl

/-- A parameter gives one candidate. -/
theorem of_mem_ofParameter {reg : Registry} {l : Location} {r : Bool} {p : Parameter}
    {c : Candidate} (h : c ∈ candidatesIn (ofParameter reg l r p)) :
    c.name = p.name ∧ c.location = l ∧ c.required = r ∧ c.property.locations = [] := by
  unfold ofParameter at h
  cases hc : Property.convert reg p.schema p.description with
  | error u =>
      rw [hc] at h
      cases h
  | ok result =>
      rw [hc] at h
      obtain rfl := List.mem_singleton.1 h
      exact ⟨rfl, rfl, rfl, Property.locations_of_convert hc⟩

theorem exists_mem_ofParameter {reg : Registry} {l : Location} {r : Bool} {p : Parameter}
    (h : (ofParameter reg l r p).isOk = true) :
    ∃ c, c ∈ candidatesIn (ofParameter reg l r p) := by
  unfold ofParameter at h ⊢
  cases hc : Property.convert reg p.schema p.description with
  | error u =>
      rw [hc] at h
      cases h
  | ok result => exact ⟨_, List.mem_singleton_self _⟩

/-- A body gives the candidates of its flat properties. -/
theorem mem_ofBody_iff {reg : Registry} {s : Schema} {r : Bool} {flat : Property.Flat}
    {notes : List Log.Note} (h : Property.flatten reg s = .ok (flat, notes)) (c : Candidate) :
    c ∈ candidatesIn (ofBody reg s r) ↔ ∃ e ∈ flat.properties,
      c = ⟨e.1, .body, e.2, r && flat.required.contains e.1⟩ := by
  have hb : ofBody reg s r = .ok (flat.properties.map fun e =>
      ⟨e.1, .body, e.2, r && flat.required.contains e.1⟩, notes) := by
    unfold ofBody
    rw [h]
    rfl
  rw [hb]
  show c ∈ flat.properties.map _ ↔ _
  rw [List.mem_map]
  simp only [eq_comm]

/-- The candidates from a location. -/
def candidatesFrom (e : Endpoint) (reg : Registry) : Location → List Candidate
  | .path => (e.parametersIn .path).flatMap fun p => candidatesIn (ofParameter reg .path true p)
  | .query =>
    (e.parametersIn .query).flatMap fun p => candidatesIn (ofParameter reg .query p.required p)
  | .header => e.openHeaders.flatMap fun p => candidatesIn (ofParameter reg .header p.required p)
  | .body => e.bodies.flatMap fun b => candidatesIn (ofBody reg b.1 b.2)

theorem inputParts_eq (e : Endpoint) (reg : Registry) :
    e.inputParts reg = (e.parametersIn .path).map (ofParameter reg .path true)
      ++ (e.parametersIn .query).map (fun p => ofParameter reg .query p.required p)
      ++ (e.parametersIn .header).map (ofHeader reg e.key)
      ++ e.bodies.map fun b => ofBody reg b.1 b.2 := by
  unfold inputParts bodies
  rw [List.map_append, List.map_filterMap, ← List.append_assoc]
  simp only [Option.map_map]
  rfl

theorem flatMap_ofHeader (reg : Registry) (key : String) (ps : List Parameter) :
    (ps.map (ofHeader reg key)).flatMap candidatesIn
      = (ps.filter fun p => !isSignature p).flatMap fun p =>
          candidatesIn (ofParameter reg .header p.required p) := by
  induction ps with
  | nil => rfl
  | cons p ps ih =>
      rw [List.map_cons, List.flatMap_cons, ih]
      unfold ofHeader
      by_cases hs : isSignature p = true
      · rw [if_pos hs, List.filter_cons_of_neg (by simpa using hs)]
        rfl
      · rw [if_neg hs, List.filter_cons_of_pos (by simpa using hs), List.flatMap_cons]

/-- The candidates from the path, the query, the headers and the body, in this order. -/
def allCandidates (e : Endpoint) (reg : Registry) : List Candidate :=
  e.candidatesFrom reg .path ++ e.candidatesFrom reg .query ++ e.candidatesFrom reg .header
    ++ e.candidatesFrom reg .body

theorem candidates_eq {e : Endpoint} {reg : Registry}
    (h : ∀ part ∈ e.inputParts reg, part.isOk = true) :
    (e.candidates reg).1 = .ok (e.allCandidates reg) := by
  unfold candidates allCandidates
  rw [gatherParts_of_isOk h, inputParts_eq, List.flatMap_append, List.flatMap_append,
    List.flatMap_append, flatMap_ofHeader]
  simp only [List.flatMap_map]
  rfl

theorem mem_candidatesFrom {e : Endpoint} {reg : Registry} {l : Location} {c : Candidate}
    (h : c ∈ e.candidatesFrom reg l) :
    c.location = l ∧ e.Takes reg c.name l ∧ c.property.locations = [] ∧
      (l = .path → c.required = true) := by
  cases l with
  | path =>
      obtain ⟨p, hp, hc⟩ := List.mem_flatMap.1 h
      obtain ⟨hn, hl, hr, hm⟩ := of_mem_ofParameter hc
      exact ⟨hl, .path hp hn.symm, hm, fun _ => hr⟩
  | query =>
      obtain ⟨p, hp, hc⟩ := List.mem_flatMap.1 h
      obtain ⟨hn, hl, -, hm⟩ := of_mem_ofParameter hc
      exact ⟨hl, .query hp hn.symm, hm, by simp⟩
  | header =>
      obtain ⟨p, hp, hc⟩ := List.mem_flatMap.1 h
      obtain ⟨hn, hl, -, hm⟩ := of_mem_ofParameter hc
      exact ⟨hl, .header hp hn.symm, hm, by simp⟩
  | body =>
      -- a body without an end gives no candidates, so the candidate comes from a flat property
      obtain ⟨b, hb, hc⟩ := List.mem_flatMap.1 h
      cases hf : Property.flatten reg b.1 with
      | error u =>
          have he : ofBody reg b.1 b.2 = .error u := by
            unfold ofBody
            rw [hf]
            rfl
          rw [he] at hc
          cases hc
      | ok r =>
          obtain ⟨x, hx, rfl⟩ := (mem_ofBody_iff hf c).1 hc
          exact ⟨rfl, .body hb hf (List.mem_map.2 ⟨x, hx, rfl⟩),
            Property.locations_of_flatten hf x hx, by simp⟩

theorem exists_mem_candidatesFrom {e : Endpoint} {reg : Registry} {l : Location} {n : String}
    (h : ∀ part ∈ e.inputParts reg, part.isOk = true) (ht : e.Takes reg n l) :
    ∃ c ∈ e.candidatesFrom reg l, c.name = n := by
  rw [inputParts_eq] at h
  simp only [List.forall_mem_append, List.forall_mem_map] at h
  obtain ⟨⟨⟨hpath, hquery⟩, hheader⟩, -⟩ := h
  cases ht with
  | @path p hp hn =>
      obtain ⟨c, hc⟩ := exists_mem_ofParameter (hpath p hp)
      exact ⟨c, List.mem_flatMap.2 ⟨p, hp, hc⟩, (of_mem_ofParameter hc).1.trans hn⟩
  | @query p hp hn =>
      obtain ⟨c, hc⟩ := exists_mem_ofParameter (hquery p hp)
      exact ⟨c, List.mem_flatMap.2 ⟨p, hp, hc⟩, (of_mem_ofParameter hc).1.trans hn⟩
  | @header p hp hn =>
      obtain ⟨hin, hs⟩ := List.mem_filter.1 hp
      have hok := hheader p hin
      unfold ofHeader at hok
      rw [if_neg (by simpa using hs)] at hok
      obtain ⟨c, hc⟩ := exists_mem_ofParameter hok
      exact ⟨c, List.mem_flatMap.2 ⟨p, hp, hc⟩, (of_mem_ofParameter hc).1.trans hn⟩
  | @body b flat notes hb hf hn =>
      obtain ⟨x, hx, hxn⟩ := List.mem_map.1 hn
      exact ⟨_, List.mem_flatMap.2 ⟨b, hb, (mem_ofBody_iff hf _).2 ⟨x, hx, rfl⟩⟩, hxn⟩

/-- Every candidate is one from its own location. -/
theorem mem_allCandidates {e : Endpoint} {reg : Registry} {c : Candidate} :
    c ∈ e.allCandidates reg ↔ c ∈ e.candidatesFrom reg c.location := by
  unfold allCandidates
  simp only [List.mem_append]
  constructor
  · rintro (((h | h) | h) | h) <;> rwa [(mem_candidatesFrom h).1]
  · intro h
    cases hl : c.location with
    | path => exact .inl (.inl (.inl (hl ▸ h)))
    | query => exact .inl (.inl (.inr (hl ▸ h)))
    | header => exact .inl (.inr (hl ▸ h))
    | body => exact .inr (hl ▸ h)

theorem exists_mem_allCandidates {e : Endpoint} {reg : Registry} {l : Location} {n : String}
    (h : ∀ part ∈ e.inputParts reg, part.isOk = true) (ht : e.Takes reg n l) :
    ∃ c ∈ e.allCandidates reg, c.name = n ∧ c.location = l := by
  obtain ⟨c, hc, hn⟩ := exists_mem_candidatesFrom h ht
  have hl := (mem_candidatesFrom hc).1
  exact ⟨c, mem_allCandidates.2 (hl.symm ▸ hc), hn, hl⟩

theorem pairwise_allCandidates (e : Endpoint) (reg : Registry) :
    (e.allCandidates reg).Pairwise fun c d => c.location.rank ≤ d.location.rank := by
  have hsame : ∀ l, (e.candidatesFrom reg l).Pairwise
      fun c d => c.location.rank ≤ d.location.rank := by
    intro l
    refine List.pairwise_of_forall_mem_list fun c hc d hd => ?_
    rw [(mem_candidatesFrom hc).1, (mem_candidatesFrom hd).1]
  have hrank : ∀ {l c}, c ∈ e.candidatesFrom reg l → c.location.rank = l.rank :=
    fun hc => congrArg Location.rank (mem_candidatesFrom hc).1
  unfold allCandidates
  simp only [List.pairwise_append, List.mem_append]
  refine ⟨⟨⟨hsame _, hsame _, ?_⟩, hsame _, ?_⟩, hsame _, ?_⟩
  · intro c hc d hd
    rw [hrank hc, hrank hd]
    decide
  · rintro c (hc | hc) d hd
    · rw [hrank hc, hrank hd]
      decide
    · rw [hrank hc, hrank hd]
      decide
  · rintro c ((hc | hc) | hc) d hd
    · rw [hrank hc, hrank hd]
      decide
    · rw [hrank hc, hrank hd]
      decide
    · rw [hrank hc, hrank hd]
      decide

/-! ## When there are inputs -/

theorem ofParameter_isOk_iff {reg : Registry} {l : Location} {r : Bool} {p : Parameter} :
    (ofParameter reg l r p).isOk = true ↔ ∀ s, p.schema = some s → ¬ Loops reg ⟨.value, [], s⟩ := by
  have hc : (ofParameter reg l r p).isOk
      = (Property.convert reg p.schema p.description).isOk := by
    unfold ofParameter
    cases Property.convert reg p.schema p.description <;> rfl
  rw [hc]
  cases p.schema with
  | none => simp [Property.convert]
  | some s => simp [Property.convert_isOk_iff]

theorem ofBody_isOk_iff {reg : Registry} {s : Schema} {r : Bool} :
    (ofBody reg s r).isOk = true ↔ ¬ Loops reg ⟨.body, [], s⟩ := by
  rw [← Property.flatten_isOk_iff]
  unfold ofBody
  cases Property.flatten reg s <;> rfl

theorem ofHeader_isOk_iff {reg : Registry} {key : String} {p : Parameter} :
    (ofHeader reg key p).isOk = true ↔
      (!isSignature p) = true → ∀ s, p.schema = some s → ¬ Loops reg ⟨.value, [], s⟩ := by
  unfold ofHeader
  by_cases hs : isSignature p = true
  · simp [hs]
  · rw [if_neg hs, ofParameter_isOk_iff]
    simp [hs]

theorem forall_inputParts_isOk_iff {e : Endpoint} {reg : Registry} :
    (∀ part ∈ e.inputParts reg, part.isOk = true) ↔ ∀ v ∈ e.visits, ¬ Loops reg v := by
  rw [inputParts_eq]
  unfold visits openHeaders
  simp only [List.forall_mem_append, List.forall_mem_map, ofParameter_isOk_iff, ofBody_isOk_iff,
    ofHeader_isOk_iff]
  simp only [List.mem_filterMap, List.mem_append, List.mem_filter]
  constructor
  · rintro ⟨⟨⟨hpath, hquery⟩, hheader⟩, hbody⟩
    refine ⟨?_, hbody⟩
    rintro v ⟨p, hp, hv⟩
    obtain ⟨s, hs, rfl⟩ := Option.map_eq_some_iff.1 hv
    rcases hp with (hp | hp) | ⟨hp, ho⟩
    · exact hpath p hp s hs
    · exact hquery p hp s hs
    · exact hheader p hp ho s hs
  · rintro ⟨hvalues, hbody⟩
    have hvalue : ∀ {p s}, p.schema = some s →
        ((p ∈ e.parametersIn .path ∨ p ∈ e.parametersIn .query) ∨
          p ∈ e.parametersIn .header ∧ (!isSignature p) = true) →
        ¬ Loops reg ⟨.value, [], s⟩ := by
      intro p s hs hp
      exact hvalues _ ⟨p, hp, by rw [hs]; rfl⟩
    refine ⟨⟨⟨?_, ?_⟩, ?_⟩, hbody⟩
    · exact fun p hp s hs => hvalue hs (.inl (.inl hp))
    · exact fun p hp s hs => hvalue hs (.inl (.inr hp))
    · exact fun p hp ho s hs => hvalue hs (.inr ⟨hp, ho⟩)

/-- There are inputs if and only if no schema that is read for them loops. -/
theorem inputs_isOk_iff {e : Endpoint} {reg : Registry} :
    (e.inputs reg).1.isOk = true ↔ ∀ v ∈ e.visits, ¬ Loops reg v := by
  rw [← forall_inputParts_isOk_iff]
  have hc : (e.inputs reg).1.isOk = (e.candidates reg).1.isOk := by
    show ((e.candidates reg).1.map InputSchema.ofCandidates).isOk = _
    cases (e.candidates reg).1 <;> rfl
  rw [hc]
  constructor
  · exact isOk_of_gatherParts
  · intro h
    rw [candidates_eq h]
    rfl

theorem inputs_eq_ok {e : Endpoint} {reg : Registry} {input : InputSchema}
    (h : (e.inputs reg).1 = .ok input) :
    (∀ part ∈ e.inputParts reg, part.isOk = true) ∧
      input = InputSchema.ofCandidates (e.allCandidates reg) := by
  have hparts : ∀ part ∈ e.inputParts reg, part.isOk = true := by
    rw [forall_inputParts_isOk_iff, ← inputs_isOk_iff, h]
    rfl
  refine ⟨hparts, ?_⟩
  have h : (e.candidates reg).1.map InputSchema.ofCandidates = .ok input := h
  rw [candidates_eq hparts] at h
  injection h with h
  exact h.symm

/-! ## No path parameter is lost -/

/-- A name that is taken has a property, with the mark of the last location that takes it. -/
theorem exists_property_of_takes {e : Endpoint} {reg : Registry} {n : String} {l₀ : Location}
    (h : ∀ part ∈ e.inputParts reg, part.isOk = true) (ht : e.Takes reg n l₀) :
    ∃ property l, Named.get? (InputSchema.ofCandidates (e.allCandidates reg)).properties n
        = some property ∧
      property.locations = [l] ∧ e.Takes reg n l ∧
      ∀ l', e.Takes reg n l' → l'.rank ≤ l.rank := by
  obtain ⟨c₀, hc₀, hn₀, -⟩ := exists_mem_allCandidates h ht
  -- the last candidate with the name is from the last location, since they come in this order
  obtain ⟨c, hc, hn, hget, hlast⟩ :=
    InputSchema.get?_ofCandidates (pairwise_allCandidates e reg) ⟨c₀, hc₀, hn₀⟩
  obtain ⟨-, htakes, hmarks, -⟩ := mem_candidatesFrom (mem_allCandidates.1 hc)
  refine ⟨_, c.location, hget, Property.locations_withLocation hmarks _, hn ▸ htakes, ?_⟩
  intro l' ht'
  obtain ⟨d, hd, hdn, rfl⟩ := exists_mem_allCandidates h ht'
  exact hlast d hd hdn

/-- **A path parameter is always an input and always required; it keeps its mark if and only if
its name is taken from the path alone.** Otherwise its property is the one from the last location
that takes the name, with the mark of that location and no other. Inputs are missing altogether
only if a schema that is read for them loops. -/
theorem inputs_path_parameter {e : Endpoint} {reg : Registry} {p : Parameter}
    (hp : p ∈ e.parametersIn .path) :
    ((∃ input, (e.inputs reg).1 = .ok input) ↔ ∀ v ∈ e.visits, ¬ Loops reg v) ∧
      ∀ input, (e.inputs reg).1 = .ok input →
        p.name ∈ input.required ∧
        ∃ property l, Named.get? input.properties p.name = some property ∧
          property.locations = [l] ∧ e.Takes reg p.name l ∧
          (∀ l', e.Takes reg p.name l' → l'.rank ≤ l.rank) ∧
          (property.traits.isPathParam = some true ↔ ∀ l', e.Takes reg p.name l' → l' = .path) := by
  refine ⟨by rw [← Property.isOk_iff, inputs_isOk_iff], fun input hi => ?_⟩
  obtain ⟨hparts, rfl⟩ := inputs_eq_ok hi
  have ht : e.Takes reg p.name .path := .path hp rfl
  constructor
  · -- a name is required if any of its candidates is, whichever of them gives the property
    obtain ⟨c, hc, hn, hl⟩ := exists_mem_allCandidates hparts ht
    obtain ⟨-, -, -, hr⟩ := mem_candidatesFrom (mem_allCandidates.1 hc)
    show p.name ∈ Named.distinct _
    rw [Named.mem_distinct, ← hn]
    exact List.mem_map.2 ⟨c, List.mem_filter.2 ⟨hc, hr hl⟩, rfl⟩
  · obtain ⟨property, l, hget, hlocations, htakes, hmax⟩ := exists_property_of_takes hparts ht
    refine ⟨property, l, hget, hlocations, htakes, hmax, ?_⟩
    rw [Property.isPathParam_iff, hlocations, List.mem_singleton]
    constructor
    · rintro rfl l' ht'
      have := hmax l' ht'
      cases l' <;> simp_all [Location.rank]
    · intro h
      exact (h l htakes).symm

/-! ### One name in the path and in the query -/

/-- The parameter `id` in a place. -/
def idIn (place : ParameterPlace) : Parameter := { name := "id", place := place }

/-- An operation with an `id` in its path and another one in its query. -/
def getPet : Endpoint :=
  { path := "/pets/\x7bid\x7d"
    method := .get
    parameters := [idIn .path, idIn .query] }

/-- A document with that operation. -/
def pets : Value :=
  let parameter (place : String) : Value :=
    Value.object [("name", .str "id"), ("in", .str place)]
  let operation : Value :=
    Value.object [("parameters", .list [parameter "path", parameter "query"])]
  Value.object [("paths", Value.object [(getPet.path, Value.object [("get", operation)])])]

theorem getPet_id_required :
    ∃ input property, (getPet.inputs []).1 = .ok input ∧ "id" ∈ input.required ∧
      Named.get? input.properties "id" = some property ∧
      property.traits.isPathParam ≠ some true := by
  have hp : idIn .path ∈ getPet.parametersIn .path := List.mem_cons_self
  have hq : getPet.Takes [] "id" .query := .query (p := idIn .query) List.mem_cons_self rfl
  obtain ⟨hok, hinput⟩ := inputs_path_parameter hp
  have hvisits : ∀ v ∈ getPet.visits, ¬ Loops [] v := by
    intro v hv
    cases hv
  obtain ⟨input, hi⟩ := hok.2 hvisits
  obtain ⟨hr, property, l, hget, -, -, -, hmark⟩ := hinput input hi
  refine ⟨input, property, hi, hr, hget, fun h => ?_⟩
  cases hmark.1 h .query hq

/-- The document is read, and the property of its `id` is marked for the query alone. -/
theorem pets_id_loses_mark :
    (Api.read pets true).1.map (fun a => (a.endpoints, a.schemas)) = .ok ([getPet], []) ∧
      idIn .path ∈ getPet.parametersIn .path ∧
      ∃ input property, (getPet.inputs []).1 = .ok input ∧
        Named.get? input.properties "id" = some property ∧
        property.traits.isPathParam = none ∧ property.locations = [.query] :=
  ⟨rfl, List.mem_cons_self, _, _, rfl, rfl, rfl, rfl⟩

end Endpoint

end ApiTools
