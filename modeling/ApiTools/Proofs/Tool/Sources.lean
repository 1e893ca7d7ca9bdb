import ApiTools.Proofs.Named
import ApiTools.Proofs.Property.Required
import ApiTools.Proofs.Tool.Inputs

set_option autoImplicit false

/-!
# The inputs of a tool as an ordered merge

What an operation offers as inputs comes from five sources: the path, the query, the headers
without signatures, the body that is sent as JSON and the parameters that are bodies. The inputs
merge what they offer. Names stand where they first came up, what was said last about a name
counts, and what is required once stays so. Nothing else that an operation declares has any
influence on them.
-/

namespace ApiTools

/-! ## Merging -/

/-- Inputs are the ordered merge of candidates. -/
structure InputSchema.IsMergeOf (cs : List Candidate) (input : InputSchema) : Prop where
  /-- The names stand in the order in which they first came up. -/
  names : Named.names input.properties = (cs.map Candidate.name).eraseDups
  /-- The last candidate with a name counts, with its mark and no other one. -/
  last : ∀ before c after, cs = before ++ c :: after → c.name ∉ after.map Candidate.name →
    Named.get? input.properties c.name = some (c.property.withLocation c.location) ∧
      (c.property.withLocation c.location).locations = [c.location]
  /-- A name with a candidate that is required is required, in the order in which the first such
  candidates came up. -/
  required : input.required = ((cs.filter (·.required)).map Candidate.name).eraseDups

theorem InputSchema.isMergeOf_ofCandidates {cs : List Candidate}
    (hmarks : ∀ c ∈ cs, c.property.locations = []) :
    (InputSchema.ofCandidates cs).IsMergeOf cs := by
  refine ⟨?_, fun before c after hcs hlast => ⟨?_, ?_⟩, Named.distinct_eq_eraseDups _⟩
  · show Named.names (Named.ofList (cs.map fun c => (c.name, c.property.withLocation c.location)))
      = _
    rw [Named.names_ofList, Named.distinct_eq_eraseDups]
    unfold Named.names
    rw [List.map_map]
    rfl
  · show Named.get? (Named.ofList (cs.map fun c => (c.name, c.property.withLocation c.location)))
      c.name = _
    rw [hcs, List.map_append, List.map_cons]
    refine Named.get?_ofList_append_cons _ _ ?_
    unfold Named.names
    rwa [List.map_map]
  · have hc : c ∈ cs := hcs ▸ List.mem_append_right before List.mem_cons_self
    exact Property.locations_withLocation (hmarks c hc) c.location

namespace Endpoint

/-! ## What an operation offers -/

/-- A parameter offers a candidate from a location: its value. -/
def OffersValue (reg : Registry) (l : Location) (required : Parameter → Bool) (p : Parameter)
    (c : Candidate) : Prop :=
  c.name = p.name ∧ c.location = l ∧ c.required = required p ∧
    ∃ notes, Property.convert reg p.schema p.description = .ok (c.property, notes)

/-- A body offers candidates: its flat properties. Those are required that the body requires, if
it is required itself. -/
def OffersLeaves (reg : Registry) (b : Schema × Bool) (cs : List Candidate) : Prop :=
  ∃ flat notes, Property.flatten reg b.1 = .ok (flat, notes) ∧
    cs = flat.properties.map fun e => ⟨e.1, .body, e.2, b.2 && flat.required.contains e.1⟩

/-- The candidates that an operation offers: those from the path, which are all required, from the
query, from the headers without signatures, and from the bodies. -/
inductive Offers (e : Endpoint) (reg : Registry) : List Candidate → Prop
  | mk {path query header : List Candidate} {bodies : List (List Candidate)}
      (hpath : List.Forall₂ (OffersValue reg .path fun _ => true) (e.parametersIn .path) path)
      (hquery : List.Forall₂ (OffersValue reg .query Parameter.required)
        (e.parametersIn .query) query)
      (hheader : List.Forall₂ (OffersValue reg .header Parameter.required) e.openHeaders header)
      (hbodies : List.Forall₂ (OffersLeaves reg) e.bodies bodies) :
      Offers e reg (path ++ query ++ header ++ bodies.flatten)

/-- What things offer is what their parts give, and none of the parts is without an end. -/
theorem of_forall₂_offers {α β : Type} {R : α → β → Prop} {f : α → Part}
    {g : β → List Candidate} (hR : ∀ x y, R x y → ∃ notes, f x = .ok (g y, notes))
    {xs : List α} {ys : List β} (h : List.Forall₂ R xs ys) :
    (∀ x ∈ xs, (f x).isOk = true) ∧ ys.flatMap g = xs.flatMap fun x => candidatesIn (f x) := by
  induction h with
  | nil => exact ⟨List.forall_mem_nil _, rfl⟩
  | @cons x y xs ys hxy _ ih =>
      obtain ⟨notes, hpart⟩ := hR x y hxy
      rw [List.forall_mem_cons, List.flatMap_cons, List.flatMap_cons, hpart]
      exact ⟨⟨rfl, ih.1⟩, congrArg (g y ++ ·) ih.2⟩

theorem exists_forall₂ {α β : Type} {R : α → β → Prop} {xs : List α}
    (h : ∀ x ∈ xs, ∃ y, R x y) : ∃ ys, List.Forall₂ R xs ys := by
  induction xs with
  | nil => exact ⟨[], .nil⟩
  | cons x xs ih =>
      rw [List.forall_mem_cons] at h
      obtain ⟨y, hxy⟩ := h.1
      obtain ⟨ys, hys⟩ := ih h.2
      exact ⟨y :: ys, .cons hxy hys⟩

section

variable {reg : Registry} {l : Location} {required : Parameter → Bool}

theorem ofParameter_of_offersValue {p : Parameter} {c : Candidate}
    (h : OffersValue reg l required p c) :
    ∃ notes, ofParameter reg l (required p) p = .ok ([c], notes) := by
  obtain ⟨hname, hlocation, hrequired, notes, hvalue⟩ := h
  refine ⟨notes, ?_⟩
  unfold ofParameter
  rw [hvalue, ← hname, ← hlocation, ← hrequired]
  rfl

theorem of_forall₂_offersValue {ps : List Parameter} {cs : List Candidate}
    (h : List.Forall₂ (OffersValue reg l required) ps cs) :
    (∀ p ∈ ps, (ofParameter reg l (required p) p).isOk = true) ∧
      cs = ps.flatMap fun p => candidatesIn (ofParameter reg l (required p) p) := by
  obtain ⟨hok, hcs⟩ :=
    of_forall₂_offers (f := fun p => ofParameter reg l (required p) p) (g := fun c => [c])
      (fun _ _ => ofParameter_of_offersValue) h
  rw [List.flatMap_singleton'] at hcs
  exact ⟨hok, hcs⟩

theorem exists_offersValue {p : Parameter}
    (h : (ofParameter reg l (required p) p).isOk = true) :
    ∃ c, OffersValue reg l required p c := by
  unfold ofParameter at h
  cases hc : Property.convert reg p.schema p.description with
  | error u =>
      rw [hc] at h
      cases h
  | ok r => exact ⟨⟨p.name, l, r.1, required p⟩, rfl, rfl, rfl, r.2, hc⟩

theorem ofBody_of_offersLeaves {b : Schema × Bool} {cs : List Candidate}
    (h : OffersLeaves reg b cs) : ∃ notes, ofBody reg b.1 b.2 = .ok (cs, notes) := by
  obtain ⟨flat, notes, hflat, rfl⟩ := h
  refine ⟨notes, ?_⟩
  unfold ofBody
  rw [hflat]
  rfl

theorem of_forall₂_offersLeaves {bs : List (Schema × Bool)} {css : List (List Candidate)}
    (h : List.Forall₂ (OffersLeaves reg) bs css) :
    (∀ b ∈ bs, (ofBody reg b.1 b.2).isOk = true) ∧
      css.flatten = bs.flatMap fun b => candidatesIn (ofBody reg b.1 b.2) := by
  obtain ⟨hok, hcss⟩ :=
    of_forall₂_offers (f := fun b => ofBody reg b.1 b.2) (g := id)
      (fun _ _ => ofBody_of_offersLeaves) h
  rw [List.flatMap_id] at hcss
  exact ⟨hok, hcss⟩

theorem exists_offersLeaves {b : Schema × Bool} (h : (ofBody reg b.1 b.2).isOk = true) :
    ∃ cs, OffersLeaves reg b cs := by
  unfold ofBody at h
  cases hf : Property.flatten reg b.1 with
  | error u =>
      rw [hf] at h
      cases h
  | ok r => exact ⟨_, r.1, r.2, hf, rfl⟩

end

theorem forall_inputParts_iff {e : Endpoint} {reg : Registry} :
    (∀ part ∈ e.inputParts reg, part.isOk = true) ↔
      (∀ p ∈ e.parametersIn .path, (ofParameter reg .path true p).isOk = true) ∧
      (∀ p ∈ e.parametersIn .query, (ofParameter reg .query p.required p).isOk = true) ∧
      (∀ p ∈ e.openHeaders, (ofParameter reg .header p.required p).isOk = true) ∧
      ∀ b ∈ e.bodies, (ofBody reg b.1 b.2).isOk = true := by
  have hheaders : (∀ p ∈ e.parametersIn .header, (ofHeader reg e.key p).isOk = true) ↔
      ∀ p ∈ e.openHeaders, (ofParameter reg .header p.required p).isOk = true := by
    unfold openHeaders
    simp only [List.mem_filter, and_imp, ofHeader_isOk_iff, ofParameter_isOk_iff]
  rw [inputParts_eq]
  simp only [List.forall_mem_append, List.forall_mem_map]
  rw [hheaders, and_assoc, and_assoc]

theorem Offers.eq_allCandidates {e : Endpoint} {reg : Registry} {cs : List Candidate}
    (h : e.Offers reg cs) :
    (∀ part ∈ e.inputParts reg, part.isOk = true) ∧ cs = e.allCandidates reg := by
  obtain ⟨hpath, hquery, hheader, hbodies⟩ := h
  obtain ⟨hpathok, rfl⟩ := of_forall₂_offersValue hpath
  obtain ⟨hqueryok, rfl⟩ := of_forall₂_offersValue hquery
  obtain ⟨hheaderok, rfl⟩ := of_forall₂_offersValue hheader
  obtain ⟨hbodiesok, hflatten⟩ := of_forall₂_offersLeaves hbodies
  rw [hflatten]
  exact ⟨forall_inputParts_iff.2 ⟨hpathok, hqueryok, hheaderok, hbodiesok⟩, rfl⟩

theorem exists_offers {e : Endpoint} {reg : Registry}
    (h : ∀ part ∈ e.inputParts reg, part.isOk = true) : ∃ cs, e.Offers reg cs := by
  obtain ⟨hpath, hquery, hheader, hbodies⟩ := forall_inputParts_iff.1 h
  have hpath : ∀ p ∈ e.parametersIn .path, ∃ c, OffersValue reg .path (fun _ => true) p c :=
    fun p hp => exists_offersValue (hpath p hp)
  have hquery : ∀ p ∈ e.parametersIn .query, ∃ c, OffersValue reg .query Parameter.required p c :=
    fun p hp => exists_offersValue (hquery p hp)
  have hheader : ∀ p ∈ e.openHeaders, ∃ c, OffersValue reg .header Parameter.required p c :=
    fun p hp => exists_offersValue (hheader p hp)
  obtain ⟨_, hpath⟩ := exists_forall₂ hpath
  obtain ⟨_, hquery⟩ := exists_forall₂ hquery
  obtain ⟨_, hheader⟩ := exists_forall₂ hheader
  obtain ⟨_, hbodies⟩ := exists_forall₂ fun b hb => exists_offersLeaves (hbodies b hb)
  exact ⟨_, .mk hpath hquery hheader hbodies⟩

/-- There are candidates if and only if there are inputs. -/
theorem exists_offers_iff {e : Endpoint} {reg : Registry} :
    (∃ cs, e.Offers reg cs) ↔ ∃ input, (e.inputs reg).1 = .ok input := by
  constructor
  · rintro ⟨cs, hcs⟩
    obtain ⟨hok, -⟩ := hcs.eq_allCandidates
    have hcandidates := candidates_eq hok
    exact ⟨_, congrArg (Except.map InputSchema.ofCandidates) hcandidates⟩
  · rintro ⟨input, hinput⟩
    exact exists_offers (inputs_eq_ok hinput).1

/-- The inputs are the merge of what the operation offers. -/
theorem Offers.isMergeOf {e : Endpoint} {reg : Registry} {cs : List Candidate}
    {input : InputSchema} (h : e.Offers reg cs) (hinput : (e.inputs reg).1 = .ok input) :
    input.IsMergeOf cs := by
  obtain ⟨-, rfl⟩ := inputs_eq_ok hinput
  obtain ⟨-, rfl⟩ := h.eq_allCandidates
  refine InputSchema.isMergeOf_ofCandidates fun c hc => ?_
  exact (mem_candidatesFrom (mem_allCandidates.1 hc)).2.2.1

/-! ## What has no influence -/

/-- Whether a parameter is a source of inputs. -/
def isSource (p : Parameter) : Bool :=
  match p.place with
  | .path | .query | .body => true
  | .header => !isSignature p
  | .cookie | .formData => false

/-- Two operations have the same sources of inputs: they differ in no parameter that is one, nor
in the body that is sent as JSON. -/
structure SameSources (e f : Endpoint) : Prop where
  parameters : e.parameters.filter isSource = f.parameters.filter isSource
  body : e.jsonBody? = f.jsonBody?

/-- The parts of an operation that are sources of inputs. -/
def sourceParts (e : Endpoint) (reg : Registry) : List Part :=
  (e.parametersIn .path).map (ofParameter reg .path true)
    ++ (e.parametersIn .query).map (fun p => ofParameter reg .query p.required p)
    ++ e.openHeaders.map (fun p => ofParameter reg .header p.required p)
    ++ e.bodies.map fun b => ofBody reg b.1 b.2

/-- Parameters that are no sources are not looked for. -/
theorem filter_filter_isSource {keep : Parameter → Bool}
    (h : ∀ p, keep p = true → isSource p = true) (ps : List Parameter) :
    (ps.filter isSource).filter keep = ps.filter keep := by
  rw [List.filter_filter]
  refine List.filter_congr fun p _ => ?_
  cases hk : keep p with
  | false => exact Bool.false_and _
  | true => rw [h p hk, Bool.true_and]

theorem SameSources.sourceParts_eq {e f : Endpoint} (h : SameSources e f) (reg : Registry) :
    e.sourceParts reg = f.sourceParts reg := by
  have hkept : ∀ keep : Parameter → Bool, (∀ p, keep p = true → isSource p = true) →
      e.parameters.filter keep = f.parameters.filter keep := by
    intro keep hkeep
    rw [← filter_filter_isSource hkeep e.parameters, h.parameters,
      filter_filter_isSource hkeep f.parameters]
  have hplace : ∀ place, (∀ p : Parameter, p.place = place → isSource p = true) →
      e.parametersIn place = f.parametersIn place :=
    fun place hsource => hkept _ fun p hp => hsource p (of_decide_eq_true hp)
  have hheader : e.openHeaders = f.openHeaders := by
    unfold openHeaders parametersIn
    rw [List.filter_filter, List.filter_filter]
    refine hkept _ fun p hp => ?_
    obtain ⟨hopen, hp⟩ := Bool.and_eq_true_iff.1 hp
    unfold isSource
    rw [of_decide_eq_true hp]
    exact hopen
  have hbodies : e.bodies = f.bodies := by
    unfold bodies
    rw [h.body, hplace .body fun p hp => by unfold isSource; rw [hp]]
  unfold sourceParts
  rw [hplace .path fun p hp => by unfold isSource; rw [hp],
    hplace .query fun p hp => by unfold isSource; rw [hp], hheader, hbodies]

theorem gatherParts_append (ps qs : List Part) :
    (gatherParts (ps ++ qs)).1
      = (gatherParts ps).1.bind fun cs => (gatherParts qs).1.map (cs ++ ·) := by
  induction ps with
  | nil =>
      show _ = (gatherParts qs).1.map id
      cases hq : (gatherParts qs).1 with
      | error u => exact hq
      | ok cs => exact hq
  | cons p ps ih =>
      cases p with
      | error u => rfl
      | ok r =>
          show (gatherParts (ps ++ qs)).1.map (r.1 ++ ·)
            = ((gatherParts ps).1.map (r.1 ++ ·)).bind _
          rw [ih]
          cases (gatherParts ps).1 with
          | error u => rfl
          | ok cs =>
              show ((gatherParts qs).1.map (cs ++ ·)).map (r.1 ++ ·)
                = (gatherParts qs).1.map (r.1 ++ cs ++ ·)
              cases (gatherParts qs).1 with
              | error u => rfl
              | ok more => exact congrArg Except.ok (List.append_assoc r.1 cs more).symm

/-- A header with a signature is a part that gives nothing. -/
theorem gatherParts_ofHeader (reg : Registry) (key : String) (ps : List Parameter) :
    (gatherParts (ps.map (ofHeader reg key))).1
      = (gatherParts ((ps.filter fun p => !isSignature p).map
          fun p => ofParameter reg .header p.required p)).1 := by
  induction ps with
  | nil => rfl
  | cons p ps ih =>
      rw [List.map_cons]
      unfold ofHeader
      by_cases hs : isSignature p = true
      · rw [if_pos hs, List.filter_cons_of_neg (by simpa using hs), ← ih]
        show (gatherParts (ps.map (ofHeader reg key))).1.map id = _
        cases (gatherParts (ps.map (ofHeader reg key))).1 <;> rfl
      · rw [if_neg hs, List.filter_cons_of_pos (by simpa using hs), List.map_cons]
        cases ofParameter reg .header p.required p with
        | error u => rfl
        | ok r => exact congrArg (Except.map (r.1 ++ ·)) ih

/-- The inputs are told from the sources alone. -/
theorem inputs_eq_sourceParts (e : Endpoint) (reg : Registry) :
    (e.inputs reg).1 = (gatherParts (e.sourceParts reg)).1.map InputSchema.ofCandidates := by
  show (gatherParts (e.inputParts reg)).1.map _ = _
  rw [inputParts_eq]
  unfold sourceParts
  simp only [gatherParts_append, gatherParts_ofHeader]
  rfl

theorem SameSources.inputs_eq {e f : Endpoint} (h : SameSources e f) (reg : Registry) :
    (e.inputs reg).1 = (f.inputs reg).1 := by
  rw [inputs_eq_sourceParts, inputs_eq_sourceParts, h.sourceParts_eq]

/-! ## The inputs -/

/-- **The inputs are the ordered merge of what the operation offers, and nothing else counts.**
There are inputs if and only if there are candidates, which is so unless a schema that is read for
them loops; the inputs are then the merge of the candidates. Operations with the same sources
have the same inputs, whatever cookies, form data, headers with signatures or bodies of other
media types they have. -/
theorem inputs_merge (e : Endpoint) (reg : Registry) :
    ((∃ input, (e.inputs reg).1 = .ok input) ↔ ∃ cs, e.Offers reg cs) ∧
    ((∃ cs, e.Offers reg cs) ↔ ∀ v ∈ e.visits, ¬ Property.Loops reg v) ∧
    (∀ cs, e.Offers reg cs → ∃ input, (e.inputs reg).1 = .ok input ∧ input.IsMergeOf cs) ∧
    ∀ f, SameSources e f → (f.inputs reg).1 = (e.inputs reg).1 := by
  refine ⟨exists_offers_iff.symm, ?_, fun cs hcs => ?_, fun f hf => (hf.inputs_eq reg).symm⟩
  · rw [exists_offers_iff, ← Property.isOk_iff, inputs_isOk_iff]
  · obtain ⟨input, hinput⟩ := exists_offers_iff.1 ⟨cs, hcs⟩
    exact ⟨input, hinput, hcs.isMergeOf hinput⟩

/-! ### Names that are offered twice -/

/-- A required parameter of an unknown type. -/
def requiredIn (place : ParameterPlace) (name : String) : Parameter :=
  { name := name, place := place, required := true }

/-- An operation with an `id` in its path, a `note` in its query and two texts in its body, one of
them a `note` again. -/
def postNote : Endpoint :=
  { path := "/pets/\x7bid\x7d"
    method := .post
    parameters := [requiredIn .query "note", requiredIn .path "id"]
    requestBody := some
      { content := [(jsonMediaType, some Property.halfDeclared)], required := true } }

/-- The same operation with a session, a signature and another way to send the body. -/
def postNoteSigned : Endpoint :=
  { postNote with
    parameters := [requiredIn .cookie "session", requiredIn .query "note",
      requiredIn .header "X-Signature", requiredIn .path "id"]
    requestBody := some
      { content := [("text/plain", none), (jsonMediaType, some Property.halfDeclared)]
        required := true } }

/-- What both of them offer. -/
def noteCandidates : List Candidate :=
  [⟨"id", .path, Property.plainText defaultDescription, true⟩,
   ⟨"note", .query, Property.plainText defaultDescription, true⟩,
   ⟨"note", .body, .simple {} (.text {}), false⟩,
   ⟨"a_b", .body, (Property.simple {} (.text {})).withPlace ["a", "b"], true⟩]

theorem offers_postNote : postNote.Offers [] noteCandidates := by
  have hvalue : ∀ (l : Location) (place : ParameterPlace) (name : String)
      (required : Parameter → Bool), OffersValue [] l required (requiredIn place name)
        ⟨name, l, Property.plainText defaultDescription,
          required (requiredIn place name)⟩ :=
    fun l place name required => ⟨rfl, rfl, rfl, [], rfl⟩
  have hleaves : OffersLeaves [] (Property.halfDeclared, true)
      [⟨"note", .body, .simple {} (.text {}), false⟩,
       ⟨"a_b", .body, (Property.simple {} (.text {})).withPlace ["a", "b"], true⟩] :=
    ⟨_, [], Property.flatten_halfDeclared, rfl⟩
  show postNote.Offers [] ([_] ++ [_] ++ [] ++ [[_, _]].flatten)
  exact .mk (.cons (hvalue .path .path "id" fun _ => true) .nil)
    (.cons (hvalue .query .query "note" Parameter.required) .nil) .nil (.cons hleaves .nil)

/-- The `note` stands where it comes up in the query, where it is required, but it is taken from
the body. The signed operation has the same inputs. -/
theorem postNote_merged :
    ∃ input, (postNote.inputs []).1 = .ok input ∧ (postNoteSigned.inputs []).1 = .ok input ∧
      Named.names input.properties = ["id", "note", "a_b"] ∧
      (∃ p, Named.get? input.properties "note" = some p ∧ p.locations = [.body]) ∧
      input.required = ["id", "note", "a_b"] := by
  obtain ⟨-, -, hmerge, hsame⟩ := inputs_merge postNote []
  obtain ⟨input, hinput, hnames, hlast, hrequired⟩ := hmerge _ offers_postNote
  have hsigned := hsame postNoteSigned ⟨rfl, rfl⟩
  obtain ⟨hnote, hmark⟩ :=
    hlast (noteCandidates.take 2) ⟨"note", .body, .simple {} (.text {}), false⟩
      (noteCandidates.drop 3) rfl (by decide)
  exact ⟨input, hinput, hsigned.trans hinput, hnames.trans (by decide), ⟨_, hnote, hmark⟩,
    hrequired.trans (by decide)⟩

end Endpoint

end ApiTools
