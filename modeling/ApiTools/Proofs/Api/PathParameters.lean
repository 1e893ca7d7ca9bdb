import ApiTools.Proofs.Api.Operations
import ApiTools.Proofs.Value.Members

set_option autoImplicit false

/-!
# What becomes of the parameters of a path

The parameters of a path count for each of its operations, except that one of an operation takes
the place of one of the path with its name and place. Which of them that are is decided on the
parameters as they are written, before references are followed. A reference has neither a name
nor a place of its own, so all references are written alike, whatever they lead to. The parameters
with some name and place survive if and only if what is written and what is read agree on them.
-/

namespace ApiTools

/-- The name and the place that tell a parameter from others. -/
def Parameter.key (p : Parameter) : String × ParameterPlace := (p.name, p.place)

/-- The parameters with a name and a place. -/
def Parameter.withKey (k : String × ParameterPlace) (ps : List Parameter) : List Parameter :=
  ps.filter (·.key = k)

namespace Api.Site

open Parameter (withKey)

/-! ## Parameters as they are written -/

/-- The parameters of the path as they are written. -/
def pathRaws (s : Site) : List Value := listOf (s.item.getD "parameters")

/-- The parameters of the operation. -/
def ownParameters (s : Site) (doc : Value) : List Parameter :=
  s.ownRaws.filterMap (s.parameter? doc)

/-- The parameters of the path. -/
def pathParameters (s : Site) (doc : Value) : List Parameter :=
  s.pathRaws.filterMap (s.parameter? doc)

/-- One of the operation is written with the name and the place of a parameter. -/
def overrides (s : Site) (raw : Value) : Bool :=
  raw.isMap && (s.ownRaws.filter Value.isMap).any fun own =>
    sameIdentity (identity raw) (identity own)

/-- A written parameter is no reference, and its name is a text. What is no mapping is read as no
parameter at all. -/
def IsInPlace (raw : Value) : Prop :=
  raw.isMap = true → raw.get? "$ref" = none ∧ ∃ name, raw.getD "name" = .str name

/-- The parameters of the operation with a key are kept if there are any, and those of the path
if there are none. -/
def Survives (s : Site) (doc : Value) (e : Endpoint) (k : String × ParameterPlace) : Prop :=
  withKey k e.parameters
    = if withKey k (s.ownParameters doc) = [] then withKey k (s.pathParameters doc)
      else withKey k (s.ownParameters doc)

/-- What is written and what is read agree on the parameters of the path with a key: they are
overridden if and only if the operation has a parameter with that key. -/
def AgreesOn (s : Site) (doc : Value) (k : String × ParameterPlace) : Prop :=
  ∀ raw ∈ s.pathRaws, ∀ p, s.parameter? doc raw = some p → p.key = k →
    (s.overrides raw = true ↔ ∃ q ∈ s.ownParameters doc, q.key = k)

/-! ## Merging -/

/-- What is merged are the parameters of the path that are not overridden, and those of the
operation behind them. -/
theorem eq_of_rawParameters {s : Site} {raws : List Value}
    (h : rawParameters (s.ofPath true) s.operation = some raws) :
    raws = s.pathRaws.filter (!s.overrides ·) ++ s.ownRaws := by
  unfold rawParameters at h
  dsimp only at h
  split at h
  · unfold mergeRaw at h
    dsimp only at h
    split at h
    · injection h with h
      rw [← h]
      congr 1
      refine List.filter_congr fun raw _ => ?_
      unfold overrides
      rw [Bool.not_and, List.any_map]
      rfl
    · cases h
  · next hfalse =>
    -- what counts as missing holds no parameters
    injection h with h
    have hnil : s.pathRaws = [] := by
      have hfalse : (s.item.getD "parameters").isTruthy = false := by simpa [ofPath] using hfalse
      unfold pathRaws listOf
      cases hv : s.item.getD "parameters" with
      | list xs =>
          rw [hv] at hfalse
          have hxs : xs = [] := by simpa [Value.isTruthy] using hfalse
          rw [hxs]
          rfl
      | knot n v =>
          rw [hv] at hfalse
          cases hfalse
      | _ => rfl
    rw [hnil, ← h]
    rfl

theorem parameters_eq {s : Site} {doc : Value} {e : Endpoint}
    (h : s.endpoint? doc true = some e) :
    e.parameters = (s.pathRaws.filter (!s.overrides ·)).filterMap (s.parameter? doc)
      ++ s.ownParameters doc := by
  obtain ⟨raws, body, codes, hraws, rfl⟩ := of_endpoint? h
  show raws.filterMap (s.parameter? doc) = _
  rw [eq_of_rawParameters hraws, List.filterMap_append]
  rfl

/-! ## Parameters with a key -/

theorem withKey_append (k : String × ParameterPlace) (ps qs : List Parameter) :
    withKey k (ps ++ qs) = withKey k ps ++ withKey k qs :=
  List.filter_append _ _

theorem withKey_eq_nil_iff {k : String × ParameterPlace} {ps : List Parameter} :
    withKey k ps = [] ↔ ¬ ∃ p ∈ ps, p.key = k := by
  unfold withKey
  rw [List.filter_eq_nil_iff]
  simp

section

variable {α : Type} {f : α → Option Parameter} {keep : α → Bool} {k : String × ParameterPlace}
  {xs : List α}

theorem withKey_filterMap_cons (f : α → Option Parameter) (x : α) :
    withKey k ((x :: xs).filterMap f)
      = withKey k (f x).toList ++ withKey k (xs.filterMap f) := by
  rw [← withKey_append, List.filterMap_cons]
  cases f x <;> rfl

theorem withKey_toList_eq_nil_iff {o : Option Parameter} :
    withKey k o.toList = [] ↔ ∀ p, o = some p → p.key ≠ k := by
  rw [withKey_eq_nil_iff]
  cases o with
  | none => simp
  | some p => simp

/-- None with the key is kept if and only if none of them is to be kept. -/
theorem withKey_filter_eq_nil_iff :
    withKey k ((xs.filter keep).filterMap f) = [] ↔
      ∀ x ∈ xs, ∀ p, f x = some p → p.key = k → keep x = false := by
  rw [withKey_eq_nil_iff]
  constructor
  · intro h x hx p hp hk
    by_contra hkeep
    have hkept : x ∈ xs.filter keep := List.mem_filter.2 ⟨hx, by simpa using hkeep⟩
    exact h ⟨p, List.mem_filterMap.2 ⟨x, hkept, hp⟩, hk⟩
  · rintro h ⟨p, hp, hk⟩
    obtain ⟨x, hx, hp⟩ := List.mem_filterMap.1 hp
    obtain ⟨hx, hkeep⟩ := List.mem_filter.1 hx
    rw [h x hx p hp hk] at hkeep
    cases hkeep

/-- What is kept is never longer than the whole. -/
theorem length_withKey_filter_le (xs : List α) :
    (withKey k ((xs.filter keep).filterMap f)).length ≤ (withKey k (xs.filterMap f)).length :=
  ((List.filter_sublist.filterMap f).filter _).length_le

/-- All with the key are kept if and only if each of them is to be kept. -/
theorem withKey_filter_eq_iff :
    withKey k ((xs.filter keep).filterMap f) = withKey k (xs.filterMap f) ↔
      ∀ x ∈ xs, ∀ p, f x = some p → p.key = k → keep x = true := by
  induction xs with
  | nil => simp
  | cons x xs ih =>
      rw [List.forall_mem_cons, withKey_filterMap_cons]
      by_cases hkeep : keep x = true
      · rw [List.filter_cons_of_pos hkeep, withKey_filterMap_cons, List.append_cancel_left_eq, ih]
        simp [hkeep]
      · rw [List.filter_cons_of_neg hkeep]
        by_cases hx : withKey k (f x).toList = []
        · rw [hx, List.nil_append, ih]
          rw [withKey_toList_eq_nil_iff] at hx
          constructor
          · exact fun h => ⟨fun p hp hk => absurd hk (hx p hp), h⟩
          · exact fun h => h.2
        · constructor
          · intro h
            have hlength := congrArg List.length h
            have hpos := List.length_pos_iff.2 hx
            have hle : (withKey k ((xs.filter keep).filterMap f)).length
                ≤ (withKey k (xs.filterMap f)).length := length_withKey_filter_le xs
            rw [List.length_append] at hlength
            omega
          · rintro ⟨h, -⟩
            refine absurd (withKey_toList_eq_nil_iff.2 fun p hp hk => ?_) hx
            exact hkeep (h p hp hk)

end

/-- The parameters with a key survive if and only if what is written and what is read agree. -/
theorem survives_iff {s : Site} {doc : Value} {e : Endpoint} (h : s.endpoint? doc true = some e)
    (k : String × ParameterPlace) : s.Survives doc e k ↔ s.AgreesOn doc k := by
  unfold Survives AgreesOn
  rw [parameters_eq h, withKey_append]
  by_cases hown : withKey k (s.ownParameters doc) = []
  · rw [if_pos hown, hown, List.append_nil]
    have hnone := withKey_eq_nil_iff.1 hown
    calc _ ↔ ∀ raw ∈ s.pathRaws, ∀ p, s.parameter? doc raw = some p → p.key = k →
          (!s.overrides raw) = true := withKey_filter_eq_iff
      _ ↔ _ := by simp only [hnone, iff_false, Bool.not_eq_true', Bool.not_eq_true]
  · rw [if_neg hown, List.append_left_eq_self]
    have hsome := not_not.1 (mt withKey_eq_nil_iff.2 hown)
    calc _ ↔ ∀ raw ∈ s.pathRaws, ∀ p, s.parameter? doc raw = some p → p.key = k →
          (!s.overrides raw) = false := withKey_filter_eq_nil_iff
      _ ↔ _ := by simp only [hsome, iff_true, Bool.not_eq_false']

/-! ## Parameters that are written in place -/

theorem name_of_ofName? {t : String} {place : ParameterPlace}
    (h : ParameterPlace.ofName? t = some place) : place.name = t := by
  have h := List.find?_some h
  simpa using h

/-- Only a mapping is read as a parameter. -/
theorem isMap_of_parameter? {s : Site} {doc raw : Value} {p : Parameter}
    (h : s.parameter? doc raw = some p) : raw.isMap = true := by
  by_contra hmap
  simp only [Bool.not_eq_true] at hmap
  have href : raw.get? "$ref" = none := by
    rw [Value.isMap_eq, Option.isSome_eq_false_iff, Option.isNone_iff_eq_none] at hmap
    rw [Value.get?_eq_bind, hmap]
    rfl
  unfold parameter? readParameter readDirect at h
  rw [href, hmap] at h
  cases h

/-- A parameter is read from a mapping with a name and a known place. -/
theorem of_readDirect {label : String} {raw : Value} {p : Parameter}
    (h : (readDirect label raw).1 = some p) :
    raw.isMap = true ∧ (raw.getD "name").isTruthy = true ∧
      p.name = (raw.getD "name").plainText ∧ raw.getD "in" = .str p.place.name ∧
      p.required = (raw.getD "required").isTruthy := by
  unfold readDirect at h
  dsimp only at h
  by_cases hmap : raw.isMap = true
  · rw [hmap, if_neg (by decide)] at h
    by_cases hname : (raw.getD "name").isTruthy = true
    · rw [hname] at h
      cases hplace : (raw.getD "in").asText?.bind ParameterPlace.ofName? with
      | none =>
          simp only [hplace] at h
          cases h
      | some place =>
          simp only [hplace] at h
          obtain ⟨t, ht, hof⟩ := Option.bind_eq_some_iff.1 hplace
          have hin : raw.getD "in" = .str t := Value.eq_str_of_asText? ht
          injection h with h
          rw [← h]
          refine ⟨hmap, hname, rfl, ?_, rfl⟩
          rw [hin, name_of_ofName? hof]
    · simp only [Bool.not_eq_true] at hname
      rw [hname] at h
      cases h
  · simp only [Bool.not_eq_true] at hmap
    rw [hmap] at h
    cases h

/-- A mapping with a name and a known place is read as a parameter. -/
theorem exists_readDirect {label : String} {raw : Value} {place : ParameterPlace}
    (hmap : raw.isMap = true) (hname : (raw.getD "name").isTruthy = true)
    (hin : raw.getD "in" = .str place.name) :
    ∃ p, (readDirect label raw).1 = some p ∧ p.key = ((raw.getD "name").plainText, place) := by
  have hplace : (raw.getD "in").asText?.bind ParameterPlace.ofName? = some place := by
    rw [hin]
    cases place <;> rfl
  unfold readDirect
  dsimp only
  rw [hmap, hname]
  simp only [hplace]
  exact ⟨_, rfl, rfl⟩

/-- Of parameters that are written in place those with one key are written alike. -/
theorem agreesOn_of_isInPlace {s : Site} {doc : Value}
    (h : ∀ raw ∈ s.pathRaws ++ s.ownRaws, IsInPlace raw) (k : String × ParameterPlace) :
    s.AgreesOn doc k := by
  intro raw hraw p hp hk
  have hplain := h raw (List.mem_append_left _ hraw)
  have hmap := isMap_of_parameter? hp
  rw [s.parameter?_of_ref_none doc (hplain hmap).1] at hp
  obtain ⟨-, htruthy, hname, hin, -⟩ := of_readDirect hp
  obtain ⟨-, name, hraw⟩ := hplain hmap
  have hkey : k = (name, p.place) := by
    rw [← hk, Parameter.key, hname, hraw]
    rfl
  unfold overrides
  rw [hmap, Bool.true_and, List.any_eq_true]
  constructor
  · rintro ⟨own, hown, hsame⟩
    obtain ⟨hown, hownMap⟩ := List.mem_filter.1 hown
    obtain ⟨hsameName, hsamePlace⟩ := Bool.and_eq_true_iff.1 hsame
    have hownName : own.getD "name" = .str name := by
      refine Value.eq_str_of_sameKey ?_
      rw [← hraw]
      exact hsameName
    have hownIn : own.getD "in" = .str p.place.name := by
      refine Value.eq_str_of_sameKey ?_
      rw [← hin]
      exact hsamePlace
    have hownTruthy : (own.getD "name").isTruthy = true := by
      rw [hownName, ← hraw]
      exact htruthy
    obtain ⟨q, hq, hqk⟩ : ∃ q, (readDirect s.label own).1 = some q ∧
        q.key = ((own.getD "name").plainText, p.place) :=
      exists_readDirect hownMap hownTruthy hownIn
    refine ⟨q, List.mem_filterMap.2 ⟨own, hown, ?_⟩, ?_⟩
    · rw [s.parameter?_of_ref_none doc (h own (List.mem_append_right _ hown) hownMap).1]
      exact hq
    · rw [hqk, hownName, hkey]
      rfl
  · rintro ⟨q, hq, hqk⟩
    obtain ⟨own, hown, hq⟩ := List.mem_filterMap.1 hq
    have hownPlain := h own (List.mem_append_right _ hown)
    have hownMap := isMap_of_parameter? hq
    rw [s.parameter?_of_ref_none doc (hownPlain hownMap).1] at hq
    obtain ⟨-, -, hqname, hqin, -⟩ := of_readDirect hq
    obtain ⟨-, ownName, hownRaw⟩ := hownPlain hownMap
    rw [hkey] at hqk
    injection hqk with hqn hqp
    refine ⟨own, List.mem_filter.2 ⟨hown, hownMap⟩, Bool.and_eq_true_iff.2 ⟨?_, ?_⟩⟩
    · show (raw.getD "name").sameKey (own.getD "name") = true
      have hsame : ownName = name := by
        rw [← hqn, hqname, hownRaw]
        rfl
      rw [hraw, hownRaw, hsame]
      exact beq_self_eq_true name
    · show (raw.getD "in").sameKey (own.getD "in") = true
      rw [hin, hqin, hqp]
      exact beq_self_eq_true p.place.name

/-! ## All operations -/

/-- **The parameters of a path with some name and place survive in an operation if and only if
what is written and what is read agree on them**: they are written with the name and place of
one of the operation exactly if one of the operation is read with that name and place. This is so
whenever all parameters are written in place and named by texts. -/
theorem path_parameters_survive_iff {doc : Value} {a : Api} (ha : (read doc true).1 = .ok a) :
    (∀ e, e ∈ a.endpoints ↔ ∃ s ∈ sites doc, s.endpoint? doc true = some e) ∧
      ∀ s ∈ sites doc, ∀ e, s.endpoint? doc true = some e →
        (∀ k, s.Survives doc e k ↔ s.AgreesOn doc k) ∧
        ((∀ raw ∈ s.pathRaws ++ s.ownRaws, IsInPlace raw) → ∀ k, s.Survives doc e k) := by
  constructor
  · intro e
    rw [endpoints_eq ha]
    exact List.mem_filterMap
  · intro s _ e he
    refine ⟨survives_iff he, fun h k => ?_⟩
    rw [survives_iff he]
    exact agreesOn_of_isInPlace h k

/-! ### A parameter of a path beside one of an operation -/

/-- A parameter of requests for rentals. -/
def tenant : Parameter := { name := "tenant", place := .header }

/-- Another one, without a name in common with the first. -/
def limit : Parameter := { name := "limit", place := .query }

/-- A parameter written in place. -/
def written (p : Parameter) : Value :=
  Value.object [("name", .str p.name), ("in", .str p.place.name)]

/-- A parameter written as a reference. -/
def reference (p : Parameter) : Value :=
  Value.object [("$ref", .str ("#/components/parameters/" ++ p.name))]

/-- What is said about the operation that finds rentals. -/
def findRentals (write : Parameter → Value) : Value :=
  Value.object [("parameters", .list [write limit])]

/-- What is said about its path. -/
def rentalsItem (write : Parameter → Value) : Value :=
  Value.object [("parameters", .list [write tenant]), ("get", findRentals write)]

/-- A document whose only path has the one parameter and its only operation the other one. -/
def rentals (write : Parameter → Value) : Value :=
  Value.object
    [("paths", Value.object [("/rentals", rentalsItem write)]),
     ("components", Value.object
       [("parameters", Value.object
         [(tenant.name, written tenant), (limit.name, written limit)])])]

/-- The only site of that document. -/
def rentalsSite (write : Parameter → Value) : Site :=
  ⟨"/rentals", rentalsItem write, .get, findRentals write⟩

theorem rentals_keeps_tenant :
    ∃ a e, (read (rentals written) true).1 = .ok a ∧ e ∈ a.endpoints ∧
      (rentalsSite written).endpoint? (rentals written) true = some e ∧
      (rentalsSite written).Survives (rentals written) e tenant.key ∧
      withKey tenant.key ((rentalsSite written).pathParameters (rentals written)) = [tenant] := by
  obtain ⟨a, ha⟩ : ∃ a, (read (rentals written) true).1 = .ok a := ⟨_, rfl⟩
  obtain ⟨e, he⟩ : ∃ e, (rentalsSite written).endpoint? (rentals written) true = some e := ⟨_, rfl⟩
  have hs : rentalsSite written ∈ sites (rentals written) := List.mem_cons_self
  obtain ⟨hmem, hsites⟩ := path_parameters_survive_iff ha
  refine ⟨a, e, ha, (hmem e).2 ⟨_, hs, he⟩, he, ?_, rfl⟩
  refine (hsites _ hs e he).2 (fun raw hraw _ => ?_) tenant.key
  have hraw : raw ∈ [written tenant, written limit] := hraw
  rcases List.mem_cons.1 hraw with rfl | hraw
  · exact ⟨rfl, _, rfl⟩
  · obtain rfl := List.mem_singleton.1 hraw
    exact ⟨rfl, _, rfl⟩

/-- When both are references, that of the operation is written like that of the path, and the
parameter of the path is lost. -/
theorem rentals_loses_tenant :
    ∃ a e, (read (rentals reference) true).1 = .ok a ∧ a.endpoints = [e] ∧
      rentalsSite reference ∈ sites (rentals reference) ∧
      (rentalsSite reference).endpoint? (rentals reference) true = some e ∧
      (rentalsSite reference).pathParameters (rentals reference) = [tenant] ∧
      (rentalsSite reference).ownParameters (rentals reference) = [limit] ∧
      e.parameters = [limit] ∧ ¬ ∃ q ∈ e.parameters, q.key = tenant.key := by
  refine ⟨_, _, rfl, rfl, List.mem_cons_self, rfl, rfl, rfl, rfl, ?_⟩
  rintro ⟨q, hq, hk⟩
  obtain rfl : q = limit := List.mem_singleton.1 hq
  exact absurd hk (by decide)

end Api.Site

end ApiTools
