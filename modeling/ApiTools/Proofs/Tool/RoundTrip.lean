import ApiTools.Proofs.Property.RoundTrip
import ApiTools.Tool.Reader
import ApiTools.Tool.Writer

set_option autoImplicit false

/-!
# Tools are read as they are written

A tool comes back as it was written if its properties have different names and hold nothing but
values of JSON. The codes of failures are written as texts, since they are keys; the usual ones are
read as the numbers that they were.
-/

namespace ApiTools

open Record

/-! ## Inputs -/

theorem readMembers_properties {ps : Properties} (h : ∀ e ∈ ps, e.2.HoldsJson) :
    readMembers Value.readText? Property.read?
      (Value.keyed (ps.map fun (n, p) => (n, p.toValue))) = some ps := by
  unfold readMembers Value.keyed
  rw [List.map_map]
  refine mapM_map_of_inverse fun e he => ?_
  have hread : Property.read? e.2.toValue = some e.2 := (h e he).read?_toValue
  show (Property.read? e.2.toValue).bind (fun p => some (e.1, p)) = some e
  rw [hread]
  rfl

theorem InputSchema.read?_toValue {s : InputSchema} (hn : (Named.names s.properties).Nodup)
    (h : ∀ e ∈ s.properties, e.2.HoldsJson) : InputSchema.read? s.toValue = some s := by
  show (readMembers Value.readText? Property.read?
    (Value.keyed (s.properties.map fun (n, p) => (n, p.toValue)))).bind (fun properties =>
      (Value.readTexts? (.list (s.required.map .str))).bind fun required =>
        some ⟨Named.ofList properties, required⟩) = some s
  rw [readMembers_properties h, Option.bind_some, Value.readTexts?_list, Option.bind_some,
    Named.ofList_of_nodup hn]

theorem InputSchema.flaw?_toValue {s : InputSchema} (h : ∀ e ∈ s.properties, e.2.HoldsJson) :
    s.toValue.flaw? = none := by
  unfold InputSchema.toValue
  rw [Value.flaw?_object_eq_none_iff]
  simp only [List.forall_mem_cons]
  refine ⟨rfl, ?_, Value.flaw?_list_map (fun _ => rfl) s.required, List.forall_mem_nil _⟩
  rw [Value.flaw?_object_eq_none_iff, List.forall_mem_map]
  exact fun e he => (h e he).flaw?_toValue

/-! ## The other parts -/

theorem Authentication.read?_toValue (a : Authentication) :
    Authentication.read? a.toValue = some a := by
  cases a with
  | apiKey place name setting => cases place <;> rfl
  | bearer setting => rfl
  | basic setting => rfl
  | oauth2 setting => rfl

theorem Authentication.flaw?_toValue (a : Authentication) : a.toValue.flaw? = none := by
  cases a <;> rfl

theorem Authentication.toValue_ne_null (a : Authentication) : a.toValue ≠ .null := by
  cases a <;> simp [toValue, Value.object]

theorem ResponseHandling.read?_toValue (r : ResponseHandling) :
    ResponseHandling.read? r.toValue = some r := by
  have hcodes : (r.successCodes.map Value.int).mapM Value.readInt? = some r.successCodes :=
    mapM_map_of_inverse fun _ _ => rfl
  have htype : ResponseType.ofName? r.responseType.name = some r.responseType := by
    cases r.responseType <;> rfl
  show ((r.successCodes.map Value.int).mapM Value.readInt?).bind (fun codes =>
    (ResponseType.ofName? r.responseType.name).bind fun type => some ⟨codes, type⟩) = some r
  rw [hcodes, htype]
  rfl

theorem ResponseHandling.flaw?_toValue (r : ResponseHandling) : r.toValue.flaw? = none := by
  unfold toValue
  rw [Value.flaw?_object_eq_none_iff]
  simp only [List.forall_mem_cons]
  exact ⟨Value.flaw?_list_map (fun _ => rfl) r.successCodes, rfl, List.forall_mem_nil _⟩

/-- The usual codes are texts when they are written, and numbers again when they are read. -/
theorem ErrorHandling.read?_toValue_usual :
    ErrorHandling.read? ({} : ErrorHandling).toValue = some {} := by
  decide

/-! ## Tools -/

namespace Tool

/-- The fields of a tool. -/
def fields (t : Tool) : Fields :=
  [("name", some (.str t.name)), ("description", some (.str t.description)),
   ("inputSchema", some t.input.toValue), ("method", some (.str t.method)),
   ("path", some (.str t.path)), ("baseUrl", t.baseUrl.map .str),
   ("authentication", t.authentication.map Authentication.toValue),
   ("responseHandling", some t.responses.toValue), ("errorHandling", some t.errors.toValue)]

theorem toValue_eq (t : Tool) : t.toValue = .map (Value.keyed (written t.fields)) := by
  obtain ⟨name, description, input, method, path, baseUrl, authentication, responses, errors⟩ := t
  cases baseUrl <;> cases authentication <;> rfl

theorem member?_written (t : Tool) (key : String) :
    Value.member? (Value.keyed (written t.fields)) key = (Named.get? t.fields key).join := by
  have hnodup : (Named.names t.fields).Nodup := by
    show ["name", "description", "inputSchema", "method", "path", "baseUrl", "authentication",
      "responseHandling", "errorHandling"].Nodup
    decide
  rw [Value.member?_keyed, get?_written hnodup]

/-- What a tool is made of so that it can be written: its properties have different names and hold
values of JSON, and the codes of failures are the usual ones. -/
structure IsWritable (t : Tool) : Prop where
  names_nodup : (Named.names t.input.properties).Nodup
  properties : ∀ e ∈ t.input.properties, e.2.HoldsJson
  errors : t.errors = {}

/-- The members of a tool that can be written are all in order. -/
theorem IsWritable.readMembers?_written {t : Tool} (h : t.IsWritable) :
    readMembers? (Value.keyed (written t.fields)) = some t := by
  have get := t.member?_written
  unfold readMembers?
  refine Option.bind_eq_some_iff.2 ⟨t.name, needed?_eq rfl (get "name"), ?_⟩
  refine Option.bind_eq_some_iff.2 ⟨t.description, needed?_eq rfl (get "description"), ?_⟩
  refine Option.bind_eq_some_iff.2 ⟨t.input,
    orElse?_eq (InputSchema.read?_toValue h.names_nodup h.properties) (get "inputSchema"), ?_⟩
  refine Option.bind_eq_some_iff.2 ⟨t.method, needed?_eq rfl (get "method"), ?_⟩
  refine Option.bind_eq_some_iff.2 ⟨t.path, needed?_eq rfl (get "path"), ?_⟩
  refine Option.bind_eq_some_iff.2
    ⟨t.baseUrl, optional?_text (get "baseUrl") (.inr (get "base_url")), ?_⟩
  refine Option.bind_eq_some_iff.2 ⟨t.authentication,
    optional?_eq (fun a _ => ⟨a.toValue_ne_null, a.read?_toValue⟩) (get "authentication")
      (.inl rfl), ?_⟩
  refine Option.bind_eq_some_iff.2
    ⟨t.responses, orElse?_eq t.responses.read?_toValue (get "responseHandling"), ?_⟩
  have herrors : ErrorHandling.read? t.errors.toValue = some t.errors := by
    rw [h.errors]
    exact ErrorHandling.read?_toValue_usual
  refine Option.bind_eq_some_iff.2
    ⟨t.errors, orElse?_eq herrors (get "errorHandling"), ?_⟩
  rfl

/-- A tool that can be written is read as it was written. -/
theorem IsWritable.read_toValue {t : Tool} (h : t.IsWritable) : Tool.read t.toValue = .ok t := by
  rw [toValue_eq, Tool.read, h.readMembers?_written]

theorem IsWritable.flaw?_toValue {t : Tool} (h : t.IsWritable) : t.toValue.flaw? = none := by
  have scalar := @Value.flaw?_of_map_all
  have herrors : t.errors.toValue.flaw? = none := by
    rw [h.errors]
    rfl
  rw [toValue_eq]
  refine Value.flaw?_written ?_
  unfold fields
  simp only [List.forall_mem_cons]
  exact ⟨scalar (x := some t.name) fun _ => rfl, scalar (x := some t.description) fun _ => rfl,
    fun v hv => Option.some.inj hv ▸ InputSchema.flaw?_toValue h.properties,
    scalar (x := some t.method) fun _ => rfl, scalar (x := some t.path) fun _ => rfl,
    scalar fun _ => rfl, scalar Authentication.flaw?_toValue,
    scalar (x := some t.responses) ResponseHandling.flaw?_toValue,
    fun v hv => Option.some.inj hv ▸ herrors, List.forall_mem_nil _⟩

/-- A tool that can be written is serialised, whatever the limit for levels is, unless it takes up
more levels, and what it is serialised to is read as the tool. -/
theorem IsWritable.read_toDict {t : Tool} (h : t.IsWritable) (limit : Nat) :
    t.toDict limit = (if limit < t.levels then .error .tooDeep else .ok t.toValue) ∧
      ∀ d, t.toDict limit = .ok d → Tool.read d = .ok t := by
  refine ⟨Value.serialised_of_flaw?_eq_none h.flaw?_toValue limit _, fun d hd => ?_⟩
  obtain ⟨-, -, rfl⟩ := Value.serialised_eq_ok_iff.1 hd
  exact h.read_toValue

end Tool

end ApiTools
