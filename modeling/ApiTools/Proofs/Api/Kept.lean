import ApiTools.Proofs.Api.Operations
import ApiTools.Proofs.Value.Members

set_option autoImplicit false

/-!
# What is kept when an interface is read

An interface is read from every document that has paths, as long as the flows of its security
schemes have texts as keys. Of its operations one is passed over, with a warning, exactly when a
schema in its body is malformed or the code of a response is no text.
-/

namespace ApiTools.Api

/-! ## Readings of several values -/

theorem isSome_mapM {α β : Type} (f : α → Option β) (xs : List α) :
    (xs.mapM f).isSome = xs.all fun x => (f x).isSome := by
  induction xs with
  | nil => rfl
  | cons x xs ih =>
      rw [List.mapM_cons, List.all_cons, ← ih]
      cases f x with
      | none => rfl
      | some y => cases xs.mapM f <;> rfl

/-- Each result comes from one of the values. -/
theorem exists_of_mem_mapM {α β : Type} {f : α → Option β} {xs : List α} {ys : List β}
    (h : xs.mapM f = some ys) {y : β} (hy : y ∈ ys) : ∃ x ∈ xs, f x = some y := by
  induction xs generalizing ys with
  | nil =>
      obtain rfl := Option.some.inj h
      cases hy
  | cons x xs ih =>
      rw [List.mapM_cons] at h
      obtain ⟨z, hz, h⟩ := Option.bind_eq_some_iff.1 h
      obtain ⟨zs, hzs, h⟩ := Option.bind_eq_some_iff.1 h
      obtain rfl := Option.some.inj h
      rcases List.mem_cons.1 hy with rfl | hy
      · exact ⟨x, List.mem_cons_self, hz⟩
      · obtain ⟨x', hx', hfx⟩ := ih hzs hy
        exact ⟨x', List.mem_cons_of_mem x hx', hfx⟩

/-! ## Security schemes -/

/-- Whether the flows of a security scheme, if it has any, have texts as keys. -/
def hasTextFlows (data : Value) : Bool :=
  ((flowsOf data).getD []).all fun flow => flow.1.readText?.isSome

/-- The security schemes of a document. -/
def schemesOf (doc : Value) : Members :=
  group (membersOf doc) "securitySchemes" "securityDefinitions"

theorem isOk_readScheme (name : String) (data : Value) :
    (readScheme name data).isOk = hasTextFlows data := by
  unfold readScheme hasTextFlows
  cases flowsOf data with
  | none => rfl
  | some flows =>
      -- the keys are read together with what stands under them
      have hkeys := isSome_mapM (fun m : Value × Value => m.1.readText?.map fun k => (k, m.2)) flows
      simp only [Option.isSome_map] at hkeys
      rw [Option.getD_some, ← hkeys]
      dsimp only
      cases flows.mapM fun m : Value × Value => m.1.readText?.map fun k => (k, m.2) <;> rfl

theorem hasTextFlows_of_isMap_false {data : Value} (h : data.isMap = false) :
    hasTextFlows data = true := by
  unfold hasTextFlows flowsOf
  rw [Value.get?_of_isMap_false h, Value.get?_of_isMap_false h]
  rfl

/-- A security scheme is read before those behind it, and passed over if it is no mapping. -/
theorem readSchemes_cons (m : Value × Value) (rest : Members) :
    (readSchemes (m :: rest)).1 = if m.2.isMap then
        (readScheme m.1.plainText m.2).bind fun s =>
          (readSchemes rest).1.map ((m.1.plainText, s) :: ·)
      else (readSchemes rest).1 := by
  rw [readSchemes]
  cases m.2.isMap with
  | false => rfl
  | true =>
      dsimp only
      cases readScheme m.1.plainText m.2 with
      | error f => rfl
      | ok s => rfl

theorem isOk_readSchemes (ms : Members) :
    (readSchemes ms).1.isOk = ms.all fun m => hasTextFlows m.2 := by
  induction ms with
  | nil => rfl
  | cons m rest ih =>
      rw [readSchemes_cons, List.all_cons, ← ih]
      cases hmap : m.2.isMap with
      | false =>
          rw [hasTextFlows_of_isMap_false hmap]
          rfl
      | true =>
          rw [← isOk_readScheme m.1.plainText, if_pos rfl]
          cases readScheme m.1.plainText m.2 with
          | error f => rfl
          | ok s => cases (readSchemes rest).1 <;> rfl

/-- The paths of a document. -/
def pathsOf? (doc : Value) : Option Members :=
  (Value.member? (membersOf doc) "paths").bind Value.asMap?

/-- An interface is read from a document with paths whose schemes have texts as keys of their
flows, and from no other one. -/
theorem isOk_read (doc : Value) (merge : Bool) :
    (read doc merge).1.isOk
      = ((pathsOf? doc).isSome && (schemesOf doc).all fun m => hasTextFlows m.2) := by
  unfold read pathsOf? schemesOf membersOf
  cases doc.asMap? with
  | none => rfl
  | some ms =>
      dsimp only
      rw [Option.getD_some, ← isOk_readSchemes]
      cases (Value.member? ms "paths").bind Value.asMap? with
      | none => rfl
      | some paths =>
          dsimp only
          cases (readSchemes (group ms "securitySchemes" "securityDefinitions")).1 <;> rfl

theorem exists_read {doc : Value} {merge : Bool} {paths : Members}
    (hpaths : pathsOf? doc = some paths)
    (hflows : ∀ scheme ∈ schemesOf doc, hasTextFlows scheme.2 = true) :
    ∃ a, (read doc merge).1 = .ok a := by
  have hok := isOk_read doc merge
  rw [hpaths, List.all_eq_true.2 hflows] at hok
  cases hread : (read doc merge).1 with
  | ok a => exact ⟨a, rfl⟩
  | error f =>
      rw [hread] at hok
      cases hok

/-! ## Bodies -/

/-- The body of a request, its reference followed. -/
def followedBody (doc : Members) (raw : Value) : Value :=
  match raw.get? "$ref" with
  | some ref => (lookup doc ref).getD .null
  | none => raw

/-- The schemas of the media types of a body, as they are written. -/
def contentSchemas (body : Value) : List Value :=
  (((body.get? "content").bind Value.asMap?).getD []).filterMap fun m => schemaIn? m.2

/-- Whether every schema in the body of an operation can be read. -/
def hasReadableBody (doc operation : Value) : Bool :=
  (contentSchemas (followedBody (membersOf doc) (operation.getD "requestBody"))).all fun s =>
    (Schema.read s).isOk

theorem isSome_readContent (ms : Members) :
    (readContent ms).isSome
      = (ms.filterMap fun m => schemaIn? m.2).all fun s => (Schema.read s).isOk := by
  unfold readContent
  rw [Option.isSome_map, isSome_mapM, List.all_filterMap]
  congr 1
  funext m
  cases schemaIn? m.2 with
  | none => rfl
  | some s => cases hs : Schema.read s <;> simp [hs, Except.toOption, Except.isOk, Except.toBool]

theorem isSome_readDirectBody (body : Value) :
    (readDirectBody body).isSome = (contentSchemas body).all fun s => (Schema.read s).isOk := by
  unfold readDirectBody contentSchemas
  rw [Option.isSome_map]
  cases (body.get? "content").bind Value.asMap? with
  | none => rfl
  | some ms => exact isSome_readContent ms

theorem isOk_readBody (doc : Members) (raw : Value) :
    (readBody doc raw).1.isOk
      = (contentSchemas (followedBody doc raw)).all fun s => (Schema.read s).isOk := by
  show (if raw.isNull then _ else if !(followedBody doc raw).isMap then _ else _ :
    Except Unit (Option RequestBody) × List Log.Note).1.isOk = _
  split
  · next hnull =>
    cases raw <;> cases hnull
    rfl
  · cases hmap : (followedBody doc raw).isMap with
    | false =>
        unfold contentSchemas
        rw [Value.get?_of_isMap_false hmap]
        rfl
    | true =>
        rw [← isSome_readDirectBody, if_neg (by decide)]
        split
        · next hbody => exact (congrArg Option.isSome hbody).symm
        · next hbody => exact (congrArg Option.isSome hbody).symm

/-! ## Operations -/

namespace Site

/-- Whether all codes of responses are texts. -/
def hasTextCodes (s : Site) : Bool := (responseCodes s.operation).isSome

/-- An operation is kept if its body can be read and the codes of its responses are texts. -/
theorem isSome_endpoint? (s : Site) (doc : Value) :
    (s.endpoint? doc false).isSome = (hasReadableBody doc s.operation && s.hasTextCodes) := by
  have hraws : rawParameters (s.ofPath false) s.operation = some s.ownRaws := rfl
  rw [endpoint?_eq, hraws, Option.bind_some]
  unfold hasReadableBody hasTextCodes
  rw [← isOk_readBody]
  cases (readBody (membersOf doc) (s.operation.getD "requestBody")).1 with
  | error u => rfl
  | ok body => cases responseCodes s.operation <;> rfl

/-- An operation that is kept has the path and the method of its site. -/
theorem path_method_of_endpoint? {s : Site} {doc : Value} {merge : Bool} {e : Endpoint}
    (h : s.endpoint? doc merge = some e) : e.path = s.path ∧ e.method = s.method := by
  obtain ⟨raws, body, codes, -, rfl⟩ := of_endpoint? h
  exact ⟨rfl, rfl⟩

end Site

theorem ofName?_name (method : Method) : Method.ofName? method.name = some method := by
  cases method <;> rfl

/-- A method is found under its own name only. -/
theorem eq_name_of_ofName? {name : String} {method : Method}
    (h : Method.ofName? name = some method) : name = method.name := by
  have hbeq := List.find?_some h
  exact (beq_iff_eq.1 hbeq).symm

/-- Under the name of a method there is a site, if a mapping is there. -/
theorem mem_sites {doc operation : Value} {paths item : Members} {path : Value × Value}
    {method : Method} (hpaths : pathsOf? doc = some paths) (hpath : path ∈ paths)
    (hitem : path.2.asMap? = some item) (hm : (.str method.name, operation) ∈ item)
    (hmap : operation.isMap = true) :
    ⟨path.1.plainText, path.2, method, operation⟩ ∈ sites doc := by
  have hsite : site? path.1.plainText path.2 (.str method.name, operation)
      = some ⟨path.1.plainText, path.2, method, operation⟩ := by
    show ((Method.ofName? method.name).bind _) = _
    rw [ofName?_name, Option.bind_some, if_pos hmap]
  have hin : ⟨path.1.plainText, path.2, method, operation⟩ ∈ pathSites path := by
    unfold pathSites
    rw [hitem]
    exact List.mem_filterMap.2 ⟨_, hm, hsite⟩
  show _ ∈ ((pathsOf? doc).getD []).flatMap pathSites
  rw [hpaths]
  exact List.mem_flatMap.2 ⟨path, hpath, hin⟩

/-- A site is under the name of its method, in the item of its path. -/
theorem exists_of_mem_sites {doc : Value} {s : Site} (h : s ∈ sites doc) :
    ∃ paths path item, pathsOf? doc = some paths ∧ path ∈ paths ∧ path.2.asMap? = some item ∧
      (.str s.method.name, s.operation) ∈ item := by
  have h : s ∈ ((pathsOf? doc).getD []).flatMap pathSites := h
  obtain ⟨path, hpath, hs⟩ := List.mem_flatMap.1 h
  obtain ⟨m, hm, hsite⟩ := List.mem_filterMap.1 hs
  cases hpaths : pathsOf? doc with
  | none =>
      rw [hpaths] at hpath
      cases hpath
  | some paths =>
      cases hitem : path.2.asMap? with
      | none =>
          rw [hitem] at hm
          cases hm
      | some item =>
          rw [hpaths] at hpath
          rw [hitem] at hm
          refine ⟨paths, path, item, rfl, hpath, hitem, ?_⟩
          obtain ⟨method, hmethod, hsite⟩ := Option.bind_eq_some_iff.1 hsite
          obtain ⟨name, hname, hof⟩ := Option.bind_eq_some_iff.1 hmethod
          split at hsite
          · obtain rfl := Option.some.inj hsite
            have hkey : m.1 = .str method.name := by
              rw [← eq_name_of_ofName? hof]
              exact Value.eq_str_of_asText? hname
            rw [show (Value.str method.name, m.2) = m from Prod.ext hkey.symm rfl]
            exact hm
          · cases hsite

/-! ## Warnings -/

/-- What is noted at an operation is noted about the document. -/
theorem mem_notes_read {doc : Value} {merge : Bool} {paths item : Members}
    {path m : Value × Value} {note : Log.Note} (hpaths : pathsOf? doc = some paths)
    (hpath : path ∈ paths) (hitem : path.2.asMap? = some item) (hm : m ∈ item)
    (hnote : note ∈ (readOperation (membersOf doc) path.1.plainText
      (if merge then path.2.getD "parameters" else .null) m).2) : note ∈ (read doc merge).2 := by
  have hread : note ∈ (readEndpoints (membersOf doc) paths merge).2 := by
    refine List.mem_flatMap.2 ⟨_, List.mem_map_of_mem hpath, ?_⟩
    unfold readPath
    rw [hitem]
    exact List.mem_flatMap.2 ⟨_, List.mem_map_of_mem hm, hnote⟩
  unfold read
  unfold pathsOf? at hpaths
  cases hdoc : doc.asMap? with
  | none =>
      unfold membersOf at hpaths
      rw [hdoc] at hpaths
      cases hpaths
  | some ms =>
      have hms : membersOf doc = ms := by
        unfold membersOf
        rw [hdoc]
        rfl
      rw [hms] at hpaths hread
      dsimp only
      rw [hpaths]
      simp only [List.mem_append, hread, or_true, true_or]

/-- An operation that is passed over is warned about. -/
theorem warning_of_endpoint?_eq_none {doc : Value} {merge : Bool} {s : Site}
    (hmap : s.operation.isMap = true) (h : s.endpoint? doc merge = none) :
    Log.warning ("Skipping " ++ s.label ++ ": " ++ cause) ∈
      (readOperation (membersOf doc) s.path (s.ofPath merge) (.str s.method.name, s.operation)).2 := by
  have hmethod : (Value.str s.method.name).asText?.bind Method.ofName? = some s.method :=
    ofName?_name s.method
  unfold readOperation
  rw [hmethod]
  dsimp only
  rw [hmap, if_neg (by decide)]
  unfold Site.endpoint? at h
  cases hread : readEndpoint (membersOf doc) s.path s.method s.operation (s.ofPath merge) with
  | mk result notes =>
      rw [hread] at h
      cases result with
      | ok e => cases h
      | error u => exact List.mem_append_right _ (List.mem_singleton_self _)

end ApiTools.Api
