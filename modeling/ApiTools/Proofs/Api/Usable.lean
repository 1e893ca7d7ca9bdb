import ApiTools.Proofs.Api.Malformed
import ApiTools.Proofs.Api.PathParameters
import ApiTools.Proofs.Dialect.Schema
import ApiTools.Proofs.Value.Keyed

set_option autoImplicit false

/-!
# Usable operations

The operations of an interface are the usable ones of its document, in the order of the document.
What stands under a key of a path item is usable if the key is the name of a method, a mapping
stands there, and every schema in the body can be read. Nothing else that is said there matters,
nor what is said elsewhere. In the same way an operation has those of its parameters that are
mappings with a name and a known place, once references are followed.
-/

namespace ApiTools.Api

/-! ## Kept in order -/

/-- What comes of the elements of a list corresponds to those of them that something comes of. -/
theorem forall₂_filterMap_filter {α β : Type} {f : α → Option β} {keep : α → Bool}
    {R : β → α → Prop} {xs : List α} (hkeep : ∀ x ∈ xs, (f x).isSome = keep x)
    (hR : ∀ x ∈ xs, ∀ y, f x = some y → R y x) :
    List.Forall₂ R (xs.filterMap f) (xs.filter keep) := by
  induction xs with
  | nil => exact .nil
  | cons x xs ih =>
      rw [List.forall_mem_cons] at hkeep hR
      have hrest := ih hkeep.2 hR.2
      cases hx : f x with
      | none =>
          have hdropped : ¬ keep x = true := by
            rw [← hkeep.1, hx]
            exact Bool.false_ne_true
          rwa [List.filterMap_cons_none hx, List.filter_cons_of_neg hdropped]
      | some y =>
          have hkept : keep x = true := by
            rw [← hkeep.1, hx]
            rfl
          rw [List.filterMap_cons_some hx, List.filter_cons_of_pos hkept]
          exact .cons (hR.1 y hx) hrest

/-! ## Parameters -/

/-- Whether a written parameter is kept: it is meant to be one. -/
def keepsParameter (doc raw : Value) : Bool := (meant? doc raw).any isParameter

/-- A parameter is what is meant by a written one. -/
def IsMeantBy (doc raw : Value) (p : Parameter) : Prop :=
  ∃ v, meant? doc raw = some v ∧ p.name = (v.getD "name").plainText ∧
    v.getD "in" = .str p.place.name ∧ p.required = (v.getD "required").isTruthy

theorem Site.isMeantBy {s : Site} {doc raw : Value} {p : Parameter}
    (h : s.parameter? doc raw = some p) : IsMeantBy doc raw p := by
  unfold parameter? readParameter at h
  unfold IsMeantBy meant?
  cases href : raw.get? "$ref" with
  | none =>
      rw [href] at h
      obtain ⟨-, -, hmeant⟩ := of_readDirect h
      exact ⟨raw, rfl, hmeant⟩
  | some ref =>
      rw [href] at h
      dsimp only at h ⊢
      cases htarget : present? (lookup (membersOf doc) ref) with
      | none =>
          rw [htarget] at h
          cases h
      | some target =>
          rw [htarget] at h
          obtain ⟨-, -, hmeant⟩ := of_readDirect h
          exact ⟨target, rfl, hmeant⟩

/-! ## Entries of path items -/

/-- What stands under a key of a path item. -/
structure Entry where
  path : String
  item : Value
  key : Value
  value : Value

/-- The entries of the item of a path, in order; there are none if it is no mapping. -/
def itemEntries (p : Value × Value) : List Entry :=
  (p.2.asMap?.getD []).map fun m => ⟨p.1.plainText, p.2, m.1, m.2⟩

/-- The entries of all path items of a document, in order. -/
def entries (doc : Value) : List Entry := ((pathsOf? doc).getD []).flatMap itemEntries

namespace Entry

/-- Whether the key of an entry is the name of a method. -/
def hasMethod (e : Entry) : Bool :=
  e.key.asText?.any fun key => (Method.all.map Method.name).contains key

/-- Whether an entry is an operation that can be used. -/
def isUsable (e : Entry) (doc : Value) : Bool :=
  e.hasMethod && e.value.isMap && hasReadableBody doc e.value

/-- The parameters of an operation as they are written. -/
def writtenParameters (e : Entry) : List Value := listOf (e.value.getD "parameters")

/-- The site of an operation, if one stands there. -/
def site? (e : Entry) : Option Site := Api.site? e.path e.item (e.key, e.value)

/-- The operation that is read there. -/
def endpoint? (e : Entry) (doc : Value) : Option Endpoint :=
  e.site?.bind fun s => s.endpoint? doc false

end Entry

/-- An operation is read from an entry: it has the path and the method of the entry, and of the
parameters that are written there it has those that are kept, in order. -/
structure IsReadFrom (doc : Value) (e : Endpoint) (entry : Entry) : Prop where
  path : e.path = entry.path
  method : entry.key = .str e.method.name
  parameters : List.Forall₂ (fun p raw => IsMeantBy doc raw p) e.parameters
    (entry.writtenParameters.filter (keepsParameter doc))

/-! ## Operations of entries -/

theorem sites_eq (doc : Value) : sites doc = (entries doc).filterMap Entry.site? := by
  show ((pathsOf? doc).getD []).flatMap pathSites = _
  unfold entries
  rw [List.filterMap_flatMap]
  refine List.flatMap_congr fun p _ => ?_
  unfold pathSites itemEntries
  rw [List.filterMap_map]
  rfl

theorem endpoints_eq_of_entries {doc : Value} {a : Api} (h : (read doc false).1 = .ok a) :
    a.endpoints = (entries doc).filterMap (·.endpoint? doc) := by
  rw [endpoints_eq h, sites_eq, List.filterMap_filterMap]
  rfl

theorem isSome_ofName? (name : String) :
    (Method.ofName? name).isSome = (Method.all.map Method.name).contains name := by
  unfold Method.ofName?
  rw [Bool.eq_iff_iff, List.find?_isSome, List.contains_iff_mem, List.mem_map]
  simp only [beq_iff_eq]

namespace Entry

theorem isSome_site? (e : Entry) : e.site?.isSome = (e.hasMethod && e.value.isMap) := by
  unfold site? Api.site? hasMethod
  cases e.key.asText? with
  | none => rfl
  | some key =>
      rw [Option.bind_some, Option.any_some, ← isSome_ofName?]
      cases Method.ofName? key with
      | none => rfl
      | some method => cases e.value.isMap <;> rfl

/-- The site has the path of the entry, its method and its operation. -/
theorem of_site? {e : Entry} {s : Site} (h : e.site? = some s) :
    s.path = e.path ∧ e.key = .str s.method.name ∧ s.operation = e.value := by
  unfold site? Api.site? at h
  obtain ⟨method, hmethod, h⟩ := Option.bind_eq_some_iff.1 h
  obtain ⟨key, hkey, hof⟩ := Option.bind_eq_some_iff.1 hmethod
  split at h
  · obtain rfl := Option.some.inj h
    exact ⟨rfl, eq_name_of_ofName? hof ▸ Value.eq_str_of_asText? hkey, rfl⟩
  · cases h

end Entry

/-- In a keyed operation the codes of responses are texts. -/
theorem isSome_responseCodes {operation : Value} (h : operation.IsKeyed) :
    (responseCodes operation).isSome = true := by
  unfold responseCodes
  split
  · next ms hms =>
    obtain ⟨responses, hresponses, hmap⟩ := Option.bind_eq_some_iff.1 hms
    obtain ⟨es, rfl, -, -⟩ := (h.get? hresponses).asMap? hmap
    rw [isSome_mapM, List.all_eq_true]
    intro m hm
    obtain ⟨e, -, rfl⟩ := List.mem_map.1 hm
    rfl
  · rfl

/-- An entry gives an operation if and only if it is usable. -/
theorem Entry.isSome_endpoint? {e : Entry} (doc : Value) (h : e.value.IsKeyed) :
    (e.endpoint? doc).isSome = e.isUsable doc := by
  unfold endpoint? isUsable
  rw [← isSome_site?]
  cases hs : e.site? with
  | none => rfl
  | some s =>
      obtain ⟨-, -, hoperation⟩ := of_site? hs
      have hcodes : s.hasTextCodes = true := isSome_responseCodes (hoperation ▸ h)
      rw [Option.bind_some, Site.isSome_endpoint?, hcodes, hoperation, Bool.and_true]
      rfl

theorem Entry.isReadFrom {entry : Entry} {doc : Value} {e : Endpoint}
    (h : entry.endpoint? doc = some e) : IsReadFrom doc e entry := by
  obtain ⟨s, hs, he⟩ := Option.bind_eq_some_iff.1 h
  obtain ⟨hpath, hkey, hoperation⟩ := of_site? hs
  obtain ⟨raws, body, codes, hraws, rfl⟩ := Site.of_endpoint? he
  -- without merging there are no other parameters than those of the operation
  have hraws : raws = entry.writtenParameters := by
    unfold writtenParameters
    rw [← hoperation]
    exact (Option.some.inj hraws).symm
  refine ⟨hpath, hkey, ?_⟩
  subst hraws
  exact forall₂_filterMap_filter (fun raw _ => s.isSome_parameter? doc raw)
    fun raw _ p hp => Site.isMeantBy hp

/-! ## Keyed documents -/

theorem member?_membersOf (doc : Value) (key : String) :
    Value.member? (membersOf doc) key = doc.get? key := by
  rw [Value.get?_eq_bind]
  unfold membersOf
  cases doc.asMap? <;> rfl

theorem isKeyed_of_mem_group {doc : Value} (h : doc.IsKeyed) {newer older : String}
    {m : Value × Value} (hm : m ∈ group (membersOf doc) newer older) : m.2.IsKeyed := by
  -- a group is a mapping under one of the two keys
  have hgroup : ∀ {v : Value} {ms : Members}, v.IsKeyed → v.asMap? = some ms → m ∈ ms →
      m.2.IsKeyed := by
    intro v ms hv hms hm
    obtain ⟨es, rfl, -, hes⟩ := hv.asMap? hms
    obtain ⟨e, he, rfl⟩ := List.mem_map.1 hm
    exact hes e he
  unfold group at hm
  rw [member?_membersOf, member?_membersOf] at hm
  dsimp only at hm
  split at hm
  · next ms _ hms =>
    obtain ⟨v, hv, hms⟩ := Option.bind_eq_some_iff.1 hms
    exact hgroup ((h.getD "components").get? hv) hms hm
  · next ms _ hms =>
    obtain ⟨v, hv, hms⟩ := Option.bind_eq_some_iff.1 hms
    exact hgroup (h.get? hv) hms hm
  · cases hm

theorem hasTextFlows_of_isKeyed {data : Value} (h : data.IsKeyed) : hasTextFlows data = true := by
  unfold hasTextFlows flowsOf
  rw [List.all_eq_true]
  intro flow hflow
  split at hflow
  · next ms _ hms =>
    obtain ⟨flows, hflows, hms⟩ := Option.bind_eq_some_iff.1 hms
    obtain ⟨es, rfl, -, -⟩ := (h.get? hflows).asMap? hms
    obtain ⟨e, -, rfl⟩ := List.mem_map.1 hflow
    rfl
  · obtain rfl := List.mem_singleton.1 hflow
    rfl
  · cases hflow

/-- The paths of a keyed document are a keyed mapping. -/
theorem exists_keyed_paths {doc : Value} (h : doc.IsKeyed) :
    ∃ es, (pathsOf? doc).getD [] = Value.keyed es ∧ (Named.names es).Nodup ∧
      ∀ e ∈ es, e.2.IsKeyed := by
  have hpaths : (pathsOf? doc).getD [] = (doc.getD "paths").asMap?.getD [] := by
    unfold pathsOf? Value.getD
    rw [member?_membersOf]
    cases doc.get? "paths" <;> rfl
  rw [hpaths]
  exact (h.getD "paths").members

theorem itemEntries_keyed {path : String} {item : Value} {es : List (String × Value)}
    (h : item.asMap?.getD [] = Value.keyed es) :
    itemEntries (.str path, item) = es.map fun e => ⟨path, item, .str e.1, e.2⟩ := by
  unfold itemEntries
  rw [h]
  exact List.map_map

/-- Everything in the paths of a keyed document is keyed. -/
theorem isKeyed_of_mem_entries {doc : Value} (h : doc.IsKeyed) {e : Entry}
    (he : e ∈ entries doc) : e.value.IsKeyed := by
  obtain ⟨paths, hpaths, -, hitems⟩ := exists_keyed_paths h
  unfold entries at he
  rw [hpaths] at he
  obtain ⟨_, hpath, he⟩ := List.mem_flatMap.1 he
  obtain ⟨p, hp, rfl⟩ := List.mem_map.1 hpath
  obtain ⟨item, hitem, -, hvalues⟩ := (hitems p hp).members
  rw [itemEntries_keyed hitem] at he
  obtain ⟨m, hm, rfl⟩ := List.mem_map.1 he
  exact hvalues m hm

/-- In a keyed document no two entries have the same path and key. -/
theorem nodup_entries {doc : Value} (h : doc.IsKeyed) :
    ((entries doc).map fun e => (e.path, e.key)).Nodup := by
  obtain ⟨paths, hpaths, hnames, hitems⟩ := exists_keyed_paths h
  unfold entries
  rw [hpaths, List.map_flatMap, List.nodup_flatMap]
  constructor
  · -- two entries of one item have different keys
    intro _ hpath
    obtain ⟨p, hp, rfl⟩ := List.mem_map.1 hpath
    obtain ⟨item, hitem, hkeys, -⟩ := (hitems p hp).members
    have hpairs : (itemEntries (.str p.1, p.2)).map (fun e => (e.path, e.key))
        = (Named.names item).map fun key => (p.1, Value.str key) := by
      rw [itemEntries_keyed hitem]
      unfold Named.names
      rw [List.map_map, List.map_map]
      rfl
    rw [hpairs]
    refine hkeys.map fun key key' heq => ?_
    exact Value.str.inj (Prod.mk.inj heq).2
  · -- entries of two items have different paths
    unfold Value.keyed
    rw [List.pairwise_map]
    refine (List.pairwise_map.1 hnames).imp fun {p q} hne => ?_
    intro pair hp hq
    obtain ⟨e, he, rfl⟩ := List.mem_map.1 hp
    obtain ⟨e', he', heq⟩ := List.mem_map.1 hq
    obtain ⟨m, -, rfl⟩ := List.mem_map.1 he
    obtain ⟨m', -, rfl⟩ := List.mem_map.1 he'
    exact hne (Prod.mk.inj heq).1.symm

/-! ## Operations of documents -/

/-- **Exactly the usable operations are kept.** An interface is read from every keyed document with
paths, such as one in JSON. Its operations are read, in order, from the usable ones among the
entries of the path items, each with the parameters that are kept, and no two of them have the same
method and path. -/
theorem usable_operations_kept {doc : Value} (hkeyed : doc.IsKeyed)
    (hpaths : (pathsOf? doc).isSome = true) :
    ∃ a, (read doc false).1 = .ok a ∧
      List.Forall₂ (IsReadFrom doc) a.endpoints ((entries doc).filter (·.isUsable doc)) ∧
      (a.endpoints.map fun e => (e.method, e.path)).Nodup := by
  obtain ⟨paths, hpaths⟩ := Option.isSome_iff_exists.1 hpaths
  obtain ⟨a, ha⟩ : ∃ a, (read doc false).1 = .ok a :=
    exists_read hpaths fun scheme hscheme =>
      hasTextFlows_of_isKeyed (isKeyed_of_mem_group hkeyed hscheme)
  have hread : List.Forall₂ (IsReadFrom doc) a.endpoints
      ((entries doc).filter (·.isUsable doc)) := by
    rw [endpoints_eq_of_entries ha]
    exact forall₂_filterMap_filter
      (fun e he => Entry.isSome_endpoint? doc (isKeyed_of_mem_entries hkeyed he))
      fun entry _ e he => Entry.isReadFrom he
  refine ⟨a, ha, hread, ?_⟩
  -- an operation has the path and the key of its entry
  have hpairs : (a.endpoints.map fun e => (e.path, Value.str e.method.name))
      = ((entries doc).filter (·.isUsable doc)).map fun e => (e.path, e.key) := by
    rw [← List.forall₂_eq_eq_eq, List.forall₂_map_left_iff, List.forall₂_map_right_iff]
    exact hread.imp fun e entry h => Prod.ext h.path h.method.symm
  have hnodup : (a.endpoints.map fun e => (e.path, Value.str e.method.name)).Nodup := by
    rw [hpairs]
    exact (nodup_entries hkeyed).sublist (List.filter_sublist.map _)
  refine List.Nodup.of_map (fun p => (p.2, Value.str p.1.name)) ?_
  rwa [List.map_map]

/-! ### One operation among five entries -/

/-- An operation with a body of texts up to a limit, whose other members are in disorder. -/
def careless (limit : Value) : Value :=
  Value.object
    [("tags", .list [.null, .int 3]),
     ("parameters", .list
       [.int 1, Value.object [("name", .str "limit"), ("in", .str "query")],
        Value.object [("name", .str "page"), ("in", .str "url")]]),
     ("requestBody", Value.object [("content", Value.object
       [("text/plain", Value.object [("schema", Value.object [("maxLength", limit)])])])]),
     ("responses", .int 4)]

/-- The item of a path: the body of one operation cannot be read, another one is no mapping, and
some keys are no methods. -/
def carelessItem : Value :=
  Value.object
    [("parameters", .str "none"), ("get", careless (.str "long")), ("put", .null),
     ("POST", careless (.int 9)), ("post", careless (.int 9))]

/-- A document with that item and one that is no mapping. -/
def carelessDocument : Value :=
  Value.object [("paths", Value.object [("/cats", .int 3), ("/pets", carelessItem)])]

theorem hasReadableBody_careless (limit : Value) :
    hasReadableBody carelessDocument (careless limit)
      = (Schema.read (Value.object [("maxLength", limit)])).isOk :=
  Bool.and_true _

open Entry in
theorem filter_entries_careless :
    (entries carelessDocument).filter (·.isUsable carelessDocument)
      = [⟨"/pets", carelessItem, .str "post", careless (.int 9)⟩] := by
  have hread : hasReadableBody carelessDocument (careless (.int 9)) = true := by
    obtain ⟨s, hs⟩ : ∃ s, Schema.read (Value.object [("maxLength", .int 9)]) = .ok s :=
      ⟨_, Dialect.read_of_reading rfl⟩
    rw [hasReadableBody_careless, hs]
    rfl
  have hunread : hasReadableBody carelessDocument (careless (.str "long")) = false := by
    have hnone : (Schema.read (Value.object [("maxLength", .str "long")])).toOption = none :=
      Dialect.readWithin_map [] [(.str "maxLength", .str "long")]
    rw [hasReadableBody_careless]
    cases hs : Schema.read (Value.object [("maxLength", .str "long")]) with
    | error faults => rfl
    | ok s =>
        rw [hs] at hnone
        cases hnone
  have hentries : entries carelessDocument =
      [⟨"/pets", carelessItem, .str "parameters", .str "none"⟩,
       ⟨"/pets", carelessItem, .str "get", careless (.str "long")⟩,
       ⟨"/pets", carelessItem, .str "put", .null⟩,
       ⟨"/pets", carelessItem, .str "POST", careless (.int 9)⟩,
       ⟨"/pets", carelessItem, .str "post", careless (.int 9)⟩] := rfl
  -- what is no mapping, or under no method, is not usable whatever its body
  have hparameters : isUsable ⟨"/pets", carelessItem, .str "parameters", .str "none"⟩
      carelessDocument = false := rfl
  have hget : isUsable ⟨"/pets", carelessItem, .str "get", careless (.str "long")⟩
      carelessDocument = false := hunread
  have hput : isUsable ⟨"/pets", carelessItem, .str "put", .null⟩ carelessDocument = false := rfl
  have hcapital : isUsable ⟨"/pets", carelessItem, .str "POST", careless (.int 9)⟩
      carelessDocument = false := rfl
  have hpost : isUsable ⟨"/pets", carelessItem, .str "post", careless (.int 9)⟩
      carelessDocument = true := hread
  rw [hentries]
  simp only [List.filter, hparameters, hget, hput, hcapital, hpost]

theorem careless_keeps_post :
    carelessDocument.IsKeyed ∧ (pathsOf? carelessDocument).isSome = true ∧
    ∃ a, (read carelessDocument false).1 = .ok a ∧
      ∃ e, a.endpoints = [e] ∧ e.path = "/pets" ∧ e.method = .post ∧
        e.parameters.map (·.name) = ["limit"] := by
  have hkeyed : carelessDocument.IsKeyed := Value.isKeyed_of_isJson (by decide)
  obtain ⟨a, ha, hread, -⟩ := usable_operations_kept hkeyed rfl
  rw [filter_entries_careless] at hread
  refine ⟨hkeyed, rfl, a, ha, ?_⟩
  obtain ⟨e, _, he, hnil, hendpoints⟩ := List.forall₂_cons_right_iff.1 hread
  obtain rfl := List.forall₂_nil_right_iff.1 hnil
  have hmethod : e.method = .post := by
    have hname := Value.str.inj he.method
    cases hm : e.method <;> rw [hm] at hname <;> first | rfl | exact absurd hname (by decide)
  refine ⟨e, hendpoints, he.path, hmethod, ?_⟩
  have hparameters : List.Forall₂ (fun p raw => IsMeantBy carelessDocument raw p) e.parameters
      [Value.object [("name", .str "limit"), ("in", .str "query")]] := he.parameters
  obtain ⟨p, _, ⟨v, hv, hname, -⟩, hnil, hone⟩ := List.forall₂_cons_right_iff.1 hparameters
  obtain rfl := List.forall₂_nil_right_iff.1 hnil
  obtain rfl := Option.some.inj hv
  rw [hone, List.map_singleton, hname]
  rfl

end ApiTools.Api
