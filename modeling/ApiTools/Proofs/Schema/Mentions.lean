import ApiTools.Proofs.Schema.Steps
import Mathlib.Logic.Relation

set_option autoImplicit false

/-!
# The graph of references

A schema mentions the names of all references in it: its own, and those of its properties, its
items and the members of its compositions, however deep. An entry of a registry refers to what
its schema mentions. Where no way along these references comes back to the entry it began at, a
guard has nothing to cut: every entry that was entered leads on to all that is still mentioned
(`Leads`), and an entry that is still mentioned and was entered would lead back to itself.
-/

namespace ApiTools.Schema

open Relation

/-! ## Mentioned names -/

/-- A name is mentioned by a schema. -/
inductive Mentions : Schema → String → Prop
  /-- The schema is a reference to the name. -/
  | own {s : Schema} {n : String} (h : s.ref?.bind Reference.name? = some n) : Mentions s n
  | property {s : Schema} {e : String × Schema} {n : String} (he : e ∈ s.propertyList)
      (h : Mentions e.2 n) : Mentions s n
  | items {s i : Schema} {n : String} (hi : s.items = .given i) (h : Mentions i n) : Mentions s n
  | member {s m : Schema} {n : String}
      (hm : m ∈ members s.allOf ++ members s.anyOf ++ members s.oneOf) (h : Mentions m n) :
      Mentions s n

/-- An entry refers to what its schema mentions. -/
def Refers (reg : Registry) (n m : String) : Prop :=
  ∃ s, reg.get? n = some s ∧ Mentions s m

/-- The entries that references lead to from a schema. -/
def Reaches (reg : Registry) (s : Schema) (n : String) : Prop :=
  ∃ m, Mentions s m ∧ ReflTransGen (Refers reg) m n

/-- No entry that references lead to from a schema leads back to itself. -/
def IsAcyclic (reg : Registry) (s : Schema) : Prop :=
  ∀ n, Reaches reg s n → ¬ TransGen (Refers reg) n n

theorem Mentions.of_compositionMembers {s m : Schema} {n : String}
    (hm : m ∈ compositionMembers s) (h : Mentions m n) : Mentions s n := by
  unfold compositionMembers at hm
  refine .member ?_ h
  rcases List.mem_append.1 hm with hm | hm
  · exact List.mem_append_left _ hm
  · exact List.mem_append_right _ (List.mem_of_mem_take hm)

theorem Mentions.of_compositionNames {s : Schema} {n : String} (h : n ∈ compositionNames s) :
    Mentions s n := by
  obtain ⟨m, hm, hn⟩ := List.mem_filterMap.1 h
  exact .of_compositionMembers hm (.own hn)

/-- What mentions a name is one of the four places where references stand. -/
theorem mentions_iff (s : Schema) (n : String) :
    Mentions s n ↔ s.ref?.bind Reference.name? = some n ∨
      (∃ e ∈ s.propertyList, Mentions e.2 n) ∨ (∃ i, s.items = .given i ∧ Mentions i n) ∨
        ∃ m ∈ members s.allOf ++ members s.anyOf ++ members s.oneOf, Mentions m n := by
  constructor
  · intro h
    cases h with
    | own h => exact .inl h
    | property he h => exact .inr (.inl ⟨_, he, h⟩)
    | items hi h => exact .inr (.inr (.inl ⟨_, hi, h⟩))
    | member hm h => exact .inr (.inr (.inr ⟨_, hm, h⟩))
  · rintro (h | ⟨e, he, h⟩ | ⟨i, hi, h⟩ | ⟨m, hm, h⟩)
    · exact .own h
    · exact .property he h
    · exact .items hi h
    · exact .member hm h

/-- If every reference lowers a rank of the entries, no entry leads back to itself. -/
theorem isAcyclic_of_rank {reg : Registry} (rank : String → Nat)
    (h : ∀ e ∈ reg, ∀ m, Mentions e.2 m → rank m < rank e.1) (s : Schema) :
    IsAcyclic reg s := by
  have hstep : ∀ n m, Refers reg n m → rank m < rank n := by
    rintro n m ⟨t, ht, hm⟩
    unfold Registry.get? Named.get? at ht
    obtain ⟨e, he, rfl⟩ := Option.map_eq_some_iff.1 ht
    obtain rfl : e.1 = n := by simpa using List.find?_some he
    exact h e (List.mem_of_find?_eq_some he) m hm
  have hlower : ∀ n m, TransGen (Refers reg) n m → rank m < rank n := by
    intro n m hnm
    induction hnm with
    | single hnm => exact hstep _ _ hnm
    | tail _ hkm ih => exact Nat.lt_trans (hstep _ _ hkm) ih
  intro n _ hn
  exact Nat.lt_irrefl _ (hlower n n hn)

/-! ## What was entered leads on -/

/-- No cycle is ahead of a schema, and each of the given entries leads to all that the schema
mentions. -/
structure Leads (reg : Registry) (passed : List String) (s : Schema) : Prop where
  isAcyclic : IsAcyclic reg s
  leads : ∀ p ∈ passed, ∀ n, Mentions s n → TransGen (Refers reg) p n

namespace Leads

variable {reg : Registry} {passed : List String} {s t : Schema} {n : String}

theorem start (h : IsAcyclic reg s) : Leads reg [] s := ⟨h, by simp⟩

theorem mono {fewer : List String} (h : Leads reg passed s) (hf : ∀ p ∈ fewer, p ∈ passed) :
    Leads reg fewer s := ⟨h.isAcyclic, fun p hp => h.leads p (hf p hp)⟩

/-- It goes on with a schema that mentions nothing else. -/
theorem inner (h : Leads reg passed s) (ht : ∀ n, Mentions t n → Mentions s n) :
    Leads reg passed t := by
  refine ⟨fun n hn => ?_, fun p hp n hn => h.leads p hp n (ht n hn)⟩
  obtain ⟨m, hm, hmn⟩ := hn
  exact h.isAcyclic n ⟨m, ht m hm, hmn⟩

/-- It goes on behind an entry that the schema mentions, with something that the entry refers
to. -/
theorem enter (h : Leads reg passed s) (hn : Mentions s n)
    (ht : ∀ m, Mentions t m → Refers reg n m) : Leads reg (n :: passed) t := by
  refine ⟨?_, ?_⟩
  · rintro k ⟨m, hm, hmk⟩
    exact h.isAcyclic k ⟨n, hn, .head (ht m hm) hmk⟩
  · intro p hp m hm
    rcases List.mem_cons.1 hp with rfl | hp
    · exact .single (ht m hm)
    · exact (h.leads p hp n hn).tail (ht m hm)

/-- **What is still mentioned was not entered**, or it would lead back to itself. -/
theorem not_mem (h : Leads reg passed s) (hn : Mentions s n) : n ∉ passed := by
  intro hp
  exact h.isAcyclic n ⟨n, hn, .refl⟩ (h.leads n hp n hn)

theorem compositionNames (h : Leads reg passed s) :
    ∀ n ∈ Schema.compositionNames s, passed.contains n = false := by
  intro n hn
  have := h.not_mem (.of_compositionNames hn)
  simpa using this

end Leads

/-! ## The steps keep it -/

/-- Everything that a guard remembers. -/
def Guard.passed (g : Guard) : List String := g.visited ++ g.taken

theorem Leads.enterGuard {reg : Registry} {g : Guard} {s t : Schema} {n : String}
    (h : Leads reg g.passed s) (hn : Mentions s n) (ht : ∀ m, Mentions t m → Refers reg n m) :
    Leads reg (g.enter n).passed t := by
  refine (h.enter hn ht).mono fun p hp => ?_
  simp only [Guard.passed, Guard.enter, List.append_nil, List.mem_cons] at hp ⊢
  exact hp.imp id (List.mem_append_left _)

theorem settleAt_of_leads {reg : Registry} {g : Guard} {s : Schema}
    (h : Leads reg g.passed s) : settleAt g s = .at s g := by
  have hv : Leads reg g.visited s := h.mono fun p hp => List.mem_append_left _ hp
  exact settleAt_at hv.compositionNames

/-- Where no cycle is ahead a schema leads to its target, whatever was entered before. -/
theorem follow_of_leads {reg : Registry} {g : Guard} {s : Schema} (h : Leads reg g.passed s) :
    (s.target? reg = none ∧ follow reg g s = .dangling) ∨
      ∃ t g', s.target? reg = some t ∧ follow reg g s = .at t g' ∧ Leads reg g'.passed t := by
  unfold target? follow Reference.resolve?
  cases hr : s.ref? with
  | none => exact .inr ⟨s, g, rfl, settleAt_of_leads h, h⟩
  | some ref =>
      dsimp only
      cases hn : Reference.name? ref with
      | none => exact .inl ⟨rfl, rfl⟩
      | some n =>
          have hs : Mentions s n := .own (by rw [hr, Option.bind_some, hn])
          have hv : ¬ g.visited.contains n = true := by
            have := h.not_mem hs
            simp only [Guard.passed, List.mem_append, not_or] at this
            simpa using this.1
          dsimp only
          rw [if_neg hv, Option.bind_some]
          cases ht : reg.get? n with
          | none => exact .inl ⟨rfl, rfl⟩
          | some t =>
              have hentered := h.enterGuard hs fun m hm => ⟨t, ht, hm⟩
              exact .inr ⟨t, g.enter n, rfl, settleAt_of_leads hentered, hentered⟩

/-- A step into a property keeps it. -/
theorem leads_of_mem_parts {reg : Registry} {g : Guard} {s : Schema} {p : Part}
    (h : Leads reg g.passed s) (hp : p ∈ parts reg s) : Leads reg (p.guard g).passed p.schema := by
  rcases List.mem_append.1 (mem_of_mem_parts hp) with hp | hp
  · obtain ⟨e, he, rfl⟩ := List.mem_map.1 hp
    exact h.inner fun n hn => .property he hn
  · obtain ⟨m, hm, hp⟩ := List.mem_flatMap.1 hp
    obtain ⟨e, he, rfl⟩ := List.mem_map.1 hp
    rcases mem_members hm with ⟨c, hc, rfl⟩ | ⟨n, hn, ho, hg⟩
    · exact h.inner fun k hk => .of_compositionMembers hc (.property he hk)
    · simp only [Part.guard, ho]
      exact h.enterGuard (.of_compositionNames hn) fun k hk => ⟨m.schema, hg, .property he hk⟩

/-- The items of a collapsed schema are written in it, or in an entry that it is composed of. -/
theorem mentions_of_items {reg : Registry} {s i : Schema}
    (h : (compose reg s).items = .given i) :
    (∀ n, Mentions i n → Mentions s n) ∨
      ∃ k ∈ compositionNames s, ∀ n, Mentions i n → Refers reg k n := by
  rw [compose_items] at h
  cases hv : variant? reg s with
  | none =>
      rw [hv] at h
      exact .inl fun n hn => .items h hn
  | some v =>
      rw [hv] at h
      dsimp only at h
      have hm : v ∈ merged reg s ++ (variant? reg s).toList := by simp [hv]
      cases hi : v.schema.items with
      | absent =>
          rw [hi] at h
          exact .inl fun n hn => .items h hn
      | null =>
          rw [hi] at h
          cases h
      | given j =>
          rw [hi] at h
          obtain rfl : j = i := by injection h
          rcases mem_members hm with ⟨c, hc, rfl⟩ | ⟨k, hk, -, hg⟩
          · exact .inl fun n hn => .of_compositionMembers hc (.items hi hn)
          · exact .inr ⟨k, hk, fun n hn => ⟨v.schema, hg, .items hi hn⟩⟩

theorem leads_of_items {reg : Registry} {passed : List String} {s i : Schema}
    (h : Leads reg passed s) (hi : (compose reg s).items = .given i) : Leads reg passed i := by
  rcases mentions_of_items hi with hs | ⟨k, hk, hr⟩
  · exact h.inner hs
  · exact (h.enter (.of_compositionNames hk) hr).mono fun p hp => List.mem_cons_of_mem k hp

/-- A step into items finds those of the collapsed schema, and is never refused. -/
theorem itemStep_of_leads {reg : Registry} {g : Guard} {s : Schema} (h : Leads reg g.passed s) :
    (itemStep reg g s = .none ∧ ∀ i, (compose reg s).items ≠ .given i) ∨
      ∃ i g', itemStep reg g s = .into i g' ∧ (compose reg s).items = .given i ∧
        Leads reg g'.passed i := by
  rcases itemStep_cases reg g s with hnone | ⟨i, hi, hc, -⟩ | ⟨n, i, hb, hstep⟩
  · exact .inl hnone
  · exact .inr ⟨i, g, hi, hc, leads_of_items h hc⟩
  · obtain ⟨v, hv, ho, hvi⟩ := hb
    have hm : v ∈ merged reg s ++ (variant? reg s).toList := by simp [hv]
    -- borrowed items come from an entry that the schema is composed of
    obtain ⟨hn, hg⟩ : n ∈ compositionNames s ∧ reg.get? n = some v.schema := by
      rcases mem_members hm with ⟨c, -, rfl⟩ | ⟨k, hk, hko, hg⟩
      · cases ho
      · rw [ho] at hko
        obtain rfl : n = k := by injection hko
        exact ⟨hk, hg⟩
    have hs : Mentions s n := .of_compositionNames hn
    rcases hstep with ⟨ht, -⟩ | ⟨-, hinto⟩
    · exact absurd (List.mem_append_right _ ht) (h.not_mem hs)
    · refine .inr ⟨i, g.take n, hinto, ?_, ?_⟩
      · exact BorrowedItems.compose_items ⟨v, hv, ho, hvi⟩
      · refine (h.enter hs fun k hk => ⟨v.schema, hg, .items hvi hk⟩).mono fun p hp => ?_
        simp only [Guard.passed, Guard.take, List.mem_append, List.mem_cons] at hp ⊢
        rcases hp with hp | hp | hp
        · exact .inr (.inl hp)
        · exact .inl hp
        · exact .inr (.inr hp)

end ApiTools.Schema
