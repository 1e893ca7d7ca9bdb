import ApiTools.Json.Reader
import ApiTools.Proofs.Value.Keyed

set_option autoImplicit false

/-!
# Values that are read from JSON

Whatever text a value is read from, its mappings have texts as keys, each of them once: a key that
is written a second time replaces what was under it.
-/

namespace ApiTools.Json

/-- What a reading of two steps gives is given by the second one, from what the first one gives. -/
theorem of_bind_eq_ok {ε α β : Type} {x : Except ε α} {f : α → Except ε β} {b : β}
    (h : (x >>= f) = .ok b) : ∃ a, x = .ok a ∧ f a = .ok b := by
  cases x with
  | error e => cases h
  | ok a => exact ⟨a, rfl, h⟩

/-! ## Plain values -/

theorem isKeyed_of_readUnsigned {negative : Bool} {s rest : List Char} {v : Value}
    (h : readUnsigned negative s = some (.ok v, rest)) : v.IsKeyed := by
  unfold readUnsigned at h
  split at h
  next whole rest' _ =>
  split at h
  · cases h
  · dsimp only at h
    split at h
    · split at h
      · cases h
      · cases h
        exact fun _ hms => nomatch hms
    · cases h
      exact fun _ hms => nomatch hms

theorem isKeyed_of_readName {s rest : List Char} {v : Value}
    (h : readName s = some (v, rest)) : v.IsKeyed := by
  obtain ⟨⟨word, w⟩, hw, h⟩ := List.exists_of_findSome?_eq_some h
  dsimp only at h
  split at h
  · cases h
    have hnames : ∀ m ∈ names, m.2.IsKeyed := by
      unfold names
      simp only [List.forall_mem_cons]
      refine ⟨?_, ?_, ?_, ?_, ?_, ?_, List.forall_mem_nil _⟩ <;> exact fun _ hms => nomatch hms
    exact hnames _ hw
  · cases h

theorem isKeyed_of_readPlain {s : List Char} {v : Value} {r : Rest s}
    (h : readPlain s = .ok (v, r)) : v.IsKeyed := by
  unfold readPlain at h
  dsimp only at h
  split at h
  · cases h
  · next w rest hfound =>
    split at h
    · cases h
      split at hfound
      · next hname =>
        cases hfound
        exact isKeyed_of_readName hname
      · split at hfound
        · exact isKeyed_of_readUnsigned hfound
        · exact isKeyed_of_readUnsigned hfound
    · cases h
  · cases h

/-! ## Values with members and elements -/

/-- Values, elements and members are read with keyed values in them. The induction is that of the
reader, in which what is read next begins further behind. -/
theorem isKeyed_of_reads :
    (∀ (s : List Char) (v : Value) (r : Rest s), readValue s = .ok (v, r) → v.IsKeyed) ∧
    (∀ (s : List Char) (xs : List Value) (r : Rest s), readElements s = .ok (xs, r) →
      ∀ x ∈ xs, x.IsKeyed) ∧
    (∀ (s : List Char) (ms : Members) (r : Rest s), readMembers s = .ok (ms, r) →
      ∃ es, ms = Value.keyed es ∧ ∀ e ∈ es, e.2.IsKeyed) := by
  apply readValue.mutual_induct
  case case1 =>
    intro rest v r h
    rw [readValue] at h
    obtain ⟨⟨cs, r', hr⟩, -, h⟩ := of_bind_eq_ok h
    cases h
    exact fun _ hms => nomatch hms
  case case2 =>
    intro rest r' hr hafter v r h
    rw [readValue, hafter] at h
    cases h
    show (Value.map (Value.keyed [])).IsKeyed
    exact Value.isKeyed_map List.nodup_nil (List.forall_mem_nil _)
  case case3 =>
    intro rest hafter _ ih v r h
    rw [readValue, hafter] at h
    obtain ⟨⟨ms, r', hr⟩, hms, h⟩ := of_bind_eq_ok h
    cases h
    obtain ⟨es, rfl, hes⟩ := ih _ _ hms
    rw [Value.ofMembers_keyed]
    exact Value.isKeyed_map (Named.nodup_names_ofList es) fun e he =>
      hes e (Named.mem_of_mem_ofList he)
  case case4 =>
    intro rest r' hr hafter v r h
    rw [readValue, hafter] at h
    cases h
    exact Value.isKeyed_list (List.forall_mem_nil _)
  case case5 =>
    intro rest hafter _ ih v r h
    rw [readValue, hafter] at h
    obtain ⟨⟨xs, r', hr⟩, hxs, h⟩ := of_bind_eq_ok h
    cases h
    exact Value.isKeyed_list (ih _ _ hxs)
  case case6 =>
    intro s htext hmap hlist v r h
    rw [readValue] at h
    · exact isKeyed_of_readPlain h
    all_goals assumption
  case case7 =>
    intro s ihfirst ihrest xs r h
    rw [readElements] at h
    obtain ⟨⟨v, r₁, h₁⟩, hv, h⟩ := of_bind_eq_ok h
    have hfirst := ihfirst _ _ hv
    dsimp only at h
    split at h
    · cases h
      intro x hx
      rwa [List.mem_singleton.1 hx]
    · split at h
      · cases h
      · next r₂ h₂ _ =>
        obtain ⟨⟨ys, r₃, h₃⟩, hys, h⟩ := of_bind_eq_ok h
        cases h
        exact List.forall_mem_cons.2 ⟨hfirst, ihrest r₁ h₁ r₂ h₂ _ _ hys⟩
  case case8 =>
    intro rest ihfirst ihrest ms r h
    rw [readMembers] at h
    obtain ⟨⟨key, r₁, h₁⟩, -, h⟩ := of_bind_eq_ok h
    dsimp only at h
    split at h
    · cases h
    · next r₂ h₂ _ =>
      obtain ⟨⟨v, r₃, h₃⟩, hv, h⟩ := of_bind_eq_ok h
      have hfirst := ihfirst r₁ h₁ r₂ h₂ _ _ hv
      dsimp only at h
      split at h
      · cases h
        exact ⟨[(String.ofList key, v)], rfl, List.forall_mem_singleton.2 hfirst⟩
      · split at h
        · cases h
        · next r₄ h₄ _ =>
          obtain ⟨⟨ns, r₅, h₅⟩, hns, h⟩ := of_bind_eq_ok h
          cases h
          obtain ⟨es, rfl, hes⟩ := ihrest r₁ h₁ r₂ h₂ r₃ h₃ r₄ h₄ _ _ hns
          exact ⟨(String.ofList key, v) :: es, rfl, List.forall_mem_cons.2 ⟨hfirst, hes⟩⟩
  case case9 =>
    intro s hne ms r h
    rw [readMembers] at h
    · cases h
    · assumption

/-- Whatever text a value is read from, it is keyed. -/
theorem isKeyed_of_read {text : String} {v : Value} (h : read text = .ok v) : v.IsKeyed := by
  unfold read at h
  split at h
  · next hparse =>
    cases h
    unfold parse at hparse
    split at hparse
    · cases hparse
    · obtain ⟨⟨w, rest, hrest⟩, hw, hparse⟩ := of_bind_eq_ok hparse
      dsimp only at hparse
      split at hparse
      · cases hparse
        exact isKeyed_of_reads.1 _ _ _ hw
      · cases hparse
  · split at h <;> cases h

end ApiTools.Json
