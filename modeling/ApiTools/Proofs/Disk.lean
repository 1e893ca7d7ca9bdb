import ApiTools.Disk.Basic
import Mathlib.Data.List.Basic

set_option autoImplicit false

/-!
# Disks that change

What is at a place after an entry was put there or taken away, and where paths lead then. As long
as no directory goes away, a path that leads to a place leads there still.
-/

namespace ApiTools.Disk

/-! ## Entries -/

theorem at?_of_ne_nil (d : Disk) {p : Place} (hp : p ≠ []) :
    d.at? p = (d.entries.find? (·.1 == p)).map (·.2) := by
  unfold at?
  rw [if_neg (by simpa using hp)]

/-- Changing the entries of a place changes what is found there first. -/
theorem find?_changed (es : List (Place × DiskEntry)) (p : Place) (e : DiskEntry) (q : Place) :
    ((es.map fun x => if x.1 == p then (p, e) else x).find? (·.1 == q)).map (·.2)
      = if q = p ∧ es.any (·.1 == p) = true then some e
        else (es.find? (·.1 == q)).map (·.2) := by
  induction es with
  | nil => simp
  | cons x es ih =>
      rw [List.map_cons, List.any_cons]
      by_cases hx : x.1 = p
      · rw [if_pos (by simpa using hx)]
        by_cases hq : q = p
        · rw [if_pos (by simp [hx, hq]), List.find?_cons_of_pos (by simp [hq])]
          rfl
        · rw [List.find?_cons_of_neg (by simpa using Ne.symm hq),
            List.find?_cons_of_neg (by simpa [hx] using Ne.symm hq), ih,
            if_neg fun h => hq h.1, if_neg fun h => hq h.1]
      · rw [if_neg (by simpa using hx), beq_false_of_ne hx, Bool.false_or]
        by_cases hq : x.1 = q
        · rw [List.find?_cons_of_pos (by simpa using hq),
            List.find?_cons_of_pos (by simpa using hq), if_neg fun h => hx (hq.trans h.1)]
        · rw [List.find?_cons_of_neg (by simpa using hq),
            List.find?_cons_of_neg (by simpa using hq), ih]

/-- A place that is taken holds what was put there, the others are as they were. -/
theorem at?_put (d : Disk) {p : Place} (hp : p ≠ []) (e : DiskEntry) (q : Place) :
    (d.put p e).at? q = if q = p then some e else d.at? q := by
  by_cases hq : q = []
  · subst hq
    rw [if_neg (Ne.symm hp)]
    rfl
  rw [at?_of_ne_nil _ hq, at?_of_ne_nil _ hq]
  unfold put
  by_cases hthere : d.entries.any (·.1 == p) = true
  · rw [if_pos hthere, find?_changed]
    simp only [hthere, and_true]
  · rw [if_neg hthere, List.find?_append]
    by_cases heq : q = p
    · have hnone : d.entries.find? (·.1 == p) = none := by
        rw [List.find?_eq_none]
        exact fun x hx h => hthere (List.any_eq_true.2 ⟨x, hx, h⟩)
      rw [heq, if_pos rfl, hnone]
      simp
    · rw [if_neg heq, List.find?_singleton, if_neg (by simpa using Ne.symm heq), Option.or_none]

theorem at?_remove (d : Disk) {p : Place} (hp : p ≠ []) (q : Place) :
    (d.remove p).at? q = if q = p then none else d.at? q := by
  by_cases hq : q = []
  · subst hq
    rw [if_neg (Ne.symm hp)]
    rfl
  rw [at?_of_ne_nil _ hq, at?_of_ne_nil _ hq]
  unfold remove
  rw [List.find?_filter]
  by_cases heq : q = p
  · subst heq
    rw [if_pos rfl, List.find?_eq_none.2]
    · rfl
    · simp
  · rw [if_neg heq]
    refine congrArg (Option.map _) (congrArg (List.find? · d.entries) ?_)
    funext x
    by_cases hx : x.1 = q
    · simp [hx, heq]
    · simp [hx]

theorem isDirectory_iff (d : Disk) (p : Place) :
    d.isDirectory p = true ↔ d.at? p = some .directory := by
  unfold isDirectory
  split
  · next h => simp [h]
  · next h => exact iff_of_false nofun h

theorem content?_eq_some_iff (d : Disk) (p : Place) (c : ByteArray) :
    d.content? p = some c ↔ d.at? p = some (.file c) := by
  unfold content?
  split
  · next h => simp [h]
  · next h => exact iff_of_false nofun fun hat => h c hat

theorem content?_congr {d d' : Disk} {p : Place} (h : d'.at? p = d.at? p) :
    d'.content? p = d.content? p := by
  unfold content?
  rw [h]

/-! ## Paths -/

theorem follow_append (d : Disk) (start : Place) (ms ns : List String) :
    d.follow start (ms ++ ns) = match d.follow start ms with
      | .place p => d.follow p ns
      | t => t := by
  induction ms generalizing start with
  | nil => rfl
  | cons m ms ih =>
      rw [List.cons_append, follow, follow]
      split
      · rfl
      · split
        · exact ih _
        · split
          · rfl
          · exact ih _

/-- Where no directory went away, names that lead to a place lead there still. -/
theorem follow_of_isDirectory {d d' : Disk}
    (h : ∀ p, d.isDirectory p = true → d'.isDirectory p = true) {start p : Place}
    {ns : List String} (hp : d.follow start ns = .place p) : d'.follow start ns = .place p := by
  induction ns generalizing start with
  | nil => exact hp
  | cons n ns ih =>
      rw [follow] at hp ⊢
      cases hstart : d.isDirectory start with
      | false =>
          rw [hstart] at hp
          cases hp
      | true =>
          rw [hstart] at hp
          rw [h start hstart]
          simp only [Bool.not_true, Bool.false_eq_true, if_false] at hp ⊢
          by_cases hup : (n == "..") = true
          · rw [if_pos hup] at hp ⊢
            exact ih hp
          · rw [if_neg hup] at hp ⊢
            by_cases hlong : Path.isLongName n = true
            · rw [if_pos hlong] at hp
              cases hp
            · rw [if_neg hlong] at hp ⊢
              exact ih hp

theorem locate?_eq_some_iff (d : Disk) (here : Place) (p : Path) (place : Place) :
    d.locate? here p = some place ↔
      p.isLong = false ∧ d.follow (if p.isAbsolute then [] else here) p.names = .place place := by
  unfold locate? target
  cases p.isLong with
  | true => simp
  | false =>
      simp only [Bool.false_eq_true, if_false, true_and]
      cases d.follow (if p.isAbsolute then [] else here) p.names <;> simp

theorem locate?_of_isDirectory {d d' : Disk}
    (h : ∀ p, d.isDirectory p = true → d'.isDirectory p = true) {here place : Place} {p : Path}
    (hp : d.locate? here p = some place) : d'.locate? here p = some place := by
  rw [locate?_eq_some_iff] at hp ⊢
  exact ⟨hp.1, follow_of_isDirectory h hp.2⟩

/-- Paths lead where they led on a disk with the same directories. -/
theorem locate?_congr {d d' : Disk} (h : ∀ p, d'.isDirectory p = d.isDirectory p) (here : Place)
    (p : Path) : d'.locate? here p = d.locate? here p := by
  refine Option.ext fun place => ⟨fun hp => ?_, fun hp => ?_⟩
  · exact locate?_of_isDirectory (fun q hq => (h q).symm.trans hq) hp
  · exact locate?_of_isDirectory (fun q hq => (h q).trans hq) hp

/-- A path with one name more leads to a place in the directory. -/
theorem locate?_of_parent {d : Disk} {here directory place : Place} {p : Path} {n : String}
    (hnames : p.names = p.parent.names ++ [n]) (hn : n ≠ "..")
    (hparent : d.locate? here p.parent = some directory) (hp : d.locate? here p = some place) :
    d.isDirectory directory = true ∧ place = directory ++ [n] := by
  rw [locate?_eq_some_iff] at hparent hp
  obtain ⟨-, hparent⟩ := hparent
  obtain ⟨-, hp⟩ := hp
  have hstart : (if p.isAbsolute then [] else here)
      = (if p.parent.isAbsolute then [] else here) := rfl
  rw [hnames, follow_append, hstart, hparent] at hp
  dsimp only at hp
  rw [follow] at hp
  cases hdirectory : d.isDirectory directory with
  | false =>
      rw [hdirectory] at hp
      cases hp
  | true =>
      rw [hdirectory] at hp
      simp only [Bool.not_true, Bool.false_eq_true, if_false] at hp
      rw [if_neg (by simpa using hn)] at hp
      split at hp
      · cases hp
      · exact ⟨rfl, (Target.place.inj hp).symm⟩

/-- The names of a path that leads through a directory. -/
theorem locate?_child {d : Disk} {here directory : Place} {p : Path} {n : String}
    (hnames : p.names = p.parent.names ++ [n]) (hn : n ≠ "..")
    (hparent : d.locate? here p.parent = some directory)
    (hdirectory : d.isDirectory directory = true) :
    d.locate? here p = if p.isLong || Path.isLongName n then none else some (directory ++ [n]) := by
  rw [locate?_eq_some_iff] at hparent
  obtain ⟨-, hparent⟩ := hparent
  have hstart : (if p.isAbsolute then [] else here)
      = (if p.parent.isAbsolute then [] else here) := rfl
  unfold locate? target
  cases p.isLong with
  | true => rfl
  | false =>
      simp only [Bool.false_eq_true, if_false, Bool.false_or]
      rw [hnames, follow_append, hstart, hparent]
      dsimp only
      rw [follow, hdirectory]
      simp only [Bool.not_true, Bool.false_eq_true, if_false]
      rw [if_neg (by simpa using hn)]
      cases Path.isLongName n <;> rfl

/-! ## New directories -/

/-- Directories were made on a disk, and nothing else. -/
structure Grows (d d' : Disk) : Prop where
  isDirectory : ∀ p, d.isDirectory p = true → d'.isDirectory p = true
  content? : ∀ p, d'.content? p = d.content? p

theorem Grows.refl (d : Disk) : Grows d d := ⟨fun _ h => h, fun _ => rfl⟩

theorem Grows.trans {d d' d'' : Disk} (h : Grows d d') (h' : Grows d' d'') : Grows d d'' :=
  ⟨fun p hp => h'.isDirectory p (h.isDirectory p hp),
    fun p => (h'.content? p).trans (h.content? p)⟩

theorem grows_makeOne? {d d' : Disk} {here : Place} {p : Path} (h : d.makeOne? here p = some d') :
    Grows d d' := by
  unfold makeOne? at h
  cases hplace : d.locate? here p with
  | none =>
      rw [hplace] at h
      cases h
  | some place =>
      rw [hplace] at h
      dsimp only at h
      split at h
      · obtain rfl := Option.some.inj h
        exact Grows.refl d
      · cases h
      · next hnone =>
        obtain rfl := Option.some.inj h
        have hne : place ≠ [] := by
          rintro rfl
          cases hnone
        -- where the directory is made there was nothing before
        refine ⟨fun q hq => ?_, fun q => ?_⟩
        · rw [isDirectory_iff] at hq ⊢
          rw [at?_put d hne]
          split
          · rfl
          · exact hq
        · by_cases heq : q = place
          · rw [content?, content?, at?_put d hne, if_pos heq, heq, hnone]
          · exact content?_congr (by rw [at?_put d hne, if_neg heq])

theorem grows_makeAlong? {d d' : Disk} {here : Place} {base : Path} {ns : List String}
    (h : d.makeAlong? here base ns = some d') : Grows d d' := by
  induction ns generalizing d base with
  | nil => exact grows_makeOne? h
  | cons n ns ih =>
      obtain ⟨d₁, hone, hrest⟩ := Option.bind_eq_some_iff.1 h
      exact (grows_makeOne? hone).trans (ih hrest)

theorem grows_makeDirectories? {d d' : Disk} {here : Place} {p : Path}
    (h : d.makeDirectories? here p = some d') : Grows d d' := grows_makeAlong? h

end ApiTools.Disk
