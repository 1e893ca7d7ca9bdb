import ApiTools.Action.Replace
import ApiTools.Action.World
import ApiTools.Proofs.Disk
import Mathlib.Data.List.Nodup
import Mathlib.Data.List.Perm.Subperm
import Mathlib.Data.List.Range

set_option autoImplicit false

/-!
# Actions in a world

An action after another is run in the world that the first one leaves. A file is replaced in one
go: afterwards it has its new text, or no file has changed. Besides that directories may have been
made, and a temporary file may be left if it could not be closed.
-/

namespace ApiTools

/-- An action after another is run in the world that the first one leaves. -/
theorem Action.run_bind {α β : Type} (x : Action α) (f : α → Action β) (w : World) :
    (x.bind f).run w = (f (x.run w).1).run (x.run w).2 := by
  induction x generalizing w with
  | done a => rfl
  | print c s next ih => exact ih _
  | setting n next ih => exact ih _ _
  | workingDirectory next ih => exact ih _ _
  | time next ih => exact ih _ _
  | terminal next ih => exact ih _ _
  | input next ih => exact ih _ _
  | fetch u next ih => exact ih _ _
  | overflows s next ih => exact ih _ _
  | look p next ih => exact ih _ _
  | read p next ih => exact ih _ _
  | makeDirectories p next ih => exact ih _ _
  | step t s next ih => exact ih _ _
  | save p s next ih => exact ih _ _

/-- The same for an action that is written before another one. -/
theorem Action.run_seq {α β : Type} (x : Action α) (f : α → Action β) (w : World) :
    (x >>= f).run w = (f (x.run w).1).run (x.run w).2 := Action.run_bind x f w

theorem Action.run_sight (p : Path) (w : World) : (Action.sight p).run w = (w.look p, w) := rfl

theorem Action.run_content (p : Path) (w : World) : (Action.content p).run w = (w.read p, w) := rfl

theorem Action.run_step {α : Type} (target : Path) (s : WriteStep) (next : Attempt Unit → Action α)
    (w : World) :
    (Action.step target s next).run w = (next (w.step target s).1).run (w.step target s).2 := rfl

namespace World

/-- The content of the file that a path leads to, if there is one. -/
def fileAt? (w : World) (p : Path) : Option ByteArray := (w.locate? p).bind w.disk.content?

/-- A path is seen to lead to a file where it leads to one, and then the file can be read. -/
theorem look_read (w : World) (p : Path) :
    (∃ content, w.fileAt? p = some content ∧ w.look p = .ok .file ∧ w.read p = .ok content) ∨
      (w.fileAt? p = none ∧ w.look p ≠ .ok .file) := by
  unfold fileAt? look read locate? Disk.locate? Disk.content?
  cases w.disk.target w.here p with
  | nowhere => exact .inr ⟨rfl, nofun⟩
  | refused => exact .inr ⟨rfl, nofun⟩
  | place place =>
      dsimp only [Option.bind_some]
      cases w.disk.at? place with
      | none => exact .inr ⟨rfl, nofun⟩
      | some e =>
          cases e with
          | directory => exact .inr ⟨rfl, nofun⟩
          | file content => exact .inl ⟨content, rfl, rfl, rfl⟩

/-- A path is seen to lead to a directory where it leads to one. -/
theorem exists_of_look_eq_directory {w : World} {p : Path} (h : w.look p = .ok .directory) :
    ∃ place, w.locate? p = some place ∧ w.disk.isDirectory place = true := by
  unfold look at h
  unfold locate? Disk.locate?
  cases htarget : w.disk.target w.here p with
  | nowhere =>
      rw [htarget] at h
      cases h
  | refused =>
      rw [htarget] at h
      cases h
  | place place =>
      rw [htarget] at h
      dsimp only at h
      refine ⟨place, rfl, (Disk.isDirectory_iff _ _).2 ?_⟩
      cases hat : w.disk.at? place with
      | none =>
          rw [hat] at h
          cases h
      | some e =>
          rw [hat] at h
          cases e with
          | directory => rfl
          | file content => cases h

/-! ## What an action keeps -/

/-- Between two worlds no directory goes away, and certain places keep their files, or are still
without one. -/
structure Keeps (kept : Place → Prop) (w w' : World) : Prop where
  here : w'.here = w.here
  isDirectory : ∀ p, w.disk.isDirectory p = true → w'.disk.isDirectory p = true
  content? : ∀ p, kept p → w'.disk.content? p = w.disk.content? p

theorem Keeps.refl (kept : Place → Prop) (w : World) : Keeps kept w w :=
  ⟨rfl, fun _ h => h, fun _ _ => rfl⟩

theorem Keeps.trans {kept : Place → Prop} {w w' w'' : World} (h : Keeps kept w w')
    (h' : Keeps kept w' w'') : Keeps kept w w'' :=
  ⟨h'.here.trans h.here, fun p hp => h'.isDirectory p (h.isDirectory p hp),
    fun p hp => (h'.content? p hp).trans (h.content? p hp)⟩

theorem Keeps.mono {kept fewer : Place → Prop} {w w' : World} (h : Keeps kept w w')
    (hfewer : ∀ p, fewer p → kept p) : Keeps fewer w w' :=
  ⟨h.here, h.isDirectory, fun p hp => h.content? p (hfewer p hp)⟩

/-- Where every place is as it was, everything is kept. -/
theorem Keeps.of_at? {w w' : World} (hhere : w'.here = w.here)
    (hat : ∀ p, w'.disk.at? p = w.disk.at? p) (kept : Place → Prop) : Keeps kept w w' := by
  refine ⟨hhere, fun p hp => ?_, fun p _ => Disk.content?_congr (hat p)⟩
  rw [Disk.isDirectory_iff] at hp ⊢
  rw [hat p, hp]

theorem Keeps.locate? {kept : Place → Prop} {w w' : World} (h : Keeps kept w w') {p : Path}
    {place : Place} (hp : w.locate? p = some place) : w'.locate? p = some place := by
  unfold World.locate? at hp ⊢
  rw [h.here]
  exact Disk.locate?_of_isDirectory h.isDirectory hp

/-! ## Names of temporary files -/

/-- The names of the temporary files for a file. -/
def temporaryName (name : String) (n : Nat) : String := "." ++ name ++ "." ++ mark n ++ ".tmp"

/-- The places of the temporary files for a file. -/
def IsTemporary (name : String) (place : Place) : Prop :=
  ∃ directory n, place = directory ++ [temporaryName name n]

theorem ofDigitChars_padded (width n : Nat) :
    Nat.ofDigitChars 10 (Number.padded width n) 0 = n := by
  have hzeros : ∀ k, Nat.ofDigitChars 10 (List.replicate k '0') 0 = 0 := by
    intro k
    induction k with
    | zero => rfl
    | succ k ih =>
        rw [List.replicate_succ, Nat.ofDigitChars_cons]
        exact ih
  unfold Number.padded
  rw [Nat.ofDigitChars_append, hzeros, Nat.ofDigitChars_toDigits (by decide) (by decide)]

theorem temporaryName_inj {name : String} {m n : Nat}
    (h : temporaryName name m = temporaryName name n) : m = n := by
  have hmark : mark m = mark n :=
    (String.append_right_inj _).1 ((String.append_left_inj _).1 h)
  have hdigits := congrArg (Nat.ofDigitChars 10 · 0) (String.ofList_inj.1 hmark)
  simpa only [ofDigitChars_padded] using hdigits

/-- There are more names than entries, so one of them is free. -/
theorem exists_freshName (d : Disk) (directory : Place) (name : String) :
    ∃ n, freshName d directory ("." ++ name ++ ".") = temporaryName name n ∧
      d.at? (directory ++ [temporaryName name n]) = none := by
  have hnames : (List.range (d.entries.length + 1)).map
      (fun n => "." ++ name ++ "." ++ mark n ++ ".tmp")
        = (List.range (d.entries.length + 1)).map (temporaryName name) := rfl
  unfold freshName
  rw [hnames]
  dsimp only
  cases hfind : ((List.range (d.entries.length + 1)).map (temporaryName name)).find?
      fun n => (d.at? (directory ++ [n])).isNone with
  | some found =>
      obtain ⟨n, -, rfl⟩ := List.mem_map.1 (List.mem_of_find?_eq_some hfind)
      exact ⟨n, rfl, by simpa using List.find?_some hfind⟩
  | none =>
      -- otherwise every name has an entry of its own
      have hall := List.find?_eq_none.1 hfind
      have hsubset : (List.range (d.entries.length + 1)).map
          (fun n => directory ++ [temporaryName name n]) ⊆ d.entries.map (·.1) := by
        intro place hplace
        obtain ⟨n, hn, rfl⟩ := List.mem_map.1 hplace
        have htaken := hall _ (List.mem_map_of_mem hn)
        rw [Disk.at?_of_ne_nil _ (by simp), Option.isNone_map] at htaken
        obtain ⟨e, he⟩ : ∃ e, (directory ++ [temporaryName name n], e) ∈ d.entries := by
          simpa using htaken
        exact List.mem_map.2 ⟨_, he, rfl⟩
      have hnodup : ((List.range (d.entries.length + 1)).map
          fun n => directory ++ [temporaryName name n]).Nodup := by
        refine List.nodup_range.map fun m n h => ?_
        exact temporaryName_inj (List.singleton_inj.1 (List.append_cancel_left h))
      have hlength := hnodup.length_le_of_subset hsubset
      rw [List.length_map, List.length_range, List.length_map] at hlength
      omega

/-! ## Drafts -/

/-- While a temporary file is written, everything but its place is as it was in the world before,
where nothing was there. -/
structure Drafts (before : World) (place : Place) (w : World) : Prop where
  here : w.here = before.here
  free : before.disk.at? place = none
  at? : ∀ p, p ≠ place → w.disk.at? p = before.disk.at? p
  temporary : ∃ t, w.temporary = some t ∧ t.place = place

/-- What was written so far, part of it to the disk and part of it to the buffer. -/
def HasDraft (w : World) (place : Place) (draft : ByteArray) : Prop :=
  ∃ buffer content, w.temporary = some { place := place, buffer := buffer, isOpen := true } ∧
    w.disk.content? place = some content ∧ content ++ buffer.toUTF8 = draft

variable {before w : World} {place : Place}

theorem Drafts.ne_nil (h : Drafts before place w) : place ≠ [] := by
  rintro rfl
  cases h.free

/-- A disk that is as it was but for a place that was free has its directories and its files. -/
theorem Drafts.keeps (h : Drafts before place w) : Keeps (· ≠ place) before w := by
  refine ⟨h.here, fun p hp => ?_, fun p hp => Disk.content?_congr (h.at? p hp)⟩
  rw [Disk.isDirectory_iff] at hp ⊢
  rw [h.at? p, hp]
  rintro rfl
  rw [h.free] at hp
  cases hp

theorem Drafts.flushBuffer (h : Drafts before place w) {t : Temporary} (ht : t.place = place) :
    Drafts before place (w.flushBuffer t) := by
  refine ⟨h.here, h.free, fun p hp => ?_, _, rfl, ht⟩
  have hput : (w.flushBuffer t).disk.at? p = w.disk.at? p := by
    unfold World.flushBuffer
    rw [Disk.at?_put _ (ht ▸ h.ne_nil), if_neg (by rw [ht]; exact hp)]
  rw [hput, h.at? p hp]

theorem HasDraft.flushBuffer {draft : ByteArray} (hplace : place ≠ []) {buffer : String}
    {content : ByteArray} (hcontent : w.disk.content? place = some content)
    (hdraft : content ++ buffer.toUTF8 = draft) (isOpen : Bool) :
    (w.flushBuffer { place := place, buffer := buffer, isOpen := isOpen }).disk.content? place
      = some draft := by
  unfold World.flushBuffer
  dsimp only
  rw [hcontent, Option.getD_some, hdraft, Disk.content?_eq_some_iff, Disk.at?_put _ hplace,
    if_pos rfl]

/-- The steps of writing between those that create the temporary file and give it its name. -/
def IsWriting : WriteStep → Prop
  | .write _ | .flush | .sync | .close | .closeAgain => True
  | .create | .rename | .remove => False

theorem Drafts.closeTemporary (h : Drafts before place w) {t : Temporary} (ht : t.place = place)
    (fails : Bool) :
    Drafts before place (w.closeTemporary t fails).2 := by
  unfold World.closeTemporary
  cases t.isOpen with
  | false => exact h
  | true =>
      cases fails with
      | true => exact ⟨h.here, h.free, h.at?, _, rfl, ht⟩
      | false =>
          obtain ⟨hhere, hfree, hat, -⟩ := h.flushBuffer ht
          exact ⟨hhere, hfree, hat, _, rfl, ht⟩

theorem Drafts.step (h : Drafts before place w) (target : Path) {s : WriteStep}
    (hs : IsWriting s) : Drafts before place (w.step target s).2 := by
  obtain ⟨t, htemporary, ht⟩ := h.temporary
  unfold World.step
  rw [htemporary]
  cases s with
  | create => cases hs
  | rename => cases hs
  | remove => cases hs
  | write text =>
      dsimp only
      split
      · exact h
      · exact ⟨h.here, h.free, h.at?, _, rfl, ht⟩
  | flush =>
      dsimp only
      split
      · exact h
      · exact h.flushBuffer ht
  | sync =>
      dsimp only
      split <;> exact h
  | close => exact h.closeTemporary ht _
  | closeAgain => exact h.closeTemporary ht _

theorem Drafts.takeAll (h : Drafts before place w) (target : Path) {steps : List WriteStep}
    (hsteps : ∀ s ∈ steps, IsWriting s) :
    Drafts before place ((Action.takeAll target steps).run w).2 := by
  induction steps generalizing w with
  | nil => exact h
  | cons s steps ih =>
      have hstep := h.step target (hsteps s List.mem_cons_self)
      unfold Action.takeAll
      rw [Action.run_step]
      cases (w.step target s).1 with
      | error reason => exact hstep
      | ok u => exact ih hstep fun s hs => hsteps s (List.mem_cons_of_mem _ hs)

/-- If several steps are all taken, so is the first one, and the others are taken after it. -/
theorem run_takeAll_cons {target : Path} {s : WriteStep} {steps : List WriteStep}
    (hok : ((Action.takeAll target (s :: steps)).run w).1 = .ok ()) :
    (w.step target s).1 = .ok () ∧
      (Action.takeAll target (s :: steps)).run w
        = (Action.takeAll target steps).run (w.step target s).2 := by
  rw [Action.takeAll, Action.run_step] at hok ⊢
  cases hresult : (w.step target s).1 with
  | error reason =>
      rw [hresult] at hok
      cases hok
  | ok u => exact ⟨rfl, rfl⟩

variable {draft : ByteArray} {target : Path}

theorem HasDraft.write (h : HasDraft w place draft) {text : String}
    (hok : (w.step target (.write text)).1 = .ok ()) :
    HasDraft (w.step target (.write text)).2 place (draft ++ text.toUTF8) := by
  obtain ⟨buffer, content, htemporary, hcontent, hdraft⟩ := h
  unfold step at hok ⊢
  rw [htemporary] at hok ⊢
  dsimp only at hok ⊢
  split at hok
  · cases hok
  · next htrouble =>
    rw [if_neg htrouble]
    refine ⟨_, content, rfl, hcontent, ?_⟩
    show content ++ (buffer ++ text).toByteArray = draft ++ text.toByteArray
    rw [String.toByteArray_append, ← hdraft, ← ByteArray.append_assoc]
    rfl

theorem HasDraft.flush (hplace : place ≠ []) (h : HasDraft w place draft)
    (hok : (w.step target .flush).1 = .ok ()) : HasDraft (w.step target .flush).2 place draft := by
  obtain ⟨buffer, content, htemporary, hcontent, hdraft⟩ := h
  unfold step at hok ⊢
  rw [htemporary] at hok ⊢
  dsimp only at hok ⊢
  split at hok
  · cases hok
  · next htrouble =>
    rw [if_neg htrouble]
    exact ⟨"", draft, rfl, flushBuffer hplace hcontent hdraft true, ByteArray.append_empty⟩

theorem HasDraft.sync (h : HasDraft w place draft) (target : Path) :
    HasDraft (w.step target .sync).2 place draft := by
  obtain ⟨buffer, content, htemporary, hcontent, hdraft⟩ := h
  have hsame : (w.step target .sync).2 = w := by
    unfold step
    rw [htemporary]
    dsimp only
    split <;> rfl
  rw [hsame]
  exact ⟨buffer, content, htemporary, hcontent, hdraft⟩

theorem HasDraft.close (hplace : place ≠ []) (h : HasDraft w place draft)
    (hok : (w.step target .close).1 = .ok ()) :
    (w.step target .close).2.disk.content? place = some draft := by
  obtain ⟨buffer, content, htemporary, hcontent, hdraft⟩ := h
  unfold step closeTemporary at hok ⊢
  rw [htemporary] at hok ⊢
  simp only [Bool.not_true, Bool.false_eq_true, if_false] at hok ⊢
  split at hok
  · cases hok
  · next htrouble =>
    rw [if_neg htrouble]
    exact flushBuffer hplace hcontent hdraft true

/-- The steps between those that create the temporary file and give it its name. -/
def writing (text : String) : List WriteStep := [.write text, .flush, .sync, .close]

/-- If all of them are taken, the temporary file holds the text. -/
theorem HasDraft.content?_of_takeAll {text : String} (hplace : place ≠ [])
    (h : HasDraft w place ByteArray.empty)
    (hok : ((Action.takeAll target (writing text)).run w).1 = .ok ()) :
    ((Action.takeAll target (writing text)).run w).2.disk.content? place = some text.toUTF8 := by
  unfold writing at hok ⊢
  -- the text is in the buffer first, and on the disk after the buffer was flushed
  obtain ⟨hwrite, hrun⟩ := run_takeAll_cons hok
  rw [hrun] at hok ⊢
  have h := h.write hwrite
  rw [ByteArray.empty_append] at h
  obtain ⟨hflush, hrun⟩ := run_takeAll_cons hok
  rw [hrun] at hok ⊢
  have h := h.flush hplace hflush
  obtain ⟨-, hrun⟩ := run_takeAll_cons hok
  rw [hrun] at hok ⊢
  have h := h.sync target
  obtain ⟨hclose, hrun⟩ := run_takeAll_cons hok
  rw [hrun]
  exact h.close hplace hclose

/-! ## Afterwards -/

/-- Once the temporary file is taken away, everything is as it was before. -/
theorem Drafts.keeps_remove (h : Drafts before place w) (target : Path) (kept : Place → Prop) :
    Keeps kept before (w.step target .remove).2 := by
  obtain ⟨t, htemporary, ht⟩ := h.temporary
  unfold World.step
  rw [htemporary]
  have hat : ∀ p, (w.disk.remove t.place).at? p = before.disk.at? p := by
    intro p
    rw [Disk.at?_remove _ (ht ▸ h.ne_nil), ht]
    split
    · next hp => rw [hp, h.free]
    · next hp => exact h.at? p hp
  refine Keeps.of_at? ?_ ?_ kept
  · exact h.here
  · exact hat

/-- After a step failed, the temporary file is closed and taken away, if it can be closed. -/
theorem Drafts.cleanUp (h : Drafts before place w) (target : Path) (reason : String) :
    (∃ worse, ((Action.cleanUp target reason).run w).1 = .error worse) ∧
      Keeps (· ≠ place) before ((Action.cleanUp target reason).run w).2 := by
  have hclosed := h.step target (s := .closeAgain) trivial
  unfold Action.cleanUp
  rw [Action.run_step]
  cases (w.step target .closeAgain).1 with
  | error worse => exact ⟨⟨worse, rfl⟩, hclosed.keeps⟩
  | ok u => exact ⟨⟨reason, rfl⟩, hclosed.keeps_remove target _⟩

/-- Either the temporary file gets the name of the target, or nothing happens. -/
theorem Drafts.rename (h : Drafts before place w) (target : Path) {content : ByteArray}
    (hcontent : w.disk.content? place = some content) :
    ((∃ reason, (w.step target .rename).1 = .error reason) ∧ (w.step target .rename).2 = w) ∨
    ((w.step target .rename).1 = .ok () ∧
      ∃ goal, (w.step target .rename).2.locate? target = some goal ∧
        (w.step target .rename).2.disk.content? goal = some content ∧
        Keeps (· ≠ goal) before (w.step target .rename).2) := by
  obtain ⟨t, htemporary, ht⟩ := h.temporary
  unfold World.step renameTemporary
  rw [htemporary]
  dsimp only
  rw [ht, hcontent]
  cases hgoal : w.locate? target with
  | none => exact .inl ⟨⟨_, rfl⟩, rfl⟩
  | some goal =>
      dsimp only
      split
      · exact .inl ⟨⟨_, rfl⟩, rfl⟩
      · next hfine =>
        have hfine : w.disk.isDirectory goal = false := by
          simpa using (Bool.or_eq_false_iff.1 (by simpa using hfine)).2
        have hne : goal ≠ [] := by
          rintro rfl
          cases hfine
        have hat : ∀ p, p ≠ goal → p ≠ place →
            ((w.disk.remove place).put goal (.file content)).at? p = w.disk.at? p := by
          intro p hpgoal hpplace
          rw [Disk.at?_put _ hne, if_neg hpgoal, Disk.at?_remove _ h.ne_nil, if_neg hpplace]
        -- neither the goal nor the place of the temporary file is a directory
        have hdirectories : ∀ p, w.disk.isDirectory p = true →
            ((w.disk.remove place).put goal (.file content)).isDirectory p = true := by
          intro p hp
          have hpgoal : p ≠ goal := by
            rintro rfl
            rw [hfine] at hp
            cases hp
          have hpplace : p ≠ place := by
            rintro rfl
            rw [Disk.isDirectory_iff, (Disk.content?_eq_some_iff _ _ _).1 hcontent] at hp
            cases hp
          rw [Disk.isDirectory_iff] at hp ⊢
          exact (hat p hpgoal hpplace).trans hp
        refine .inr ⟨rfl, goal, Disk.locate?_of_isDirectory hdirectories hgoal, ?_, h.here,
          fun p hp => hdirectories p (h.keeps.isDirectory p hp), fun p hp => ?_⟩
        · rw [Disk.content?_eq_some_iff, Disk.at?_put _ hne, if_pos rfl]
        · by_cases hpplace : p = place
          · -- the temporary file is gone, unless the goal is its place
            refine Disk.content?_congr ?_
            rw [Disk.at?_put _ hne, if_neg hp, Disk.at?_remove _ h.ne_nil, if_pos hpplace,
              hpplace, h.free]
          · exact Disk.content?_congr ((hat p hp hpplace).trans (h.at? p hpplace))

/-! ## Replacing a file -/

/-- What replacing a file comes to, which leads from a world to another: the file has the text, or
no file has changed. A temporary file may be there in either case. -/
inductive Replaces {ε : Type} (target : Path) (text : String) (w w' : World) :
    Except ε Unit → Prop
  | done {directory goal : Place} (hparent : w'.locate? target.parent = some directory)
      (hgoal : w'.locate? target = some goal)
      (hcontent : w'.disk.content? goal = some text.toUTF8)
      (hkeeps : Keeps (fun p => ¬ IsTemporary target.name p ∧ p ≠ goal) w w') :
      Replaces target text w w' (.ok ())
  | failed {f : ε} (hkeeps : Keeps (¬ IsTemporary target.name ·) w w') :
      Replaces target text w w' (.error f)

section Replaces

variable {ε ε' : Type} {text : String} {w' : World} {r : Except ε Unit}

theorem Replaces.mapError (h : Replaces target text w w' r) (g : ε → ε') :
    Replaces target text w w' (r.mapError g) := by
  cases h with
  | done hparent hgoal hcontent hkeeps => exact .done hparent hgoal hcontent hkeeps
  | failed hkeeps => exact .failed hkeeps

theorem Replaces.of_keeps {made : World} (hmade : ∀ kept, Keeps kept w made)
    (h : Replaces target text made w' r) : Replaces target text w w' r := by
  cases h with
  | done hparent hgoal hcontent hkeeps =>
      exact .done hparent hgoal hcontent ((hmade _).trans hkeeps)
  | failed hkeeps => exact .failed ((hmade _).trans hkeeps)

end Replaces

theorem keeps_makeDirectories (kept : Place → Prop) (w : World) (p : Path) :
    Keeps kept w (w.makeDirectories p).2 := by
  unfold makeDirectories
  cases hmade : w.disk.makeDirectories? w.here p with
  | none => exact Keeps.refl kept w
  | some d =>
      have hgrows := Disk.grows_makeDirectories? hmade
      exact ⟨rfl, hgrows.isDirectory, fun p _ => hgrows.content? p⟩

/-- The temporary file is made under a name that was free, and it is empty. -/
theorem createTemporary_eq_ok {w : World} {target : Path}
    (hok : (w.createTemporary target).1 = .ok ()) :
    ∃ directory n, w.locate? target.parent = some directory ∧
      Drafts w (directory ++ [temporaryName target.name n]) (w.createTemporary target).2 ∧
      HasDraft (w.createTemporary target).2 (directory ++ [temporaryName target.name n])
        ByteArray.empty := by
  unfold createTemporary at hok ⊢
  cases hparent : w.locate? target.parent with
  | none =>
      rw [hparent] at hok
      cases hok
  | some directory =>
      obtain ⟨n, hname, hfree⟩ := exists_freshName w.disk directory target.name
      rw [hparent] at hok
      dsimp only at hok ⊢
      rw [hname] at hok ⊢
      split at hok
      · cases hok
      · next htrouble =>
        rw [if_neg htrouble]
        have hne : directory ++ [temporaryName target.name n] ≠ [] := by simp
        refine ⟨directory, n, rfl, ⟨rfl, hfree, fun p hp => ?_, _, rfl, rfl⟩,
          "", ByteArray.empty, rfl, ?_, ByteArray.append_empty⟩
        · rw [Disk.at?_put _ hne, if_neg hp]
        · rw [Disk.content?_eq_some_iff, Disk.at?_put _ hne, if_pos rfl]

theorem createTemporary_eq_error {w : World} {target : Path} {reason : String}
    (h : (w.createTemporary target).1 = .error reason) : (w.createTemporary target).2 = w := by
  unfold createTemporary at h ⊢
  cases hparent : w.locate? target.parent with
  | none => rfl
  | some directory =>
      rw [hparent] at h
      dsimp only at h ⊢
      split at h
      · next htrouble => rw [if_pos htrouble]
      · cases h

/-- What is done once the temporary file is there. -/
def finish (target : Path) (text : String) : Action (Attempt Unit) :=
  (Action.takeAll target (writing text)).bind fun
    | .error reason => Action.cleanUp target reason
    | .ok _ => Action.step target .rename fun
      | .error reason => Action.dropTemporary target reason
      | .ok _ => .done (.ok ())

theorem Drafts.replaces {directory : Place} {n : Nat} {text : String}
    (hplace : place = directory ++ [temporaryName target.name n])
    (hparent : before.locate? target.parent = some directory)
    (h : Drafts before place w) (hempty : HasDraft w place ByteArray.empty) :
    Replaces target text before ((finish target text).run w).2 ((finish target text).run w).1 := by
  have htemporary : ∀ p, ¬ IsTemporary target.name p → p ≠ place := by
    rintro p hp rfl
    exact hp ⟨directory, n, hplace⟩
  have hwriting : ∀ s ∈ writing text, IsWriting s := by simp [writing, IsWriting]
  have hwritten := h.takeAll target hwriting
  unfold finish
  rw [Action.run_bind]
  cases hresult : ((Action.takeAll target (writing text)).run w).1 with
  | error reason =>
      obtain ⟨⟨worse, hworse⟩, hkeeps⟩ := hwritten.cleanUp target reason
      dsimp only
      rw [hworse]
      exact .failed (hkeeps.mono htemporary)
  | ok u =>
      have hcontent := hempty.content?_of_takeAll h.ne_nil hresult
      dsimp only
      rw [Action.run_step]
      rcases hwritten.rename target hcontent with ⟨⟨reason, hreason⟩, hsame⟩ |
        ⟨hdone, goal, hgoal, hnew, hkeeps⟩
      · rw [hreason, hsame]
        exact .failed (hwritten.keeps_remove target _)
      · rw [hdone]
        exact .done (hkeeps.locate? hparent) hgoal hnew
          (hkeeps.mono fun p (hp : ¬ IsTemporary target.name p ∧ p ≠ goal) => hp.2)

/-- Replacing a file fails before it makes a temporary one, or makes one that is empty and goes
on from there. -/
theorem run_replaceAt (target : Path) (text : String) (w : World) :
    let made := w.makeDirectories target.parent
    let created := made.2.createTemporary target
    (¬ (made.1 = .ok () ∧ created.1 = .ok ()) ∧
      ∃ reason, (Action.replaceAt target text).run w = (.error reason, made.2)) ∨
    ((made.1 = .ok () ∧ created.1 = .ok ()) ∧
      (Action.replaceAt target text).run w = (finish target text).run created.2 ∧
      ∃ directory n, made.2.locate? target.parent = some directory ∧
        Drafts made.2 (directory ++ [temporaryName target.name n]) created.2 ∧
        HasDraft created.2 (directory ++ [temporaryName target.name n]) ByteArray.empty) := by
  intro made created
  have hrun : (Action.replaceAt target text).run w
      = ((fun
        | .error reason => .done (.error reason)
        | .ok _ => Action.step target .create fun
          | .error reason => .done (.error reason)
          | .ok _ => finish target text : Attempt Unit → Action (Attempt Unit)) made.1).run
          made.2 := rfl
  rw [hrun]
  cases hmade : made.1 with
  | error reason => exact .inl ⟨nofun, reason, rfl⟩
  | ok u =>
      have hcreate : made.2.step target .create = created := by
        unfold step
        rfl
      dsimp only
      rw [Action.run_step, hcreate]
      cases hcreated : created.1 with
      | error reason =>
          rw [createTemporary_eq_error hcreated]
          exact .inl ⟨nofun, reason, rfl⟩
      | ok u => exact .inr ⟨⟨rfl, rfl⟩, rfl, createTemporary_eq_ok hcreated⟩

theorem replaces_replaceAt (target : Path) (text : String) (w : World) :
    Replaces target text w ((Action.replaceAt target text).run w).2
      ((Action.replaceAt target text).run w).1 := by
  have hmade := fun kept => keeps_makeDirectories kept w target.parent
  rcases run_replaceAt target text w with ⟨-, reason, hrun⟩ |
    ⟨-, hrun, directory, n, hparent, hdrafts, hempty⟩
  · rw [hrun]
    exact .failed (hmade _)
  · rw [hrun]
    exact (hdrafts.replaces rfl hparent hempty).of_keeps hmade

end World

/-- **A file is replaced in one go.** If it is replaced, it has exactly the new text; if it is not,
no file has changed. No other file changes in either case, temporary ones beside it aside. -/
theorem Action.replaces_replaceFile (target : Path) (text : String) (w : World) :
    World.Replaces target text w ((Action.replaceFile target text).run w).2
      ((Action.replaceFile target text).run w).1 := by
  unfold Action.replaceFile
  split
  · rw [Action.run_bind]
    exact (World.replaces_replaceAt target text w).mapError Action.NotReplaced.refused
  · exact .failed (World.Keeps.refl _ w)

end ApiTools
