import ApiTools.Proofs.Action

set_option autoImplicit false

/-!
# When a temporary file is left

Replacing a file is meant to come to one of two things: the file has the new text and every other
place has what it had, or every place has what it had. It does, whichever steps go wrong, with one
exception. If writing, flushing or forcing to the disk goes wrong, the temporary file is still open;
it has to be closed before it is removed, and closing it moves what is buffered to the disk once
more. If that goes wrong as well, as it does on a full disk, the temporary file stays.
-/

namespace ApiTools

namespace World

variable {before w : World} {place : Place} {target : Path} {isOpen : Bool}

/-! ## Open and closed drafts -/

/-- A draft whose file is there, and open or not. The steps that go wrong are the same as
before. -/
structure Pending (before : World) (place : Place) (isOpen : Bool) (w : World) : Prop where
  drafts : Drafts before place w
  troubles : w.troubles = before.troubles
  temporary : ∃ buffer, w.temporary = some { place := place, buffer := buffer, isOpen := isOpen }
  content? : ∃ content, w.disk.content? place = some content

theorem Pending.hasTrouble_eq (h : Pending before place isOpen w) (t : Trouble) :
    w.hasTrouble t = before.hasTrouble t := by
  unfold hasTrouble
  rw [h.troubles]

/-- What a step that may go wrong gives. -/
def answer (fails : Bool) : Attempt Unit := if fails then .error diskFailure else .ok ()

/-- Flushing moves what is buffered to the file of the draft. -/
theorem Pending.flushBuffer (h : Pending before place isOpen w) (buffer : String) :
    Pending before place isOpen
      (w.flushBuffer { place := place, buffer := buffer, isOpen := isOpen }) := by
  obtain ⟨content, hcontent⟩ := h.content?
  exact ⟨h.drafts.flushBuffer rfl, h.troubles, ⟨"", rfl⟩, _,
    HasDraft.flushBuffer h.drafts.ne_nil hcontent rfl isOpen⟩

/-- Closing a draft goes wrong if it is open and closing goes wrong; it is closed in any case. -/
theorem Pending.closeTemporary (h : Pending before place isOpen w) (buffer : String)
    (fails : Bool) :
    let closed := w.closeTemporary { place := place, buffer := buffer, isOpen := isOpen } fails
    closed.1 = answer (isOpen && fails) ∧ Pending before place false closed.2 := by
  have hdrafts := h.drafts.closeTemporary
    (t := { place := place, buffer := buffer, isOpen := isOpen }) rfl fails
  unfold World.closeTemporary at hdrafts ⊢
  cases isOpen with
  | false => exact ⟨rfl, h⟩
  | true =>
      cases fails with
      | true => exact ⟨rfl, hdrafts, h.troubles, ⟨buffer, rfl⟩, h.content?⟩
      | false => exact ⟨rfl, hdrafts, h.troubles, ⟨"", rfl⟩, (h.flushBuffer buffer).content?⟩

theorem Pending.step_close (h : Pending before place isOpen w) (target : Path) :
    (w.step target .close).1 = answer (isOpen && before.hasTrouble .close) ∧
      Pending before place false (w.step target .close).2 := by
  obtain ⟨buffer, htemporary⟩ := h.temporary
  unfold step
  rw [htemporary, ← h.hasTrouble_eq]
  exact h.closeTemporary buffer _

theorem Pending.step_closeAgain (h : Pending before place isOpen w) (target : Path) :
    (w.step target .closeAgain).1 = answer (isOpen && before.hasTrouble .closeAgain) ∧
      Pending before place false (w.step target .closeAgain).2 := by
  obtain ⟨buffer, htemporary⟩ := h.temporary
  unfold step
  rw [htemporary, ← h.hasTrouble_eq]
  exact h.closeTemporary buffer _

/-! ## While the draft is open -/

/-- Whether a step goes wrong that leaves the temporary file open; nothing for other steps. -/
def stops? (w : World) : WriteStep → Option Bool
  | .write _ => some (w.hasTrouble .write)
  | .flush => some (w.hasTrouble .flush)
  | .sync => some (w.hasTrouble .sync)
  | .create | .close | .closeAgain | .rename | .remove => none

/-- Writing, flushing and forcing to the disk leave the temporary file open, whether they go wrong
or not. -/
theorem Pending.step_open (h : Pending before place true w) (target : Path) {s : WriteStep}
    {fails : Bool} (hs : before.stops? s = some fails) :
    (w.step target s).1 = answer fails ∧ Pending before place true (w.step target s).2 := by
  obtain ⟨buffer, htemporary⟩ := h.temporary
  unfold step
  rw [htemporary]
  cases s with
  | write text =>
      obtain rfl := Option.some.inj hs
      dsimp only
      rw [h.hasTrouble_eq]
      cases before.hasTrouble .write with
      | true => exact ⟨rfl, h⟩
      | false =>
          have hdrafts : Drafts before place
              { w with temporary := some { place := place, buffer := buffer ++ text } } :=
            ⟨h.drafts.here, h.drafts.free, h.drafts.at?, _, rfl, rfl⟩
          exact ⟨rfl, hdrafts, h.troubles, ⟨_, rfl⟩, h.content?⟩
  | flush =>
      obtain rfl := Option.some.inj hs
      dsimp only
      rw [h.hasTrouble_eq]
      cases before.hasTrouble .flush with
      | true => exact ⟨rfl, h⟩
      | false => exact ⟨rfl, h.flushBuffer buffer⟩
  | sync =>
      obtain rfl := Option.some.inj hs
      dsimp only
      rw [h.hasTrouble_eq]
      cases before.hasTrouble .sync with
      | true => exact ⟨rfl, h⟩
      | false => exact ⟨rfl, h⟩
  | create | close | closeAgain | rename | remove => cases hs

/-- Whether one of the steps goes wrong that leave the temporary file open. -/
def stopsOpen (w : World) : Bool := w.hasTrouble .write || w.hasTrouble .flush || w.hasTrouble .sync

theorem run_takeAll_of_answer {s : WriteStep} {fails : Bool} (steps : List WriteStep)
    (hstep : (w.step target s).1 = answer fails) :
    (Action.takeAll target (s :: steps)).run w
      = if fails then (.error diskFailure, (w.step target s).2)
        else (Action.takeAll target steps).run (w.step target s).2 := by
  rw [Action.takeAll, Action.run_step, hstep]
  cases fails <;> rfl

/-- The steps between those that create the temporary file and give it its name leave it open if
one goes wrong that leaves it open, and closed otherwise. -/
theorem Pending.takeAll (h : Pending before place true w) (target : Path) (text : String) :
    let r := (Action.takeAll target (writing text)).run w
    r.1 = answer (before.stopsOpen || before.hasTrouble .close) ∧
      Pending before place before.stopsOpen r.2 := by
  unfold writing stopsOpen
  -- the file stays open from step to step, and only the last one closes it
  obtain ⟨hwrite, h⟩ := h.step_open target (s := .write text) rfl
  dsimp only
  rw [run_takeAll_of_answer _ hwrite]
  cases before.hasTrouble .write with
  | true => exact ⟨rfl, h⟩
  | false =>
      obtain ⟨hflush, h⟩ := h.step_open target (s := .flush) rfl
      rw [if_neg Bool.false_ne_true, run_takeAll_of_answer _ hflush]
      cases before.hasTrouble .flush with
      | true => exact ⟨rfl, h⟩
      | false =>
          obtain ⟨hsync, h⟩ := h.step_open target (s := .sync) rfl
          rw [if_neg Bool.false_ne_true, run_takeAll_of_answer _ hsync]
          cases before.hasTrouble .sync with
          | true => exact ⟨rfl, h⟩
          | false =>
              obtain ⟨hclose, h⟩ := h.step_close target
              rw [if_neg Bool.false_ne_true, run_takeAll_of_answer _ hclose]
              cases before.hasTrouble .close with
              | true => exact ⟨rfl, h⟩
              | false => exact ⟨rfl, h⟩

/-! ## Giving the draft its name -/

/-- A draft is no directory, so the directories are those from before. -/
theorem Pending.isDirectory_eq (h : Pending before place isOpen w) (p : Place) :
    w.disk.isDirectory p = before.disk.isDirectory p := by
  unfold Disk.isDirectory
  by_cases hp : p = place
  · obtain ⟨content, hcontent⟩ := h.content?
    rw [hp, (Disk.content?_eq_some_iff _ _ _).1 hcontent, h.drafts.free]
  · rw [h.drafts.at? p hp]

theorem Pending.locate?_eq (h : Pending before place isOpen w) (p : Path) :
    w.locate? p = before.locate? p := by
  unfold World.locate?
  rw [h.drafts.here]
  exact Disk.locate?_congr h.isDirectory_eq _ _

/-- Whether a file cannot be named as the target. -/
def stopsRename (w : World) (target : Path) : Bool :=
  w.hasTrouble .rename || (w.locate? target).all w.disk.isDirectory

theorem Pending.step_rename (h : Pending before place isOpen w) (target : Path) :
    (w.step target .rename).1 = answer (before.stopsRename target) := by
  obtain ⟨buffer, htemporary⟩ := h.temporary
  obtain ⟨content, hcontent⟩ := h.content?
  unfold step renameTemporary stopsRename
  rw [htemporary]
  dsimp only
  rw [h.locate?_eq, hcontent]
  cases before.locate? target with
  | none =>
      rw [Option.all_none, Bool.or_true]
      rfl
  | some goal =>
      rw [Option.all_some, ← h.isDirectory_eq, ← h.hasTrouble_eq]
      dsimp only
      cases w.hasTrouble .rename || w.disk.isDirectory goal <;> rfl

/-! ## Afterwards -/

/-- A draft is left behind after a step went wrong if it is open and cannot be closed. Otherwise
everything is as it was before. -/
theorem Pending.cleanUp (h : Pending before place isOpen w) (target : Path) (reason : String) :
    let r := (Action.cleanUp target reason).run w
    (∃ worse, r.1 = .error worse) ∧
      if isOpen && before.hasTrouble .closeAgain then Pending before place false r.2
      else ∀ kept, Keeps kept before r.2 := by
  obtain ⟨hclose, hclosed⟩ := h.step_closeAgain target
  unfold Action.cleanUp
  dsimp only
  rw [Action.run_step, hclose]
  cases isOpen && before.hasTrouble .closeAgain with
  | true => exact ⟨⟨_, rfl⟩, hclosed⟩
  | false => exact ⟨⟨reason, rfl⟩, hclosed.drafts.keeps_remove target⟩

/-- What replacing a file is meant to come to: the file has the text and every other place has what
it had, or every place has what it had. -/
inductive ReplacesAlone {ε : Type} (target : Path) (text : String) (w w' : World) :
    Except ε Unit → Prop
  | done {goal : Place} (hgoal : w'.locate? target = some goal)
      (hcontent : w'.disk.content? goal = some text.toUTF8) (hkeeps : Keeps (· ≠ goal) w w') :
      ReplacesAlone target text w w' (.ok ())
  | failed {f : ε} (hkeeps : ∀ kept, Keeps kept w w') : ReplacesAlone target text w w' (.error f)

section ReplacesAlone

variable {ε ε' : Type} {text : String} {w' : World} {r : Except ε Unit}

theorem ReplacesAlone.mapError (h : ReplacesAlone target text w w' r) (g : ε → ε') :
    ReplacesAlone target text w w' (r.mapError g) := by
  cases h with
  | done hgoal hcontent hkeeps => exact .done hgoal hcontent hkeeps
  | failed hkeeps => exact .failed hkeeps

theorem ReplacesAlone.of_keeps {made : World} (hmade : ∀ kept, Keeps kept w made)
    (h : ReplacesAlone target text made w' r) : ReplacesAlone target text w w' r := by
  cases h with
  | done hgoal hcontent hkeeps => exact .done hgoal hcontent ((hmade _).trans hkeeps)
  | failed hkeeps => exact .failed fun kept => (hmade kept).trans (hkeeps kept)

/-- A call that fails as it is meant to leaves every file as it was. -/
theorem ReplacesAlone.content?_of_error {f : ε}
    (h : ReplacesAlone target text w w' (Except.error f)) (p : Place) :
    w'.disk.content? p = w.disk.content? p := by
  cases h with
  | failed hkeeps => exact (hkeeps fun _ => True).content? p trivial

end ReplacesAlone

/-- Whether a file cannot be replaced once there is a temporary one. -/
def hinders (w : World) (target : Path) : Bool :=
  (w.stopsOpen || w.hasTrouble .close) || w.stopsRename target

/-- Once there is a temporary file, replacing succeeds if and only if no step goes wrong. -/
theorem Pending.finish_eq_ok_iff (h : Pending before place true w) (target : Path)
    (text : String) :
    ((finish target text).run w).1 = .ok () ↔ before.hinders target = false := by
  obtain ⟨htaken, hwritten⟩ := h.takeAll target text
  unfold World.finish hinders
  rw [Action.run_bind, htaken]
  cases before.stopsOpen || before.hasTrouble .close with
  | true =>
      obtain ⟨⟨worse, hworse⟩, -⟩ := hwritten.cleanUp target diskFailure
      unfold answer
      rw [if_pos rfl]
      dsimp only
      rw [hworse]
      exact iff_of_false nofun nofun
  | false =>
      have hrename := hwritten.step_rename target
      unfold answer at hrename ⊢
      rw [if_neg Bool.false_ne_true]
      dsimp only
      rw [Action.run_step, hrename]
      cases before.stopsRename target with
      | true => exact iff_of_false nofun nofun
      | false => exact iff_of_true rfl rfl

/-- Once there is an empty temporary file, replacing comes to what it is meant to, unless a step
goes wrong that leaves that file open and closing it goes wrong as well. -/
theorem Pending.finish (h : Pending before place true w)
    (hempty : HasDraft w place ByteArray.empty) (target : Path) (text : String) :
    let r := (finish target text).run w
    if before.stopsOpen && before.hasTrouble .closeAgain then
      (∃ worse, r.1 = .error worse) ∧ Pending before place false r.2
    else ReplacesAlone target text before r.2 r.1 := by
  obtain ⟨htaken, hwritten⟩ := h.takeAll target text
  unfold World.finish
  dsimp only
  rw [Action.run_bind]
  cases hresult : ((Action.takeAll target (writing text)).run w).1 with
  | error reason =>
      obtain ⟨⟨worse, hworse⟩, hleft⟩ := hwritten.cleanUp target reason
      dsimp only
      rw [hworse]
      split at hleft
      · next hleaves => rw [if_pos hleaves]; exact ⟨⟨worse, rfl⟩, hleft⟩
      · next hleaves => rw [if_neg hleaves]; exact .failed hleft
  | ok u =>
      -- all steps were taken, so none went wrong while the file was open
      have hopen : before.stopsOpen = false := by
        rw [hresult] at htaken
        cases hopen : before.stopsOpen with
        | false => rfl
        | true =>
            rw [hopen] at htaken
            cases htaken
      have hcontent := hempty.content?_of_takeAll h.drafts.ne_nil hresult
      rw [hopen, if_neg (by simp)]
      dsimp only
      rw [Action.run_step]
      rcases hwritten.drafts.rename target hcontent with ⟨⟨reason, hreason⟩, hsame⟩ |
        ⟨hdone, goal, hgoal, hnew, hkeeps⟩
      · rw [hreason, hsame]
        exact .failed (hwritten.drafts.keeps_remove target)
      · rw [hdone]
        exact .done hgoal hnew hkeeps

/-! ## Whether a temporary file is left -/

/-- A temporary file is made, a step goes wrong that leaves it open, and closing it goes wrong as
well. -/
structure LeavesDraft (target : Path) (w : World) : Prop where
  possible : target.isPossible = true
  made : (w.makeDirectories target.parent).1 = .ok ()
  created : ((w.makeDirectories target.parent).2.createTemporary target).1 = .ok ()
  stopsOpen : w.stopsOpen = true
  closeAgain : w.hasTrouble .closeAgain = true

/-- A temporary file can be made, written and closed, and named as the target. -/
structure Replaceable (target : Path) (w : World) : Prop where
  possible : target.isPossible = true
  made : (w.makeDirectories target.parent).1 = .ok ()
  created : ((w.makeDirectories target.parent).2.createTemporary target).1 = .ok ()
  unhindered : (w.makeDirectories target.parent).2.hinders target = false

/-- There is a temporary file that was not there before, and every other place has what it had. -/
def Litters (target : Path) (w w' : World) : Prop :=
  ∃ directory n, w'.locate? target.parent = some directory ∧
    w.disk.content? (directory ++ [temporaryName target.name n]) = none ∧
    (∃ content, w'.disk.content? (directory ++ [temporaryName target.name n]) = some content) ∧
    Keeps (· ≠ directory ++ [temporaryName target.name n]) w w'

theorem troubles_makeDirectories (w : World) (p : Path) :
    (w.makeDirectories p).2.troubles = w.troubles := by
  unfold makeDirectories
  split <;> rfl

theorem troubles_createTemporary (w : World) (target : Path) :
    (w.createTemporary target).2.troubles = w.troubles := by
  unfold createTemporary
  split
  · rfl
  · dsimp only
    split <;> rfl

/-- The temporary file is open when it was made. -/
theorem pending_createTemporary {made : World} (hdrafts : Drafts made place
      (made.createTemporary target).2)
    (hempty : HasDraft (made.createTemporary target).2 place ByteArray.empty) :
    Pending made place true (made.createTemporary target).2 := by
  obtain ⟨buffer, content, htemporary, hcontent, -⟩ := hempty
  exact ⟨hdrafts, troubles_createTemporary made target, ⟨buffer, htemporary⟩, content, hcontent⟩

theorem Pending.litters {made : World} {directory : Place} {n : Nat}
    (h : Pending made (directory ++ [temporaryName target.name n]) isOpen w)
    (hparent : made.locate? target.parent = some directory)
    (hmade : ∀ kept, Keeps kept before made) : Litters target before w := by
  have hfree : made.disk.content? (directory ++ [temporaryName target.name n]) = none := by
    unfold Disk.content?
    rw [h.drafts.free]
  refine ⟨directory, n, h.drafts.keeps.locate? hparent, ?_, h.content?,
    (hmade _).trans h.drafts.keeps⟩
  rw [← (hmade fun _ => True).content? _ trivial, hfree]

theorem replaceAt_eq_ok_iff (hpossible : target.isPossible = true) (text : String) (w : World) :
    ((Action.replaceAt target text).run w).1 = .ok () ↔ Replaceable target w := by
  rcases run_replaceAt target text w with ⟨hnone, reason, hrun⟩ |
    ⟨⟨hok, hcreated⟩, hrun, directory, n, hparent, hdrafts, hempty⟩
  · rw [hrun]
    exact iff_of_false nofun fun h => hnone ⟨h.made, h.created⟩
  · rw [hrun, (pending_createTemporary hdrafts hempty).finish_eq_ok_iff]
    exact ⟨fun h => ⟨hpossible, hok, hcreated, h⟩, fun h => h.unhindered⟩

/-- A path that a disk takes is dealt with as it is meant to be, or leaves a temporary file. -/
theorem replaceAt_alone_or_litters (hpossible : target.isPossible = true) (text : String)
    (w : World) :
    let r := (Action.replaceAt target text).run w
    (¬ LeavesDraft target w ∧ ReplacesAlone target text w r.2 r.1) ∨
      (LeavesDraft target w ∧ (∃ reason, r.1 = .error reason) ∧ Litters target w r.2) := by
  have hmade := fun kept => keeps_makeDirectories kept w target.parent
  have htroubles := troubles_makeDirectories w target.parent
  rcases run_replaceAt target text w with ⟨hnone, reason, hrun⟩ |
    ⟨⟨hok, hcreated⟩, hrun, directory, n, hparent, hdrafts, hempty⟩
  · rw [hrun]
    exact .inl ⟨fun h => hnone ⟨h.made, h.created⟩, .failed hmade⟩
  · have hfinish := (pending_createTemporary hdrafts hempty).finish hempty target text
    -- making directories leaves what goes wrong as it is
    unfold stopsOpen hasTrouble at hfinish
    rw [htroubles] at hfinish
    rw [hrun]
    dsimp only at hfinish
    split at hfinish
    · next hleaves =>
      obtain ⟨hopen, hclose⟩ := Bool.and_eq_true_iff.1 hleaves
      obtain ⟨herror, hpending⟩ := hfinish
      exact .inr ⟨⟨hpossible, hok, hcreated, hopen, hclose⟩, herror,
        hpending.litters hparent hmade⟩
    · next hleaves =>
      refine .inl ⟨fun h => hleaves ?_, hfinish.of_keeps hmade⟩
      exact Bool.and_eq_true_iff.2 ⟨h.stopsOpen, h.closeAgain⟩

theorem Litters.not_replacesAlone {ε : Type} {text : String} {w' : World} {f : ε}
    (h : Litters target w w') : ¬ ReplacesAlone target text w w' (.error f) := by
  obtain ⟨directory, n, -, hnone, ⟨content, hcontent⟩, -⟩ := h
  intro halone
  rw [halone.content?_of_error, hnone] at hcontent
  cases hcontent

end World

/-- **A file is replaced in one go and nothing is left of it, unless closing goes wrong after
another step went wrong.** The call succeeds if and only if no step goes wrong. Whatever goes wrong,
either the file has exactly the new text and every other place has what it had, or the call fails
and every place has what it had. The one exception is that a step goes wrong while the temporary
file is open, and closing that file goes wrong as well: then the call fails and the temporary file
is left, but every other place has what it had. -/
theorem Action.replacesAlone_iff_not_leavesDraft (target : Path) (text : String) (w : World) :
    let r := (Action.replaceFile target text).run w
    (r.1 = .ok () ↔ World.Replaceable target w) ∧
      (World.ReplacesAlone target text w r.2 r.1 ↔ ¬ World.LeavesDraft target w) ∧
      (World.LeavesDraft target w → (∃ f, r.1 = .error f) ∧ World.Litters target w r.2) := by
  unfold Action.replaceFile
  split
  · next hpossible =>
    have hok := World.replaceAt_eq_ok_iff hpossible text w
    rw [Action.run_bind]
    dsimp only
    rcases World.replaceAt_alone_or_litters hpossible text w with ⟨hclean, halone⟩ |
      ⟨hleaves, ⟨reason, hreason⟩, hlitters⟩
    · refine ⟨?_, iff_of_true (halone.mapError Action.NotReplaced.refused) hclean,
        fun h => absurd h hclean⟩
      rw [← hok]
      cases ((Action.replaceAt target text).run w).1 with
      | ok u => exact iff_of_true rfl rfl
      | error reason => exact iff_of_false nofun nofun
    · rw [hreason] at hok ⊢
      have hfails : ¬ World.Replaceable target w := by
        intro h
        cases hok.2 h
      exact ⟨iff_of_false nofun hfails,
        iff_of_false hlitters.not_replacesAlone fun h => h hleaves,
        fun _ => ⟨⟨_, rfl⟩, hlitters⟩⟩
  · next himpossible =>
    have hclean : ¬ World.LeavesDraft target w := fun h => himpossible h.possible
    exact ⟨iff_of_false nofun fun h => himpossible h.possible,
      iff_of_true (.failed fun kept => World.Keeps.refl kept w) hclean,
      fun h => absurd h hclean⟩

/-! ### A full disk -/

/-- A disk with settings that takes nothing more. -/
def fullDisk : World :=
  { disk := { entries := [(["settings.json"], .file "\x7b\x7d".toUTF8)] }
    troubles := [.flush, .closeAgain] }

/-- The path of the settings. -/
def settingsPath : Path := { root := "/", names := ["settings.json"] }

/-- On a full disk the settings are not replaced, and an empty temporary file is left beside
them. -/
theorem fullDisk_littered :
    let r := (Action.replaceFile settingsPath "[]\n").run fullDisk
    (∃ f, r.1 = .error f) ∧
      fullDisk.disk.content? [".settings.json.00000000.tmp"] = none ∧
      r.2.disk.content? [".settings.json.00000000.tmp"] = some ByteArray.empty ∧
      ¬ World.ReplacesAlone settingsPath "[]\n" fullDisk r.2 r.1 := by
  intro r
  have herror : ∃ f, r.1 = .error f := ⟨_, rfl⟩
  have hbefore : fullDisk.disk.content? [".settings.json.00000000.tmp"] = none := rfl
  have hafter : r.2.disk.content? [".settings.json.00000000.tmp"] = some ByteArray.empty := rfl
  refine ⟨herror, hbefore, hafter, fun halone => ?_⟩
  obtain ⟨f, hf⟩ := herror
  rw [hf] at halone
  rw [halone.content?_of_error, hbefore] at hafter
  cases hafter

end ApiTools
