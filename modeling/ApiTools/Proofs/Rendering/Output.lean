import ApiTools.Proofs.Action
import ApiTools.Rendering.Output
import ApiTools.Rendering.Template
import Mathlib.Data.List.Basic

set_option autoImplicit false

/-!
# What is left when a server cannot be written

The files of a server are written one after the other, each in one go. So if something fails, the
files before are the new ones, and all others are as they were: the server is not written as a
whole or not at all, but each of its files is. How many of them are new depends on what failed.
-/

namespace ApiTools.Rendering

/-! ## The texts of the files -/

/-- The names of the files of a server, in the order in which they are written. -/
def fileNames : List String := manifestFile :: products.map (·.file)

theorem manifestFile_mem : manifestFile ∈ fileNames := List.mem_cons_self

/-- A path with the name of a file behind it. -/
theorem join_ofText (output : Path) {name : String} (h : name ∈ fileNames) :
    output.join (Path.ofText name) = { output with names := output.names ++ [name] } := by
  have hnames : ∀ name ∈ fileNames, Path.ofText name = { names := [name] } := by decide
  rw [hnames name h]
  rfl

/-- Where the templates of the user are. -/
def templatesIn (w : World) : Option String → Except Failure (Option Path)
  | none => .ok none
  | some d =>
    match w.look (Path.ofText d) with
    | .ok .directory => .ok (some (Path.ofText d))
    | .ok _ => .error (.noTemplateDirectory (Path.ofText d).text)
    | .error reason => .error (.unseen (Path.ofText d).text reason)

theorem run_findTemplates (w : World) (directory : Option String) :
    (findTemplates directory).run w = (templatesIn w directory, w) := by
  unfold findTemplates templatesIn
  cases directory with
  | none => rfl
  | some d =>
      dsimp only
      rw [Action.run_seq, Action.run_sight]
      cases w.look (Path.ofText d) with
      | error reason => rfl
      | ok sight => cases sight <;> rfl

variable (engine : Engine)

/-- The text of a product in a world. -/
def productIn (w : World) (c : Context) (directory : Option Path) (output : Path) (p : Product) :
    Except Failure String :=
  match directory.bind fun d => w.fileAt? (d.join (Path.ofText p.template)) with
  | some content => ofTemplate engine c output p.template content
  | none => .ok (p.standard c)

theorem run_productText (w : World) (c : Context) (directory : Option Path) (output : Path)
    (p : Product) :
    (productText engine c directory output p).run w
      = (productIn engine w c directory output p, w) := by
  unfold productText productIn
  cases directory with
  | none => rfl
  | some d =>
      dsimp only [Option.bind_some]
      rw [Action.run_seq, Action.run_sight]
      rcases w.look_read (d.join (Path.ofText p.template)) with
        ⟨content, hfile, hlook, hread⟩ | ⟨hnone, hlook⟩
      · rw [hfile, hlook]
        dsimp only
        rw [Action.run_seq, Action.run_content, hread]
        rfl
      · rw [hnone]
        cases hresult : w.look (d.join (Path.ofText p.template)) with
        | error reason => rfl
        | ok sight =>
            cases sight with
            | nothing => rfl
            | directory => rfl
            | file => exact absurd hresult hlook

/-- The text of the manifest, unless it cannot be written down. -/
def manifestText (c : Context) : Except Failure String :=
  match c.toDict with
  | .error flaw => .error (.flawedManifest flaw)
  | .ok v => .ok (fileText v)

/-- The files of a server with their texts, in order, as far as there are any. Without the templates
that were asked for no file can be written. -/
def planned (w : World) (c : Context) (templateDirectory : Option String) (output : Path) :
    List (String × Except Failure String) :=
  match templatesIn w templateDirectory with
  | .error f => [(manifestFile, .error f)]
  | .ok directory =>
    (manifestFile, manifestText c) ::
      products.map fun p => (p.file, productIn engine w c directory output p)

/-! ## Files that are written -/

/-- Whether a place is one for a temporary file of a server. -/
def IsTemporary (place : Place) : Prop := ∃ name ∈ fileNames, World.IsTemporary name place

/-- Between two worlds some files of a server were written into a directory: each of them has
exactly its text, and no other file changed, temporary ones aside. -/
structure Writes (output : Path) (files : List (String × String)) (w w' : World) : Prop where
  content? : ∀ f ∈ files, ∃ directory, w'.locate? output = some directory ∧
    w'.disk.content? (directory ++ [f.1]) = some f.2.toUTF8
  keeps : World.Keeps (fun p => ¬ IsTemporary p ∧ ∀ directory, w'.locate? output = some directory →
    ∀ f ∈ files, p ≠ directory ++ [f.1]) w w'

theorem not_isTemporary {directory : Place} {name : String}
    (h : name.toList.head? ≠ some '.') : ¬ IsTemporary (directory ++ [name]) := by
  rintro ⟨file, -, around, n, hplace⟩
  have hname : name = World.temporaryName file n :=
    List.singleton_inj.1 (List.append_inj_right' hplace rfl)
  apply h
  rw [hname]
  unfold World.temporaryName
  simp only [String.toList_append]
  rfl

theorem head?_of_mem_fileNames {name : String} (h : name ∈ fileNames) :
    name.toList.head? ≠ some '.' := by
  have hall : ∀ name ∈ fileNames, name.toList.head? ≠ some '.' := by decide
  exact hall name h

variable {output : Path} {files : List (String × String)} {w w' w'' : World}

theorem Writes.of_keeps (output : Path) {name : String} (hname : name ∈ fileNames)
    (h : World.Keeps (¬ World.IsTemporary name ·) w w') : Writes output [] w w' :=
  ⟨nofun, h.mono fun p (hp : ¬ IsTemporary p ∧ _) htemporary => hp.1 ⟨name, hname, htemporary⟩⟩

/-- One file after the other. -/
theorem Writes.cons {name text : String} (hname : name ∈ fileNames)
    (hnew : name ∉ files.map (·.1)) (h : Writes output [(name, text)] w w')
    (h' : Writes output files w' w'') : Writes output ((name, text) :: files) w w'' := by
  refine ⟨fun f hf => ?_, ?_⟩
  · rcases List.mem_cons.1 hf with rfl | hf
    · obtain ⟨directory, houtput, hcontent⟩ := h.content? _ (List.mem_singleton_self _)
      have houtput' := h'.keeps.locate? houtput
      refine ⟨directory, houtput', ?_⟩
      rw [h'.keeps.content?, hcontent]
      refine ⟨not_isTemporary (head?_of_mem_fileNames hname), fun around haround g hg heq => ?_⟩
      obtain rfl := Option.some.inj (houtput'.symm.trans haround)
      have hsame : name = g.1 := List.singleton_inj.1 (List.append_cancel_left heq)
      exact hnew (List.mem_map.2 ⟨g, hg, hsame.symm⟩)
    · exact h'.content? f hf
  · refine (h.keeps.mono ?_).trans (h'.keeps.mono ?_)
    · exact fun p hp => ⟨hp.1, fun directory hdirectory f hf =>
        hp.2 directory (h'.keeps.locate? hdirectory) f (List.mem_cons.2 (.inl (List.mem_singleton.1 hf)))⟩
    · exact fun p hp => ⟨hp.1, fun directory hdirectory f hf =>
        hp.2 directory hdirectory f (List.mem_cons_of_mem _ hf)⟩

/-- The disk refuses a directory or its path. -/
def IsRefusal (output : Path) (f : Failure) : Prop :=
  (∃ reason, f = .unwritable output.text reason) ∨ f = .impossiblePath output.text

/-- A file is written, or nothing is since the disk refuses. -/
theorem writes_writeFile (output : Path) {name : String} (hname : name ∈ fileNames) (text : String)
    (w : World) :
    (((writeFile output (output.join (Path.ofText name)) text).run w).1 = .ok () ∧
      Writes output [(name, text)] w
        ((writeFile output (output.join (Path.ofText name)) text).run w).2) ∨
    (∃ f, ((writeFile output (output.join (Path.ofText name)) text).run w).1 = .error f ∧
      IsRefusal output f ∧
      Writes output [] w ((writeFile output (output.join (Path.ofText name)) text).run w).2) := by
  have hjoin := join_ofText output hname
  have hparent : (output.join (Path.ofText name)).parent = output := by
    rw [hjoin]
    unfold Path.parent
    rw [List.dropLast_concat]
  have hlast : (output.join (Path.ofText name)).name = name := by
    rw [hjoin]
    unfold Path.name
    rw [List.getLast?_concat, Option.getD_some]
  have hup : name ≠ ".." := by
    rintro rfl
    exact absurd hname (by decide)
  have hreplaces := Action.replaces_replaceFile (output.join (Path.ofText name)) text w
  unfold writeFile
  rw [Action.run_seq]
  generalize hrun : (Action.replaceFile (output.join (Path.ofText name)) text).run w = result
    at hreplaces ⊢
  obtain ⟨r, w'⟩ := result
  cases hreplaces with
  | @done directory goal houtput hgoal hcontent hkeeps =>
      rw [hparent] at houtput
      rw [hlast] at hkeeps
      have hnames : (output.join (Path.ofText name)).names
          = (output.join (Path.ofText name)).parent.names ++ [name] := by
        rw [hparent, hjoin]
      obtain ⟨-, rfl⟩ := Disk.locate?_of_parent hnames hup (by rw [hparent]; exact houtput) hgoal
      refine .inl ⟨rfl, fun f hf => ?_, hkeeps.mono fun p hp => ⟨fun htemporary => ?_, ?_⟩⟩
      · obtain rfl := List.mem_singleton.1 hf
        exact ⟨directory, houtput, hcontent⟩
      · exact hp.1 ⟨name, hname, htemporary⟩
      · exact hp.2 directory houtput _ (List.mem_singleton_self _)
  | @failed f hkeeps =>
      rw [hlast] at hkeeps
      refine .inr ?_
      cases f with
      | refused reason =>
          exact ⟨_, rfl, .inl ⟨reason, rfl⟩, Writes.of_keeps output hname hkeeps⟩
      | impossiblePath => exact ⟨_, rfl, .inr rfl, Writes.of_keeps output hname hkeeps⟩

/-! ## Texts do not depend on what was written before -/

/-- The templates of the user are in a directory. -/
def HasTemplates (w : World) (directory : Option Path) : Prop :=
  ∀ d, directory = some d → ∃ place, w.locate? d = some place ∧ w.disk.isDirectory place = true

theorem hasTemplates_of_templatesIn {templateDirectory : Option String} {directory : Option Path}
    (h : templatesIn w templateDirectory = .ok directory) : HasTemplates w directory := by
  intro d hd
  unfold templatesIn at h
  cases templateDirectory with
  | none =>
      obtain rfl := Except.ok.inj h
      cases hd
  | some t =>
      dsimp only at h
      split at h
      · next hlook =>
        obtain rfl := Except.ok.inj h
        obtain rfl := Option.some.inj hd
        exact World.exists_of_look_eq_directory hlook
      · cases h
      · cases h

theorem HasTemplates.of_keeps {kept : Place → Prop} {directory : Option Path}
    (h : HasTemplates w directory) (hkeeps : World.Keeps kept w w') : HasTemplates w' directory := by
  intro d hd
  obtain ⟨place, hplace, hdirectory⟩ := h d hd
  exact ⟨place, hkeeps.locate? hplace, hkeeps.isDirectory place hdirectory⟩

/-- A template is none of the files that are written, so it stays as it is. -/
theorem productIn_of_writes {directory : Option Path} (h : HasTemplates w directory)
    (hfiles : ∀ f ∈ files, f.1 ∈ fileNames) (hwrites : Writes output files w w') (c : Context)
    {p : Product} (hp : p ∈ products) :
    productIn engine w' c directory output p = productIn engine w c directory output p := by
  -- neither a file of a server nor a temporary one has the name of a template
  have htemplates : ∀ p ∈ products, Path.ofText p.template = { names := [p.template] } ∧
      p.template ≠ ".." ∧ p.template ∉ fileNames ∧ p.template.toList.head? ≠ some '.' := by
    rintro p hp
    simp only [products, List.mem_cons, List.not_mem_nil, or_false] at hp
    rcases hp with rfl | rfl
    · exact ⟨by decide, by decide, by decide, by decide⟩
    · exact ⟨by decide, by decide, by decide, by decide⟩
  obtain ⟨hpath, hup, hother, hhead⟩ := htemplates p hp
  have hsame : ∀ d, directory = some d →
      w'.fileAt? (d.join (Path.ofText p.template)) = w.fileAt? (d.join (Path.ofText p.template)) := by
    intro d hd
    obtain ⟨place, hplace, hdirectory⟩ := h d hd
    have hjoin : d.join (Path.ofText p.template) = { d with names := d.names ++ [p.template] } := by
      rw [hpath]
      rfl
    have hparent : (d.join (Path.ofText p.template)).parent = d := by
      rw [hjoin]
      unfold Path.parent
      rw [List.dropLast_concat]
    have hnames : (d.join (Path.ofText p.template)).names
        = (d.join (Path.ofText p.template)).parent.names ++ [p.template] := by
      rw [hparent, hjoin]
    unfold World.fileAt? World.locate?
    rw [Disk.locate?_child hnames hup (by rw [hparent]; exact hplace) hdirectory,
      Disk.locate?_child hnames hup (by rw [hparent]; exact hwrites.keeps.locate? hplace)
        (hwrites.keeps.isDirectory place hdirectory)]
    split
    · rfl
    · rw [Option.bind_some, Option.bind_some]
      refine hwrites.keeps.content? _ ⟨not_isTemporary hhead, fun around _ f hf heq => ?_⟩
      have hname : p.template = f.1 :=
        List.singleton_inj.1 (List.append_inj_right' heq rfl)
      exact hother (hname ▸ hfiles f hf)
  unfold productIn
  cases directory with
  | none => rfl
  | some d => rw [Option.bind_some, Option.bind_some, hsame d rfl]

/-! ## Runs -/

/-- How writing planned files ends, of which some were written: all of them were, or the next one
has no text, or the disk refused. -/
inductive Stops {α : Type} (output : Path) (planned : List (String × Except Failure String))
    (files : List (String × String)) : Except Failure α → Prop
  | done {a : α} (h : files.length = planned.length) : Stops output planned files (.ok a)
  | textless {name : String} {f : Failure} (h : planned[files.length]? = some (name, .error f)) :
      Stops output planned files (.error f)
  | refused {f : Failure} (h : files.length < planned.length) (hf : IsRefusal output f) :
      Stops output planned files (.error f)

/-- The files with their texts, as they were planned. -/
def asPlanned (files : List (String × String)) : List (String × Except Failure String) :=
  files.map fun f => (f.1, .ok f.2)

/-- Some of the planned files are written, up to the end or up to a failure. -/
def WritesSome {α : Type} (output : Path) (planned : List (String × Except Failure String))
    (w : World) (result : Except Failure α × World) : Prop :=
  ∃ files, asPlanned files <+: planned ∧ Writes output files w result.2 ∧
    Stops output planned files result.1

/-- The first file is written, and then some of the others. -/
theorem WritesSome.cons {α β : Type} {name text : String}
    {planned : List (String × Except Failure String)} {result : Except Failure α × World}
    (hname : name ∈ fileNames) (hnew : name ∉ planned.map (·.1)) (h : Writes output [(name, text)] w w')
    (h' : WritesSome output planned w' result) (g : α → β) :
    WritesSome output ((name, .ok text) :: planned) w (result.1.map g, result.2) := by
  obtain ⟨files, hbegin, hwrites, hstops⟩ := h'
  have hnames : name ∉ files.map (·.1) := by
    intro hmem
    refine hnew ((hbegin.map (·.1)).subset ?_)
    unfold asPlanned
    rwa [List.map_map]
  refine ⟨(name, text) :: files, List.cons_prefix_cons.2 ⟨rfl, hbegin⟩,
    h.cons hname hnames hwrites, ?_⟩
  obtain ⟨r, after⟩ := result
  cases hstops with
  | done hlength => exact .done (by rw [List.length_cons, hlength, List.length_cons])
  | textless hfile => exact .textless (by rwa [List.length_cons, List.getElem?_cons_succ])
  | refused hlength hf => exact .refused (by simpa using hlength) hf

/-- Nothing is written if the first file has no text. -/
theorem WritesSome.of_textless {α : Type} (output : Path) {name : String} (hname : name ∈ fileNames)
    (f : Failure) (planned : List (String × Except Failure String)) (w : World) :
    WritesSome output ((name, .error f) :: planned) w ((.error f : Except Failure α), w) :=
  ⟨[], List.nil_prefix, Writes.of_keeps output hname (World.Keeps.refl _ w), .textless rfl⟩

/-- A file is written, and then some of the products behind it. -/
theorem writesSome_writeFile {c : Context} {output : Path} {directory : Option Path}
    {ps : List Product} {name : String} (hname : name ∈ fileNames) (text : String)
    (hps : ∀ p ∈ ps, p ∈ products) (hnew : name ∉ ps.map (·.file)) (h : HasTemplates w directory)
    (hrest : ∀ w', HasTemplates w' directory →
      WritesSome output (ps.map fun p => (p.file, productIn engine w' c directory output p)) w'
        ((writeProducts engine c directory output ps).run w')) (g : List Path → List Path) :
    WritesSome output
      ((name, .ok text) :: ps.map fun p => (p.file, productIn engine w c directory output p)) w
      ((writeFile output (output.join (Path.ofText name)) text >>= fun
        | .error f => return .error f
        | .ok _ => return (← writeProducts engine c directory output ps).map g).run w) := by
  rw [Action.run_seq]
  have hfile := writes_writeFile output hname text w
  generalize (writeFile output (output.join (Path.ofText name)) text).run w = written at hfile ⊢
  obtain ⟨r, w'⟩ := written
  rcases hfile with ⟨rfl, hwrites⟩ | ⟨f, rfl, hrefusal, hwrites⟩
  · -- the texts of the others are those that they had before
    have hothers : (ps.map fun p => (p.file, productIn engine w' c directory output p))
        = ps.map fun p => (p.file, productIn engine w c directory output p) := by
      refine List.map_congr_left fun p hp => ?_
      rw [productIn_of_writes engine h (by simpa using hname) hwrites c (hps p hp)]
    have hrest := hrest w' (h.of_keeps hwrites.keeps)
    rw [hothers] at hrest
    dsimp only
    rw [Action.run_seq]
    refine hrest.cons hname ?_ hwrites g
    rwa [List.map_map]
  · exact ⟨[], List.nil_prefix, hwrites, .refused (by simp) hrefusal⟩

theorem writesSome_writeProducts (c : Context) (output : Path) {directory : Option Path}
    {ps : List Product}
    (hps : ∀ p ∈ ps, p ∈ products) (hnodup : (ps.map (·.file)).Nodup)
    (h : HasTemplates w directory) :
    WritesSome output (ps.map fun p => (p.file, productIn engine w c directory output p)) w
      ((writeProducts engine c directory output ps).run w) := by
  induction ps generalizing w with
  | nil =>
      exact ⟨[], List.nil_prefix, Writes.of_keeps output manifestFile_mem (World.Keeps.refl _ w),
        .done rfl⟩
  | cons p ps ih =>
      have hp := hps p List.mem_cons_self
      have hname : p.file ∈ fileNames := List.mem_cons_of_mem _ (List.mem_map_of_mem hp)
      have hps : ∀ q ∈ ps, q ∈ products := fun q hq => hps q (List.mem_cons_of_mem _ hq)
      rw [List.map_cons, List.nodup_cons] at hnodup
      unfold writeProducts
      rw [Action.run_seq, run_productText, List.map_cons]
      cases productIn engine w c directory output p with
      | error f => exact .of_textless output hname f _ w
      | ok text =>
          exact writesSome_writeFile engine hname text hps hnodup.1 h
            (fun w' h' => ih hps hnodup.2 h') _

theorem writesSome_writeAll (c : Context) (output : Path) {directory : Option Path}
    (h : HasTemplates w directory) :
    WritesSome output
      ((manifestFile, manifestText c) ::
        products.map fun p => (p.file, productIn engine w c directory output p)) w
      ((writeAll engine c directory output).run w) := by
  unfold writeAll manifestText
  cases c.toDict with
  | error flaw => exact .of_textless output manifestFile_mem _ _ w
  | ok v =>
      exact writesSome_writeFile engine manifestFile_mem (fileText v) (fun p hp => hp)
        (by decide) h
        (fun w' h' => writesSome_writeProducts engine c output (fun p hp => hp) (by decide) h') _

theorem writesSome_write (p : Package) (output : String)
    (serverName templateDirectory : Option String) (w : World) :
    WritesSome (Path.ofText output)
      (planned engine w (Context.ofPackage p serverName) templateDirectory (Path.ofText output)) w
      (((write engine p output serverName templateDirectory).run w).1.1,
        ((write engine p output serverName templateDirectory).run w).2) := by
  unfold write planned
  dsimp only
  rw [Action.run_seq, run_findTemplates]
  cases htemplates : templatesIn w templateDirectory with
  | error f => exact .of_textless _ manifestFile_mem f _ w
  | ok directory =>
      dsimp only
      rw [Action.run_seq]
      have hall := writesSome_writeAll engine (Context.ofPackage p serverName) (Path.ofText output)
        (hasTemplates_of_templatesIn htemplates)
      generalize
        (writeAll engine (Context.ofPackage p serverName) directory (Path.ofText output)).run w
        = written at hall ⊢
      obtain ⟨r, w'⟩ := written
      cases r with
      | error f => exact hall
      | ok paths => exact hall

/-- **A server is written file by file.** Whatever the engine makes of templates, each of the files
that come first has exactly the text that was planned for it, and each of the others is as it was
before, or is still not there. If all goes well all of them are new. Otherwise the text of the next
file is what failed, and it failed for the reason that is given, or the disk refused: with a
template of which the engine makes no text all files before its own are new, and without the
templates that were asked for, or with a manifest that cannot be written down, none is. -/
theorem write_stops_between_files (p : Package) (output : String)
    (serverName templateDirectory : Option String) (w : World) :
    ∃ r notes after files,
      (write engine p output serverName templateDirectory).run w = ((r, notes), after) ∧
      asPlanned files <+: planned engine w (Context.ofPackage p serverName) templateDirectory
        (Path.ofText output) ∧
      Stops (Path.ofText output) (planned engine w (Context.ofPackage p serverName)
        templateDirectory (Path.ofText output)) files r ∧
      Writes (Path.ofText output) files w after ∧
      ∀ directory, after.locate? (Path.ofText output) = some directory → ∀ name ∈ fileNames,
        after.disk.content? (directory ++ [name])
          = match Named.get? files name with
            | some text => some text.toUTF8
            | none => w.disk.content? (directory ++ [name]) := by
  obtain ⟨files, hbegin, hwrites, hstops⟩ :=
    writesSome_write engine p output serverName templateDirectory w
  refine ⟨_, _, _, files, rfl, hbegin, hstops, hwrites, fun directory hdirectory name hname => ?_⟩
  cases hfile : Named.get? files name with
  | some text =>
      obtain ⟨f, hf, rfl⟩ := Option.map_eq_some_iff.1 hfile
      have hfname : f.1 = name := by
        have hfound := List.find?_some hf
        simpa using hfound
      obtain ⟨around, haround, hcontent⟩ := hwrites.content? f (List.mem_of_find?_eq_some hf)
      obtain rfl := Option.some.inj (hdirectory.symm.trans haround)
      rw [← hfname]
      exact hcontent
  | none =>
      refine hwrites.keeps.content? _ ⟨not_isTemporary (head?_of_mem_fileNames hname),
        fun around haround f hf heq => ?_⟩
      have hfname : name = f.1 := List.singleton_inj.1 (List.append_inj_right' heq rfl)
      have hnone : ¬ (f.1 == name) = true :=
        List.find?_eq_none.1 (Option.map_eq_none_iff.1 hfile) f hf
      exact hnone (beq_iff_eq.2 hfname.symm)

/-! ### A template that asks for too much -/

/-- A package without tools. -/
def emptyPackage : Package := ⟨{ title := "Pets", version := "1" }, "", []⟩

/-- A disk with a server that was written before, and with a template for the program that asks for
something that nobody knows. -/
def writtenBefore : World :=
  { disk :=
      { entries :=
          [(["out"], .directory),
           (["out", "tools.json"], .file (String.toUTF8 "old tools")),
           (["out", "server.py"], .file (String.toUTF8 "old server")),
           (["out", "README.md"], .file (String.toUTF8 "old text")),
           (["templates"], .directory),
           (["templates", "server.py.j2"], .file (String.toUTF8 "\x7b\x7b nope \x7d\x7d"))] } }

/-- Writing the server anew. -/
def writeAgain : Except Failure (List Path) × World :=
  let result := (write Template.engine emptyPackage "out" none (some "templates")).run writtenBefore
  (result.1.1, result.2)

/-- The manifest is a new one, although the program cannot be rendered and stays the old one. -/
theorem writeAgain_mixes :
    writeAgain.1 = .error (.template "server.py.j2" "'nope' is undefined") ∧
      writeAgain.2.disk.content? ["out", "tools.json"]
        ≠ writtenBefore.disk.content? ["out", "tools.json"] ∧
      writeAgain.2.disk.content? ["out", "server.py"]
        = writtenBefore.disk.content? ["out", "server.py"] := by
  decide +kernel

end ApiTools.Rendering
