import ApiTools.Proofs.Text.Runs
import ApiTools.Proofs.Tool.Credential
import ApiTools.Rendering.Server

set_option autoImplicit false

/-!
# Where the opening comment of a server ends

The program of a server opens with a long text between three quotes and three quotes, in which the
name of the server and the title and version of the interface stand as they are. The reader of the
program ends that text at the first three quotes that no backslash takes away. These are the ones
that were put there for it if and only if none of the texts in between holds three such quotes of
its own; otherwise what follows in that text is read as program.
-/

namespace ApiTools.Rendering.Server

/-! ## Long texts -/

/-- Three quotes, which open and close a long text. -/
def quotes : List Char := ['"', '"', '"']

/-- What a long text holds once it was opened, up to the quotes that close it, and what comes
behind them. A backslash belongs to the character after it, which then closes nothing. -/
def longText? : List Char → Option (List Char × List Char)
  | '"' :: '"' :: '"' :: rest => some ([], rest)
  | '\\' :: c :: rest => (longText? rest).map fun r => ('\\' :: c :: r.1, r.2)
  | c :: rest => (longText? rest).map fun r => (c :: r.1, r.2)
  | [] => none

/-- A text in which a long text does not end. -/
def Contained (s : String) : Prop := longText? s.toList = none

/-- A character that neither closes a long text nor keeps another one from closing it. -/
def IsInert (c : Char) : Prop := c ≠ '"' ∧ c ≠ '\\'

instance (c : Char) : Decidable (IsInert c) := inferInstanceAs (Decidable (_ ∧ _))

theorem longText?_inert {c : Char} (h : IsInert c) (rest : List Char) :
    longText? (c :: rest) = (longText? rest).map fun r => (c :: r.1, r.2) := by
  apply longText?.eq_3
  · intro _ hc
    exact absurd hc h.1
  · intro _ _ hc
    exact absurd hc h.2

/-- What was read is the text itself. -/
theorem eq_of_longText? {a inner rest : List Char} (h : longText? a = some (inner, rest)) :
    a = inner ++ quotes ++ rest := by
  fun_induction longText? a generalizing inner rest with
  | case1 r =>
      injection h with h
      injection h with hi hr
      rw [← hi, ← hr]
      rfl
  | case2 c r ih =>
      obtain ⟨⟨i, t⟩, hr, he⟩ := Option.map_eq_some_iff.1 h
      injection he with hi ht
      rw [ih hr, ← hi, ← ht]
      rfl
  | case3 c r _ _ ih =>
      obtain ⟨⟨i, t⟩, hr, he⟩ := Option.map_eq_some_iff.1 h
      injection he with hi ht
      rw [ih hr, ← hi, ← ht]
      rfl
  | case4 => cases h

/-- A long text that ends does not depend on what comes later. -/
theorem longText?_append_of_some {a inner rest : List Char}
    (h : longText? a = some (inner, rest)) (b : List Char) :
    longText? (a ++ b) = some (inner, rest ++ b) := by
  fun_induction longText? a generalizing inner rest with
  | case1 r =>
      injection h with h
      injection h with hi hr
      rw [← hi, ← hr]
      rfl
  | case2 c r ih =>
      obtain ⟨⟨i, t⟩, hr, he⟩ := Option.map_eq_some_iff.1 h
      injection he with hi ht
      show (longText? (r ++ b)).map _ = _
      rw [ih hr, ← hi, ← ht]
      rfl
  | case3 c r hq hb ih =>
      obtain ⟨⟨i, t⟩, hr, he⟩ := Option.map_eq_some_iff.1 h
      injection he with hi ht
      -- the rest holds three quotes, so it is too long for `c` to begin something with `b`
      have hlen : 3 ≤ r.length := by
        rw [eq_of_longText? hr]
        simp [quotes]
        omega
      rw [List.cons_append, longText?.eq_3, ih hr, ← hi, ← ht]
      · rfl
      · intro r' hc hr'
        match r, hlen with
        | d :: e :: f :: r, _ =>
            injection hr' with hd hr'
            injection hr' with he' hr'
            exact hq (f :: r) hc (by rw [hd, he'])
      · intro d r' hc hr'
        match r, hlen with
        | d :: r, _ => exact hb d r hc rfl
  | case4 => cases h

/-- A long text that does not end in `a` goes on behind the next inert character as if it had been
opened there. -/
theorem longText?_append_of_none {a : List Char} (h : longText? a = none) {c : Char}
    (hc : IsInert c) (b : List Char) :
    longText? (a ++ c :: b) = (longText? b).map fun r => (a ++ c :: r.1, r.2) := by
  fun_induction longText? a with
  | case1 r => cases h
  | case2 d r ih =>
      show (longText? (r ++ c :: b)).map _ = _
      rw [ih (Option.map_eq_none_iff.1 h), Option.map_map]
      rfl
  | case3 d r hq hb ih =>
      have ih := ih (Option.map_eq_none_iff.1 h)
      by_cases hd : d = '\\'
      · -- a backslash at the end belongs to the inert character
        cases r with
        | nil =>
            subst hd
            rfl
        | cons e r => exact absurd rfl (hb e r hd)
      · rw [List.cons_append, longText?.eq_3, ih, Option.map_map]
        · rfl
        · intro r' hdq hr'
          match r with
          | [] =>
              injection hr' with hcq
              exact hc.1 hcq
          | [e] =>
              injection hr' with _ hr'
              injection hr' with hcq
              exact hc.1 hcq
          | e :: f :: r =>
              injection hr' with he hr'
              injection hr' with hf hr'
              exact hq r hdq (by rw [he, hf])
        · intro _ _ hdb
          exact absurd hdb hd
  | case4 => exact longText?_inert hc b

/-! ## Long texts with quotes behind them -/

/-- A long text with the given body ends inside the body or behind it, the latter if and only if
the condition holds. -/
def EndsBehindIff (body after : List Char) (condition : Prop) : Prop :=
  ∃ inner rest, longText? (body ++ quotes ++ after) = some (inner, rest) ∧ inner <+: body ∧
    (inner = body ↔ condition)

theorem endsBehindIff_nil (after : List Char) : EndsBehindIff [] after True :=
  ⟨[], after, rfl, List.prefix_rfl, by simp⟩

theorem EndsBehindIff.inert_cons {body after : List Char} {condition : Prop} {c : Char}
    (hc : IsInert c) (h : EndsBehindIff body after condition) :
    EndsBehindIff (c :: body) after condition := by
  obtain ⟨inner, rest, hl, hp, hi⟩ := h
  refine ⟨c :: inner, rest, ?_, ?_, ?_⟩
  · rw [List.cons_append, List.cons_append, longText?_inert hc, hl]
    rfl
  · exact List.cons_prefix_cons.2 ⟨rfl, hp⟩
  · rw [List.cons_inj_right]
    exact hi

/-- Inert characters in front change nothing. -/
theorem EndsBehindIff.inert_append {body after fixed : List Char} {condition : Prop}
    (hf : ∀ c ∈ fixed, IsInert c) (h : EndsBehindIff body after condition) :
    EndsBehindIff (fixed ++ body) after condition := by
  induction fixed with
  | nil => exact h
  | cons c fixed ih =>
      rw [List.forall_mem_cons] at hf
      exact (ih hf.2).inert_cons hf.1

/-- A text in front, with an inert character behind it, has to be contained as well. -/
theorem EndsBehindIff.text {body after : List Char} {condition : Prop} {c : Char} (s : String)
    (hc : IsInert c) (h : EndsBehindIff body after condition) :
    EndsBehindIff (s.toList ++ c :: body) after (Contained s ∧ condition) := by
  obtain ⟨inner, rest, hl, hp, hi⟩ := h
  unfold Contained EndsBehindIff
  cases hs : longText? s.toList with
  | none =>
      refine ⟨s.toList ++ c :: inner, rest, ?_, ?_, ?_⟩
      · have happ : s.toList ++ c :: body ++ quotes ++ after
            = s.toList ++ c :: (body ++ quotes ++ after) := by simp
        rw [happ, longText?_append_of_none hs hc, hl]
        rfl
      · exact (List.prefix_append_right_inj _).2 (List.cons_prefix_cons.2 ⟨rfl, hp⟩)
      · rw [List.append_cancel_left_eq, List.cons_inj_right]
        simpa using hi
  | some r =>
      -- the long text ends inside `s` already
      obtain ⟨early, behind⟩ := r
      have hse : s.toList = early ++ quotes ++ behind := eq_of_longText? hs
      refine ⟨early, behind ++ (c :: body ++ quotes ++ after), ?_, ?_, ?_⟩
      · have happ : s.toList ++ c :: body ++ quotes ++ after
            = s.toList ++ (c :: body ++ quotes ++ after) := by simp
        rw [happ]
        exact longText?_append_of_some hs _
      · rw [hse, List.append_assoc, List.append_assoc]
        exact List.prefix_append _ _
      · have hlt : early.length < (s.toList ++ c :: body).length := by
          rw [hse]
          simp [quotes]
        constructor
        · intro he
          rw [← he] at hlt
          exact absurd hlt (Nat.lt_irrefl _)
        · intro hn
          cases hn.1

/-! ## The opening comment -/

/-- Lines as one text, each with a line feed at its end. -/
def lineText (lines : List String) : List Char := lines.flatMap fun l => l.toList ++ ['\n']

theorem lineText_append (a b : List String) : lineText (a ++ b) = lineText a ++ lineText b :=
  List.flatMap_append

theorem toList_text (c : Context) : (text c).toList = lineText (lines c) := by
  unfold text lineText
  rw [String.toList_join, List.flatMap_map]
  simp only [String.toList_append]
  rfl

/-- The beginning of the opening comment, with the texts that come from outside. -/
def openingTitle (c : Context) : String :=
  c.serverName ++ " -- MCP server generated by specmcp " ++ c.generatorVersion
    ++ ".\n\nSource API: " ++ c.title ++ " " ++ c.version ++ "\n"

/-- The number of tools and what the server does, as the opening comment says it. -/
def summaryLines (c : Context) : List String :=
  ["Tools: " ++ toString c.tools.length,
   "",
   "Tool descriptors are read from tools.json next to this file. Every tool call",
   "is translated into one HTTP request against the API."]

/-- How the opening comment ends. -/
def closingLines (c : Context) : List String :=
  ["", "The base URL can be overridden with " ++ c.baseUrlVariable ++ "."]

/-- What the opening comment is meant to hold. -/
def openingText (c : Context) : List Char :=
  (openingTitle c).toList ++ lineText (summaryLines c)
    ++ lineText (credentialLines c.credentials) ++ lineText (closingLines c)

theorem lineText_openingLines (c : Context) :
    lineText (openingLines c) = quotes ++ openingText c ++ quotes ++ ['\n'] := by
  have hq : "\"\"\"".toList = quotes := rfl
  have hempty : "".toList = [] := rfl
  have hsource : ".\n\nSource API: ".toList
      = ".".toList ++ '\n' :: '\n' :: "Source API: ".toList := rfl
  have hfeed : "\n".toList = ['\n'] := rfl
  unfold openingLines openingText openingTitle summaryLines closingLines
  simp only [lineText, List.flatMap_cons, List.flatMap_nil, List.flatMap_append,
    String.toList_append, List.append_assoc, List.cons_append, List.nil_append, List.append_nil,
    hq, hempty, hsource, hfeed]

/-- The rest of the program, behind the line of the closing quotes. -/
def programLines (c : Context) : List String :=
  [""] ++ importLines ++ constantLines c
    ++ sections
      [settingsLines, publicSchemaLines, inputSchemaLines, assignmentLines,
       applyAuthLines, invocationLines, listingLines, callingLines, runningLines,
       startLines]

theorem toList_text_eq (c : Context) :
    (text c).toList = quotes ++ openingText c ++ quotes ++ '\n' :: lineText (programLines c) := by
  have hlines : lines c = openingLines c ++ programLines c := by
    unfold lines programLines
    simp only [List.append_assoc]
  rw [toList_text, hlines, lineText_append, lineText_openingLines]
  simp

/-! ## Inert parts -/

/-- A text of inert characters. -/
def IsInertText (s : String) : Prop := ∀ c ∈ s.toList, IsInert c

-- the characters of the text are looked at, not all characters there are
instance (s : String) : Decidable (IsInertText s) := List.decidableBAll IsInert s.toList

theorem IsInertText.append {s t : String} (hs : IsInertText s) (ht : IsInertText t) :
    IsInertText (s ++ t) := by
  intro c hc
  rw [String.toList_append, List.mem_append] at hc
  exact hc.elim (hs c) (ht c)

theorem inert_lineText {ls : List String} (h : ∀ l ∈ ls, IsInertText l) :
    ∀ c ∈ lineText ls, IsInert c := by
  intro c hc
  obtain ⟨l, hl, hc⟩ := List.mem_flatMap.1 hc
  rcases List.mem_append.1 hc with hc | hc
  · exact h l hl c hc
  · obtain rfl := List.mem_singleton.1 hc
    decide

theorem isInert_of_isDigit {c : Char} (h : c.isDigit = true) : IsInert c := by
  constructor
  · rintro rfl
    exact absurd h (by decide)
  · rintro rfl
    exact absurd h (by decide)

theorem isInertText_toString (n : Nat) : IsInertText (toString n) := by
  intro c hc
  have hc : c ∈ Nat.toDigits 10 n := by simpa [Nat.toString_eq_repr] using hc
  exact isInert_of_isDigit (Nat.isDigit_of_mem_toDigits (by decide) (by decide) hc)

/-- A character of a slug. -/
def IsSlugChar (c : Char) : Prop :=
  (Text.isAsciiDigit c || Text.isSmallLetter c || c == '-') = true

theorem isSlugChar_of_mem_slug {s : String} {c : Char} (h : c ∈ (Name.slug s).toList) :
    IsSlugChar c := by
  unfold Name.slug at h
  split at h
  · have hapi : "api".toList.all (fun c =>
        Text.isAsciiDigit c || Text.isSmallLetter c || c == '-') = true := by decide
    exact List.all_eq_true.1 hapi c h
  · rw [String.toList_ofList] at h
    unfold IsSlugChar
    rcases Text.mem_joinWith h with h | ⟨w, hw, h⟩
    · simp [List.mem_singleton.1 h]
    · rw [Text.keep_of_mem_runs hw h]
      rfl

theorem toNat_lt_of_isAsciiAlnum {c : Char} (h : Text.isAsciiAlnum c = true) : c.toNat < 128 := by
  unfold Text.isAsciiAlnum Text.isAsciiDigit Text.isSmallLetter Text.isCapitalLetter at h
  simp only [Bool.or_eq_true, Bool.and_eq_true, decide_eq_true_eq] at h
  rcases h with (⟨-, h⟩ | ⟨-, h⟩) | ⟨-, h⟩
  · exact Nat.lt_of_le_of_lt (show c.toNat ≤ '9'.toNat from h) (by decide)
  · exact Nat.lt_of_le_of_lt (show c.toNat ≤ 'z'.toNat from h) (by decide)
  · exact Nat.lt_of_le_of_lt (show c.toNat ≤ 'Z'.toNat from h) (by decide)

theorem toNat_lt_of_isSlugChar {c : Char} (h : IsSlugChar c) : c.toNat < 128 := by
  rcases (Bool.or_eq_true _ _).mp h with h | h
  · have halnum : Text.isAsciiAlnum c = true := by
      unfold Text.isAsciiAlnum
      rw [h]
      rfl
    exact toNat_lt_of_isAsciiAlnum halnum
  · obtain rfl : c = '-' := by simpa using h
    decide

theorem isInert_of_isAsciiAlnum {c : Char} (h : Text.isAsciiAlnum c = true) : IsInert c := by
  constructor
  · rintro rfl
    exact absurd h (by decide)
  · rintro rfl
    exact absurd h (by decide)

theorem isAsciiAlnum_of_mem_upperChar {c : Char} (h : IsSlugChar c) :
    ∀ d ∈ Text.upperChar c, Text.isAsciiAlnum d = true ∨ d = '-' := by
  -- the characters of slugs are few enough to be looked at one by one
  have hall : ∀ n ∈ List.range 128, (Text.isAsciiDigit (Char.ofNat n)
      || Text.isSmallLetter (Char.ofNat n) || Char.ofNat n == '-') = true →
      (Text.upperChar (Char.ofNat n)).all (fun d => Text.isAsciiAlnum d || d == '-') = true := by
    decide +kernel
  have hc := hall c.toNat (List.mem_range.2 (toNat_lt_of_isSlugChar h))
  rw [Char.ofNat_toNat] at hc
  exact fun d hd => by simpa using List.all_eq_true.1 (hc h) d hd

/-- The environment variable for the base address has letters, digits and underscores. -/
theorem isAsciiAlnum_of_mem_baseUrlVariableOf {s : String} {c : Char}
    (h : c ∈ (baseUrlVariableOf s).toList) : Text.isAsciiAlnum c = true ∨ c = '_' := by
  unfold baseUrlVariableOf at h
  rw [String.toList_append, String.toList_ofList] at h
  rcases List.mem_append.1 h with h | h
  · obtain ⟨d, hd, rfl⟩ := List.mem_map.1 h
    obtain ⟨b, hb, hd⟩ := List.mem_flatMap.1 hd
    split
    · exact .inr rfl
    · next hdash =>
      exact .inl ((isAsciiAlnum_of_mem_upperChar (isSlugChar_of_mem_slug hb) d hd).resolve_right
        hdash)
  · have hfixed : "_BASE_URL".toList.all (fun c => Text.isAsciiAlnum c || c == '_') = true := by
      decide
    simpa using List.all_eq_true.1 hfixed c h

theorem isInertText_baseUrlVariableOf (s : String) : IsInertText (baseUrlVariableOf s) := by
  intro c hc
  rcases isAsciiAlnum_of_mem_baseUrlVariableOf hc with h | rfl
  · exact isInert_of_isAsciiAlnum h
  · decide

theorem isInertText_envVariable (scheme : String) {kind : String} (h : IsInertText kind) :
    IsInertText (Name.envVariable scheme kind) := by
  have hslug : IsInertText (String.ofList
      ((Text.upper scheme.toList).map fun c => if Text.isAsciiAlnum c then c else '_')) := by
    intro c hc
    rw [String.toList_ofList] at hc
    obtain ⟨d, -, rfl⟩ := List.mem_map.1 hc
    by_cases hd : Text.isAsciiAlnum d = true
    · rw [if_pos hd]
      exact isInert_of_isAsciiAlnum hd
    · rw [if_neg hd]
      decide
  exact (hslug.append (by decide)).append h

theorem IsInertText.contained {s : String} (h : IsInertText s) : Contained s := by
  unfold Contained
  unfold IsInertText at h
  generalize s.toList = cs at h
  induction cs with
  | nil => rfl
  | cons c cs ih =>
      rw [List.forall_mem_cons] at h
      rw [longText?_inert h.1, ih h.2]
      rfl

theorem isInertText_ending (auth : Authentication) : IsInertText auth.ending := by
  cases auth with
  | apiKey => exact (by decide : IsInertText "API_KEY")
  | bearer => exact (by decide : IsInertText "TOKEN")
  | basic => exact (by decide : IsInertText "CREDENTIALS")
  | oauth2 => exact (by decide : IsInertText "ACCESS_TOKEN")

/-- The environment variables of credentials that a document asks for end no long text. -/
theorem contained_of_authentication? {a : Api} {e : Endpoint} {auth : Authentication}
    (h : (a.authentication? e).1 = some auth) : Contained auth.envVariable := by
  unfold Api.authentication? at h
  split at h
  · cases h
  · next name _ =>
    split at h
    · cases h
    · next s _ =>
      split at h
      · next c hc =>
        obtain rfl : c = auth := Option.some.inj h
        rw [SecurityScheme.envVariable_of_credential? hc]
        exact (isInertText_envVariable name (isInertText_ending c)).contained
      · cases h

/-! ## Where the opening comment ends -/

theorem EndsBehindIff.credentialLines {body after : List Char} {condition : Prop}
    (vs : List String) (h : EndsBehindIff body after condition) :
    EndsBehindIff (lineText (credentialLines vs) ++ body) after
      ((∀ v ∈ vs, Contained v) ∧ condition) := by
  have hvs : ∀ vs : List String, EndsBehindIff (lineText (vs.map ("    " ++ ·)) ++ body) after
      ((∀ v ∈ vs, Contained v) ∧ condition) := by
    intro vs
    induction vs with
    | nil => simpa [lineText] using h
    | cons v vs ih =>
        have hline : lineText ((v :: vs).map ("    " ++ ·)) ++ body = "    ".toList
            ++ (v.toList ++ '\n' :: (lineText (vs.map ("    " ++ ·)) ++ body)) := by
          simp [lineText]
        rw [hline, List.forall_mem_cons, and_assoc]
        have hindent : IsInertText "    " := by decide
        exact (ih.text v (by decide)).inert_append hindent
  cases vs with
  | nil => simpa [Server.credentialLines, lineText] using h
  | cons v vs =>
      unfold Server.credentialLines
      dsimp only
      rw [lineText_append, List.append_assoc]
      exact (hvs (v :: vs)).inert_append (inert_lineText (by decide))

theorem inert_closingLines (p : Package) (serverName : Option String) :
    ∀ c ∈ lineText (closingLines (Context.ofPackage p serverName)), IsInert c := by
  refine inert_lineText fun l hl => ?_
  rcases List.mem_cons.1 hl with rfl | hl
  · decide
  · rw [List.mem_singleton.1 hl]
    exact (IsInertText.append (by decide) (isInertText_baseUrlVariableOf _)).append (by decide)

theorem inert_summaryLines (c : Context) : ∀ d ∈ lineText (summaryLines c), IsInert d := by
  refine inert_lineText fun l hl => ?_
  rcases List.mem_cons.1 hl with rfl | hl
  · exact IsInertText.append (by decide) (isInertText_toString _)
  · have hrest : ∀ l ∈ ["",
        "Tool descriptors are read from tools.json next to this file. Every tool call",
        "is translated into one HTTP request against the API."], IsInertText l := by decide
    exact hrest l hl

theorem endsBehindIff_openingText (p : Package) (serverName : Option String)
    (after : List Char) :
    let c := Context.ofPackage p serverName
    EndsBehindIff (openingText c) after (Contained c.serverName ∧ Contained c.title ∧
      Contained c.version ∧ ∀ v ∈ c.credentials, Contained v) := by
  intro c
  -- from the end to the beginning, each text with the inert ones behind it
  have hclosing : EndsBehindIff (lineText (closingLines c)) after True := by
    simpa using (endsBehindIff_nil after).inert_append (inert_closingLines p serverName)
  have hsummary := (hclosing.credentialLines c.credentials).inert_append (inert_summaryLines c)
  have hversion := hsummary.text c.version (c := '\n') (by decide)
  have htitle := hversion.text c.title (c := ' ') (by decide)
  have hfixed : IsInertText ("-- MCP server generated by specmcp " ++ generatorVersion
      ++ ".\n\nSource API: ") := by decide
  have hname := (htitle.inert_append hfixed).text c.serverName (c := ' ') (by decide)
  have hopening : openingText c = c.serverName.toList ++ ' ' ::
      (("-- MCP server generated by specmcp " ++ generatorVersion
        ++ ".\n\nSource API: ").toList ++ (c.title.toList ++ ' ' :: (c.version.toList
        ++ '\n' :: (lineText (summaryLines c) ++ (lineText (Server.credentialLines c.credentials)
        ++ lineText (closingLines c)))))) := by
    have hspecmcp : " -- MCP server generated by specmcp ".toList
        = ' ' :: "-- MCP server generated by specmcp ".toList := rfl
    have hspace : " ".toList = [' '] := rfl
    have hfeed : "\n".toList = ['\n'] := rfl
    have hversion : c.generatorVersion = generatorVersion := rfl
    unfold openingText openingTitle
    simp only [String.toList_append, hspecmcp, hspace, hfeed, hversion, List.append_assoc,
      List.cons_append, List.nil_append]
  rw [hopening]
  simpa using hname

/-- A long text ends only in a text that holds three quotes. -/
theorem contained_of_not_infix {s : String} (h : ¬ quotes <:+: s.toList) : Contained s := by
  unfold Contained
  cases hl : longText? s.toList with
  | none => rfl
  | some r =>
      obtain ⟨inner, rest⟩ := r
      exact absurd ⟨inner, rest, (eq_of_longText? hl).symm⟩ h

/-- **The opening comment ends where it is meant to if and only if no text in it ends it.** It
always ends, in the texts that stand in it or behind them; what comes before the end is as it is
meant to be. The texts that count are the name of the server, the title and version of the
interface and the environment variables of credentials, of which those that a document asks for
are always contained. So is every text without three quotes in a row. -/
theorem openingComment_ends_behind_iff (p : Package) (serverName : Option String) :
    let c := Context.ofPackage p serverName
    let after := '\n' :: lineText (programLines c)
    (text c).toList = quotes ++ (openingText c ++ quotes ++ after) ∧
      (∃ inner rest, longText? (openingText c ++ quotes ++ after) = some (inner, rest) ∧
        inner <+: openingText c ∧
        (inner = openingText c ↔ Contained c.serverName ∧ Contained c.title ∧
          Contained c.version ∧ ∀ v ∈ c.credentials, Contained v)) ∧
      (∀ (a : Api) (e : Endpoint) (auth : Authentication),
        (a.authentication? e).1 = some auth → Contained auth.envVariable) ∧
      ∀ s : String, ¬ quotes <:+: s.toList → Contained s := by
  intro c after
  refine ⟨?_, endsBehindIff_openingText p serverName after,
    fun a e auth h => contained_of_authentication? h, fun s h => contained_of_not_infix h⟩
  rw [toList_text_eq, List.append_assoc, List.append_assoc, List.append_assoc]

/-! ### A title with three quotes -/

/-- A document whose title holds three quotes and an instruction. -/
def petsImport : Value :=
  Value.object
    [("openapi", .str "3.0.0"),
     ("info", Value.object
       [("title", .str "Pets\"\"\"\nimport pets #"), ("version", .str "1.0")]),
     ("paths", Value.object [])]

theorem generate_petsImport :
    ∃ o, (Generation.ofDocument {} none petsImport).1 = .ok o ∧
      o.info.title = "Pets\"\"\"\nimport pets #" ∧ o.info.version = "1.0" :=
  ⟨_, rfl, rfl, rfl⟩

/-- The opening comment of the server for that document ends in the title, and the instruction
is read as program. -/
theorem petsImport_leaves_comment :
    ∃ o, (Generation.ofDocument {} none petsImport).1 = .ok o ∧
      let c := Context.ofPackage (Package.ofOutcome o) (some "pets")
      ∃ inner rest, (text c).toList = quotes ++ (inner ++ quotes ++ rest) ∧
        longText? (inner ++ quotes ++ rest) = some (inner, rest) ∧
        inner.length < (openingText c).length ∧
        "\nimport pets # 1.0\n".toList <+: rest := by
  obtain ⟨o, ho, htitle, hversion⟩ := generate_petsImport
  refine ⟨o, ho, ?_⟩
  intro c
  have hopening : openingTitle c = "pets -- MCP server generated by specmcp 0.1.0.\n\nSource API: "
      ++ "Pets\"\"\"\nimport pets # 1.0\n" := by
    show "pets" ++ " -- MCP server generated by specmcp " ++ generatorVersion
      ++ ".\n\nSource API: " ++ o.info.title ++ " " ++ o.info.version ++ "\n" = _
    rw [htitle, hversion]
    decide
  -- the beginning of the comment decides where it ends
  have hlong : longText? (openingTitle c).toList
      = some ("pets -- MCP server generated by specmcp 0.1.0.\n\nSource API: Pets".toList,
        "\nimport pets # 1.0\n".toList) := by
    rw [hopening]
    decide
  have happ : ∃ back, openingText c = (openingTitle c).toList ++ back := by
    unfold openingText
    simp only [List.append_assoc]
    exact ⟨_, rfl⟩
  obtain ⟨back, hback⟩ := happ
  have hends := longText?_append_of_some hlong
    (back ++ (quotes ++ '\n' :: lineText (programLines c)))
  have hbody := eq_of_longText? hends
  rw [List.append_assoc] at hbody
  refine ⟨"pets -- MCP server generated by specmcp 0.1.0.\n\nSource API: Pets".toList,
    "\nimport pets # 1.0\n".toList ++ (back ++ (quotes ++ '\n' :: lineText (programLines c))),
    ?_, ?_, ?_, List.prefix_append _ _⟩
  · rw [List.append_assoc, ← hbody, toList_text_eq, hback]
    simp only [List.append_assoc]
  · rw [List.append_assoc, ← hbody]
    exact hends
  · rw [hback, List.length_append, hopening]
    exact Nat.lt_of_lt_of_le (by decide) (Nat.le_add_right _ _)

end ApiTools.Rendering.Server
