import ApiTools.Json.Reader
import ApiTools.Proofs.Rendering.OpeningComment
import Mathlib.Data.Nat.Digits.Defs

set_option autoImplicit false

/-!
# What the literals of a server stand for

The name of a server and its base address stand in its program as literals, written as JSON writes
a text. To the program a text is a row of code points, and each `u` escape in a literal is a code
point of its own. JSON writes a character beyond the first 65536 as two such escapes, the halves of
a surrogate pair. The program reads them as two code points, neither of which is the character. All
other characters are read as they are.
-/

namespace ApiTools.Rendering.Server

/-! ## Reading a literal -/

/-- The value of a digit in a base up to sixteen. -/
def digit? (base : Nat) (c : Char) : Option Nat := (Json.hexDigit? c).filter (· < base)

/-- The number that digits stand for in a base up to sixteen. -/
def numeral? (base : Nat) (ds : List Char) : Option Nat :=
  ds.foldlM (fun n d => (digit? base d).map (n * base + ·)) 0

/-- The code point that so many digits in base sixteen stand for, and what is left behind them. -/
def pointEscape? (width : Nat) (s : List Char) : Option (List Nat × List Char) :=
  if s.length < width then none
  else ((numeral? 16 (s.take width)).filter (· < 0x110000)).map fun n => ([n], s.drop width)

/-- The characters that stand for one code point behind a backslash. -/
def signs : List (Char × Nat) :=
  [('\\', 0x5C), ('\'', 0x27), ('"', 0x22), ('a', 0x07), ('b', 0x08), ('f', 0x0C), ('n', 0x0A),
   ('r', 0x0D), ('t', 0x09), ('v', 0x0B)]

/-- The code points that the text behind a backslash stands for, and what is left of that text.
A line end stands for nothing, up to three digits for a number in base eight, and a character
without a meaning for itself and the backslash. Names of characters are not looked up. -/
def escape? (s : List Char) : Option (List Nat × List Char) :=
  match s with
  | [] => none
  | '\n' :: rest => some ([], rest)
  | '\r' :: '\n' :: rest => some ([], rest)
  | '\r' :: rest => some ([], rest)
  | 'x' :: rest => pointEscape? 2 rest
  | 'u' :: rest => pointEscape? 4 rest
  | 'U' :: rest => pointEscape? 8 rest
  | 'N' :: _ => none
  | c :: rest =>
    match signs.lookup c with
    | some n => some ([n], rest)
    | none =>
      let ds := ((c :: rest).take 3).takeWhile fun d => (digit? 8 d).isSome
      if ds.isEmpty then some ([0x5C, c.toNat], rest)
      else (numeral? 8 ds).map fun n => ([n], (c :: rest).drop ds.length)

theorem length_le_of_pointEscape? {width : Nat} {s rest : List Char} {ns : List Nat}
    (h : pointEscape? width s = some (ns, rest)) : rest.length ≤ s.length := by
  unfold pointEscape? at h
  split at h
  · cases h
  · obtain ⟨n, -, he⟩ := Option.map_eq_some_iff.1 h
    injection he with _ hrest
    rw [← hrest]
    exact (List.drop_sublist _ _).length_le

theorem length_le_of_escape? {s rest : List Char} {ns : List Nat}
    (h : escape? s = some (ns, rest)) : rest.length ≤ s.length := by
  unfold escape? at h
  split at h
  case h_1 => cases h
  case h_5 | h_6 | h_7 => exact (length_le_of_pointEscape? h).trans (Nat.le_succ _)
  case h_8 => cases h
  case h_9 =>
    split at h
    · cases h
      exact Nat.le_succ _
    · dsimp only at h
      split at h
      · cases h
        exact Nat.le_succ _
      · obtain ⟨n, -, he⟩ := Option.map_eq_some_iff.1 h
        injection he with _ hrest
        rw [← hrest]
        exact (List.drop_sublist _ _).length_le
  all_goals
    cases h
    simp only [List.length_cons]
    omega

/-- The code points up to the closing quote, and what is left behind it. -/
def shortText? (s : List Char) : Option (List Nat × List Char) :=
  match s with
  | [] => none
  | '"' :: rest => some ([], rest)
  | '\\' :: behind =>
    match _h : escape? behind with
    | none => none
    | some (ns, rest) => (shortText? rest).map fun r => (ns ++ r.1, r.2)
  | c :: rest =>
    if c = '\n' ∨ c = '\r' then none
    else (shortText? rest).map fun r => (c.toNat :: r.1, r.2)
termination_by s.length
decreasing_by
  · exact Nat.lt_succ_of_le (length_le_of_escape? _h)
  · exact Nat.lt_succ_self _

/-- The code points that a literal at the beginning of a text stands for, and what is left behind
it. Three quotes open a long text instead. -/
def literal? (s : List Char) : Option (List Nat × List Char) :=
  match s with
  | '"' :: '"' :: '"' :: _ => none
  | '"' :: rest => shortText? rest
  | _ => none

/-! ## Numbers in base sixteen -/

theorem digit?_digitChar : ∀ d < 16, digit? 16 (Nat.digitChar d) = some d := by
  decide

theorem numeral?_append_singleton {ds : List Char} {n d : Nat} (h : numeral? 16 ds = some n)
    (hd : d < 16) : numeral? 16 (ds ++ [Nat.digitChar d]) = some (n * 16 + d) := by
  unfold numeral? at h ⊢
  rw [List.foldlM_append, h]
  simp [digit?_digitChar d hd]

theorem numeral?_toDigits (n : Nat) : numeral? 16 (Nat.toDigits 16 n) = some n := by
  induction n using Nat.strongRecOn with
  | _ n ih =>
      have hempty : numeral? 16 [] = some 0 := rfl
      rw [Nat.toDigits_eq_if (by decide)]
      split
      · next hn => simpa using numeral?_append_singleton hempty hn
      · next hn =>
        have hlast : n % 16 < 16 := Nat.mod_lt _ (by decide)
        rw [numeral?_append_singleton (ih (n / 16) (by omega)) hlast, Nat.div_add_mod']

theorem numeral?_hex (width n : Nat) : numeral? 16 (Value.hex width n) = some n := by
  -- zeros in front leave the number at zero
  have hzeros : ∀ k, numeral? 16 (List.replicate k '0') = some 0 := by
    intro k
    induction k with
    | zero => rfl
    | succ k ih => exact ih
  have hnumber := numeral?_toDigits n
  unfold Value.hex
  unfold numeral? at hzeros hnumber ⊢
  rw [List.foldlM_append, hzeros]
  exact hnumber

theorem length_hex {n : Nat} (h : n < 0x10000) : (Value.hex 4 n).length = 4 := by
  have hdigits : (Nat.toDigits 16 n).length ≤ 4 :=
    (Nat.length_toDigits_le_iff (by decide) (by decide)).2 h
  unfold Value.hex
  rw [List.length_append, List.length_replicate]
  omega

theorem pointEscape?_hex {n : Nat} (h : n < 0x10000) (rest : List Char) :
    pointEscape? 4 (Value.hex 4 n ++ rest) = some ([n], rest) := by
  have hlength := length_hex h
  unfold pointEscape?
  rw [if_neg (by rw [List.length_append]; omega), List.take_left' hlength,
    List.drop_left' hlength, numeral?_hex, Option.filter_some_pos (by simp; omega)]
  rfl

/-! ## Reading back what was written -/

/-- The code points of a text. -/
def points (s : String) : List Nat := s.toList.map Char.toNat

/-- The code units of a character: itself, or the two halves of a surrogate pair. -/
def charUnits (c : Char) : List Nat :=
  if c.toNat < 0x10000 then [c.toNat]
  else [0xD800 + (c.toNat - 0x10000) / 0x400, 0xDC00 + (c.toNat - 0x10000) % 0x400]

theorem charUnits_of_lt {c : Char} (h : c.toNat < 0x10000) : charUnits c = [c.toNat] := if_pos h

/-- The code units of a text. -/
def units (s : String) : List Nat := s.toList.flatMap charUnits

/-- A backslash is read with what it stands for. -/
theorem shortText?_backslash {behind rest : List Char} {ns : List Nat}
    (h : escape? behind = some (ns, rest)) :
    shortText? ('\\' :: behind) = (shortText? rest).map fun r => (ns ++ r.1, r.2) := by
  rw [shortText?]
  split
  · next hnone => rw [h] at hnone; cases hnone
  · next hsome =>
    rw [h] at hsome
    cases hsome
    rfl

theorem shortText?_unitEscape {n : Nat} (h : n < 0x10000) (rest : List Char) :
    shortText? (Json.unitEscape n ++ rest) = (shortText? rest).map fun r => (n :: r.1, r.2) := by
  have hescape : escape? ('u' :: (Value.hex 4 n ++ rest)) = some ([n], rest) :=
    pointEscape?_hex h rest
  exact shortText?_backslash hescape

theorem shortText?_numericEscape (c : Char) (rest : List Char) :
    shortText? (Json.numericEscape c ++ rest)
      = (shortText? rest).map fun r => (charUnits c ++ r.1, r.2) := by
  have hlast : c.toNat < 0x110000 := by
    have hvalid : c.toNat < 0xD800 ∨ 0xDFFF < c.toNat ∧ c.toNat < 0x110000 := c.valid
    omega
  unfold Json.numericEscape charUnits
  dsimp only
  split
  · next hc => exact shortText?_unitEscape hc rest
  · rw [List.append_assoc, shortText?_unitEscape (by omega), shortText?_unitEscape (by omega),
      Option.map_map]
    rfl

/-- How a character is written: as a sign behind a backslash, as its number, or as it is. -/
inductive Written (c : Char) : List Char → Prop
  | sign {sign : Char} (hc : c.toNat < 0x10000)
      (hread : ∀ rest, escape? (sign :: rest) = some ([c.toNat], rest)) : Written c ['\\', sign]
  | number : Written c (Json.numericEscape c)
  | plain (hc : c.toNat < 0x10000) (hquote : c ≠ '"') (hbackslash : c ≠ '\\')
      (hline : ¬ (c = '\n' ∨ c = '\r')) : Written c [c]

theorem written_escape (c : Char) : Written c (Json.embedded.escape c) := by
  unfold Json.Style.escape
  split_ifs with hquote hbackslash hfeed hreturn htab hform hback hnumber
  · subst hquote
    exact .sign (by decide) fun _ => rfl
  · subst hbackslash
    exact .sign (by decide) fun _ => rfl
  · subst hfeed
    exact .sign (by decide) fun _ => rfl
  · subst hreturn
    exact .sign (by decide) fun _ => rfl
  · subst htab
    exact .sign (by decide) fun _ => rfl
  · subst hform
    exact .sign (by decide) fun _ => rfl
  · subst hback
    exact .sign (by decide) fun _ => rfl
  · exact .number
  · -- what is left is printable ASCII
    have hc : c.toNat < 0x7F := by
      simp only [Json.embedded, Bool.or_eq_true, Bool.and_eq_true, decide_eq_true_eq, not_or,
        true_and] at hnumber
      omega
    exact .plain (by omega) hquote hbackslash (not_or.2 ⟨hfeed, hreturn⟩)

/-- What was written for a character is read as its code units. -/
theorem shortText?_escape (c : Char) (rest : List Char) :
    shortText? (Json.embedded.escape c ++ rest)
      = (shortText? rest).map fun r => (charUnits c ++ r.1, r.2) := by
  have hwritten := written_escape c
  generalize Json.embedded.escape c = cs at hwritten ⊢
  cases hwritten with
  | sign hc hread =>
      rw [charUnits_of_lt hc]
      exact shortText?_backslash (hread rest)
  | number => exact shortText?_numericEscape c rest
  | plain hc hquote hbackslash hline =>
      rw [List.singleton_append, shortText?, if_neg hline, charUnits_of_lt hc]
      · rfl
      · exact hquote
      · exact hbackslash

theorem shortText?_flatMap_escape (cs rest : List Char) :
    shortText? (cs.flatMap Json.embedded.escape ++ '"' :: rest)
      = some (cs.flatMap charUnits, rest) := by
  induction cs with
  | nil => rw [List.flatMap_nil, List.nil_append, shortText?, List.flatMap_nil]
  | cons c cs ih =>
      rw [List.flatMap_cons, List.append_assoc, shortText?_escape, ih]
      rfl

theorem toList_literal (s : String) :
    (literal s).toList = '"' :: (s.toList.flatMap Json.embedded.escape ++ ['"']) := by
  unfold literal Json.write Json.Style.value Json.Style.quoted Json.Style.quote
  rw [String.toList_ofList]

/-- No character is written with a quote in front. -/
theorem exists_escape_eq_cons (c : Char) :
    ∃ d ds, Json.embedded.escape c = d :: ds ∧ d ≠ '"' := by
  have hwritten := written_escape c
  generalize Json.embedded.escape c = cs at hwritten ⊢
  cases hwritten with
  | sign _ _ => exact ⟨'\\', _, rfl, by decide⟩
  | number =>
      unfold Json.numericEscape
      dsimp only
      split
      · exact ⟨'\\', _, rfl, by decide⟩
      · exact ⟨'\\', _, rfl, by decide⟩
  | plain _ hquote _ _ => exact ⟨c, _, rfl, hquote⟩

/-- A quote without two more behind it opens a literal. -/
theorem literal?_quote {s : List Char} (h : ¬ ['"', '"'] <+: s) :
    literal? ('"' :: s) = shortText? s := by
  rw [literal?.eq_2]
  rintro rest rfl
  exact h (List.prefix_append _ _)

/-- A literal is read as the code units of its text, unless a quote follows at once. -/
theorem literal?_literal (s : String) {rest : List Char} (h : rest.head? ≠ some '"') :
    literal? ((literal s).toList ++ rest) = some (units s, rest) := by
  rw [toList_literal, List.cons_append, List.append_assoc, List.singleton_append,
    literal?_quote, shortText?_flatMap_escape, units]
  cases s.toList with
  | nil =>
      intro hquotes
      obtain ⟨-, hquote⟩ := List.cons_prefix_cons.1 hquotes
      exact h (List.singleton_prefix_iff_head?_eq_some.1 hquote)
  | cons c cs =>
      obtain ⟨d, ds, hd, hne⟩ := exists_escape_eq_cons c
      rw [List.flatMap_cons, hd, List.cons_append, List.cons_append, List.cons_prefix_cons]
      exact fun hquotes => hne hquotes.1.symm

/-- No half of a surrogate pair is a character beyond the first 65536. -/
theorem units_eq_points_iff (s : String) :
    units s = points s ↔ ∀ c ∈ s.toList, c.toNat < 0x10000 := by
  unfold units points
  generalize s.toList = cs
  induction cs with
  | nil => simp
  | cons c cs ih =>
      rw [List.flatMap_cons, List.map_cons, List.forall_mem_cons]
      by_cases hc : c.toNat < 0x10000
      · rw [charUnits_of_lt hc, List.singleton_append, List.cons_inj_right, ih]
        exact (and_iff_right hc).symm
      · -- the first half differs from the character already
        have hfirst : 0xD800 + (c.toNat - 0x10000) / 0x400 ≠ c.toNat := by omega
        unfold charUnits
        rw [if_neg hc, List.cons_append, List.cons_eq_cons]
        exact iff_of_false (fun h => hfirst h.1) fun h => hc h.1

/-! ## The constants of a server -/

/-- What the program reads for its constants. -/
theorem exists_constants (c : Context) :
    ∃ atName atSetting atAddress behind : List Char,
      (text c).toList = lineText (openingLines c ++ [""] ++ importLines)
        ++ "SERVER_NAME = ".toList ++ atName ∧
      literal? atName
        = some (units c.serverName, "\nBASE_URL = os.environ.get(".toList ++ atSetting) ∧
      literal? atSetting = some (units c.baseUrlVariable, ", ".toList ++ atAddress) ∧
      literal? atAddress = some (units c.baseUrl, ")\n".toList ++ behind) := by
  obtain ⟨behind, hlines⟩ : ∃ behind, lines c
      = openingLines c ++ [""] ++ importLines ++ (constantLines c ++ behind) :=
    ⟨_, List.append_assoc _ _ _⟩
  refine ⟨_, _, _, lineText behind, ?_, literal?_literal _ ?_, literal?_literal _ ?_,
    literal?_literal _ ?_⟩
  · rw [toList_text, hlines, lineText_append, lineText_append (constantLines c)]
    unfold constantLines
    simp [lineText]
  all_goals simp

/-- **The constants of a server are the name and the address they were made from if and only if
these have no character beyond the first 65536.** The literal of the name ends with its line, and
the one of the address, which counts when the environment has no other, ends before the bracket;
each is read as the code units of its text. The environment variable is always read as it is. -/
theorem constants_denote_iff (p : Package) (serverName : Option String) :
    let c := Context.ofPackage p serverName
    (∃ atName atSetting atAddress behind : List Char,
      (text c).toList = lineText (openingLines c ++ [""] ++ importLines)
        ++ "SERVER_NAME = ".toList ++ atName ∧
      literal? atName
        = some (units c.serverName, "\nBASE_URL = os.environ.get(".toList ++ atSetting) ∧
      literal? atSetting = some (points c.baseUrlVariable, ", ".toList ++ atAddress) ∧
      literal? atAddress = some (units c.baseUrl, ")\n".toList ++ behind)) ∧
    (units c.serverName = points c.serverName ↔
      ∀ d ∈ c.serverName.toList, d.toNat < 0x10000) ∧
    (units c.baseUrl = points c.baseUrl ↔ ∀ d ∈ c.baseUrl.toList, d.toNat < 0x10000) := by
  intro c
  refine ⟨?_, units_eq_points_iff _, units_eq_points_iff _⟩
  -- the environment variable is made of ASCII
  have hsetting : units c.baseUrlVariable = points c.baseUrlVariable := by
    refine (units_eq_points_iff _).2 fun d hd => ?_
    rcases isAsciiAlnum_of_mem_baseUrlVariableOf hd with hd | rfl
    · exact (toNat_lt_of_isAsciiAlnum hd).trans (by decide)
    · decide
  rw [← hsetting]
  exact exists_constants c

/-! ### A name with a sign beyond the first 65536 -/

/-- The name `pets 🐾` becomes a text with two halves of a surrogate pair instead of the paws. -/
theorem paws_denote_halves :
    let c := Context.ofPackage ⟨{ title := "Pets", version := "1" }, "", []⟩ (some "pets 🐾")
    ∃ atName behind : List Char,
      (text c).toList = lineText (openingLines c ++ [""] ++ importLines)
        ++ "SERVER_NAME = ".toList ++ atName ∧
      literal? atName = some ("pets ".toList.map Char.toNat ++ [0xD83D, 0xDC3E], behind) ∧
      points c.serverName = "pets ".toList.map Char.toNat ++ [0x1F43E] := by
  intro c
  have hunits : units c.serverName = "pets ".toList.map Char.toNat ++ [0xD83D, 0xDC3E] := by
    decide
  obtain ⟨atName, _, _, _, htext, hname, -, -⟩ := exists_constants c
  rw [hunits] at hname
  exact ⟨atName, _, htext, hname, by decide⟩

end ApiTools.Rendering.Server
