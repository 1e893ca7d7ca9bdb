import ApiTools.Proofs.Action
import ApiTools.Source

set_option autoImplicit false

/-!
# Loading in a world

What a source gives in a world, and when it gives neither a document nor a failure that was
reckoned with. Nothing in a world is changed by loading, except that the input can be read only
once.
-/

namespace ApiTools.Source

/-! ## What is loaded -/

/-- The text that a source has in a world. -/
def rawIn (w : World) : Source → Except Failure Hinted
  | .input => ofInput w.input
  | .web url => ofReply url (w.reply url)
  | .file path =>
    match w.look (Path.ofText path) with
    | .ok .file => ofContent path (w.read (Path.ofText path))
    | .ok _ => .error (.notFound path)
    | .error reason => .error (.unseen path reason)

/-- A text, unless it is nested too deep to be decoded in a world. -/
def fitting (w : World) : Except Failure Hinted → Except Failure Hinted
  | .error f => .error f
  | .ok hinted =>
    if w.overflows hinted.1 then .error (.tooDeep hinted.1.length) else .ok hinted

/-- The text that a source gives in a world. -/
def textIn (w : World) (s : Source) : Except Failure Hinted := fitting w (s.rawIn w)

/-- The world after a source was loaded. -/
def worldAfter (w : World) : Source → World
  | .input => { w with input := w.input.rest }
  | _ => w

theorem run_rawText (s : Source) (w : World) :
    s.rawText.run w = (s.rawIn w, s.worldAfter w) := by
  cases s with
  | input => rfl
  | web url => rfl
  | file path =>
      unfold rawText rawIn
      dsimp only [Action.run]
      cases w.look (Path.ofText path) with
      | error reason => rfl
      | ok sight => cases sight <;> rfl

theorem overflows_worldAfter (w : World) (s : Source) :
    (s.worldAfter w).overflows = w.overflows := by
  cases s <;> rfl

theorem run_text (s : Source) (w : World) : s.text.run w = (s.textIn w, s.worldAfter w) := by
  unfold text textIn fitting
  rw [Action.run_seq, run_rawText]
  cases s.rawIn w with
  | error f => rfl
  | ok hinted =>
      dsimp only
      rw [Action.run_seq]
      show ((if (s.worldAfter w).overflows hinted.1 = true then _ else _ :
        Action (Except Failure Hinted))).run (s.worldAfter w) = _
      rw [overflows_worldAfter]
      split <;> rfl

/-- What the source that a text names gives in a world. -/
theorem run_load (name : String) (w : World) :
    (load name).run w = (decode name ((ofText name).textIn w), (ofText name).worldAfter w) := by
  show (Action.bind (ofText name).text _).run w = _
  rw [Action.run_bind, run_text]
  rfl

/-! ## What is not reckoned with -/

/-- A text that is read with an end that was not reckoned with: an integer in JSON has too many
digits, or a value in YAML is impossible. -/
inductive Unreckoned (text : String) : Hint → Prop where
  | tooLong {hint : Hint} {m : String} : hint ≠ .yaml → Json.read text = .error (.tooLong m) →
      Unreckoned text hint
  | impossible {hint : Hint} {fault : Yaml.Fault} :
      (hint ≠ .yaml → hint ≠ .json ∧ ∃ m, Json.read text = .error (.notJson m)) →
      Yaml.read text = .error fault → fault ≠ .malformed → Unreckoned text hint

/-- A source has a text in a world, with what is known about its format. -/
inductive Has (w : World) : Source → String → Hint → Prop where
  | input {text : String} : w.input = .text text → Text.isAllBlank text = false →
      Has w .input text .none
  | answer {url type text : String} {status : Nat} {body : ByteArray}
      {foreign : Option (Option String)} : w.reply url = .answered status type body foreign →
      200 ≤ status → status < 300 → bodyText? type body foreign = some text →
      Has w (.web url) text (hintOfType type)
  | content {path text : String} {content : ByteArray} :
      w.look (Path.ofText path) = .ok .file → w.read (Path.ofText path) = .ok content →
      Text.ofFile? content = some text → Text.isAllBlank text = false →
      Has w (.file path) text (hintOfPath (Path.ofText path))

/-- A source that gives neither a document nor a failure that was reckoned with. -/
inductive Breaks (w : World) : Source → Prop where
  /-- The input is not in its encoding. -/
  | inputNotText : w.input = .notText → Breaks w .input
  /-- A request goes wrong in a way that requests are not known to. -/
  | broken {url cause : String} : w.reply url = .broken cause → Breaks w (.web url)
  /-- The body of an answer is no text in its set of characters. -/
  | undecodable {url type : String} {status : Nat} {body : ByteArray}
      {foreign : Option (Option String)} : w.reply url = .answered status type body foreign →
      200 ≤ status → status < 300 → bodyText? type body foreign = none → Breaks w (.web url)
  /-- The disk does not tell what is at a path. -/
  | unseen {path reason : String} : w.look (Path.ofText path) = .error reason →
      Breaks w (.file path)
  /-- A file is not in UTF-8. -/
  | notText {path : String} {content : ByteArray} : w.look (Path.ofText path) = .ok .file →
      w.read (Path.ofText path) = .ok content → Text.ofFile? content = none →
      Breaks w (.file path)
  /-- A text is nested too deep for the stack. -/
  | tooDeep {s : Source} {text : String} {hint : Hint} : Has w s text hint →
      w.overflows text = true → Breaks w s
  /-- A text is unreckoned. -/
  | unreckoned {s : Source} {text : String} {hint : Hint} : Has w s text hint →
      Unreckoned text hint → Breaks w s

/-- Whether loading ended in a document or in a failure that was reckoned with. -/
def isReckoned : Except Failure Value → Bool
  | .ok _ => true
  | .error f => f.isExpected

theorem isReckoned_requireMapping (v : Value) :
    isReckoned ((Document.requireMapping v).mapError .problem) = true := by
  unfold Document.requireMapping
  split <;> rfl

theorem readYaml_unreckoned_iff (text : String) (json : Option String) :
    isReckoned ((Document.readYaml text json).mapError .problem) = false ↔
      ∃ fault, Yaml.read text = .error fault ∧ fault ≠ .malformed := by
  unfold Document.readYaml
  cases Yaml.read text with
  | ok v =>
      rw [isReckoned_requireMapping]
      constructor
      · intro h
        cases h
      · rintro ⟨fault, h, -⟩
        cases h
  | error fault =>
      constructor
      · intro h
        refine ⟨fault, rfl, ?_⟩
        rintro rfl
        cases h
      · rintro ⟨other, h, hne⟩
        injection h with h
        subst h
        cases fault with
        | malformed => exact absurd rfl hne
        | _ => rfl

/-- A text that is not announced as YAML is read as JSON first. -/
theorem parse_of_ne_yaml (text : String) {hint : Hint} (h : hint ≠ .yaml) :
    Document.parse text hint = match Json.read text with
      | .ok v => Document.requireMapping v
      | .error (.tooLong _) => .error .tooLong
      | .error (.notJson m) =>
        if hint == .json then .error (.notJson m) else Document.readYaml text (some m) := by
  cases hint with
  | yaml => exact absurd rfl h
  | _ => rfl

/-- A text that is not announced as YAML is unreckoned if its JSON has too many digits, or if it is
neither JSON nor announced as such and its YAML is impossible. -/
theorem unreckoned_iff_of_ne_yaml {text : String} {hint : Hint} (h : hint ≠ .yaml) :
    Unreckoned text hint ↔ (∃ m, Json.read text = .error (.tooLong m)) ∨
      hint ≠ .json ∧ (∃ m, Json.read text = .error (.notJson m)) ∧
        ∃ fault, Yaml.read text = .error fault ∧ fault ≠ .malformed := by
  constructor
  · rintro (⟨-, hjson⟩ | ⟨hnot, hread, hne⟩)
    · exact .inl ⟨_, hjson⟩
    · exact .inr ⟨(hnot h).1, (hnot h).2, _, hread, hne⟩
  · rintro (⟨m, hjson⟩ | ⟨hnot, hjson, fault, hread, hne⟩)
    · exact .tooLong h hjson
    · exact .impossible (fun _ => ⟨hnot, hjson⟩) hread hne

theorem parse_unreckoned_iff (text : String) (hint : Hint) :
    isReckoned ((Document.parse text hint).mapError .problem) = false ↔ Unreckoned text hint := by
  by_cases hyaml : hint = .yaml
  · subst hyaml
    show isReckoned ((Document.readYaml text none).mapError .problem) = false ↔ _
    rw [readYaml_unreckoned_iff]
    constructor
    · rintro ⟨fault, hread, hne⟩
      exact .impossible (fun h => absurd rfl h) hread hne
    · rintro (⟨h, -⟩ | ⟨-, hread, hne⟩)
      · exact absurd rfl h
      · exact ⟨_, hread, hne⟩
  · rw [parse_of_ne_yaml text hyaml, unreckoned_iff_of_ne_yaml hyaml]
    cases Json.read text with
    | ok v =>
        rw [isReckoned_requireMapping]
        simp
    | error refusal =>
        cases refusal with
        | tooLong m => exact iff_of_true rfl (.inl ⟨m, rfl⟩)
        | notJson m =>
            by_cases hannounced : hint = .json
            · subst hannounced
              exact iff_of_false Bool.noConfusion (by simp)
            · dsimp only
              rw [if_neg (by simpa using hannounced), readYaml_unreckoned_iff]
              simp [hannounced]

theorem decode_unreckoned_iff (name text : String) (hint : Hint) :
    isReckoned (decode name (.ok (text, hint))).1 = false ↔ Unreckoned text hint :=
  parse_unreckoned_iff text hint

theorem decode_error (name : String) (f : Failure) : (decode name (.error f)).1 = .error f := by
  cases f <;> rfl

/-! ## What a source has -/

/-- A source has a text, or the reason why it has none is told. -/
theorem rawIn_cases (w : World) (s : Source) :
    (∃ text hint, s.rawIn w = .ok (text, hint) ∧ Has w s text hint) ∨
      ∃ f, s.rawIn w = .error f ∧ (f.isExpected = false → Breaks w s) := by
  cases s with
  | input =>
      unfold rawIn ofInput
      dsimp only
      cases hinput : w.input with
      | failed reason => exact .inr ⟨_, rfl, nofun⟩
      | notText => exact .inr ⟨_, rfl, fun _ => .inputNotText hinput⟩
      | text text =>
          dsimp only
          cases hblank : Text.isAllBlank text with
          | true => exact .inr ⟨_, rfl, nofun⟩
          | false => exact .inl ⟨text, _, rfl, .input hinput hblank⟩
  | web url =>
      unfold rawIn ofReply
      dsimp only
      cases hreply : w.reply url with
      | failed reason => exact .inr ⟨_, rfl, nofun⟩
      | broken cause => exact .inr ⟨_, rfl, fun _ => .broken hreply⟩
      | answered status type body foreign =>
          dsimp only
          by_cases hstatus : (200 ≤ status && status < 300) = true
          · rw [if_pos hstatus]
            simp only [Bool.and_eq_true, decide_eq_true_eq] at hstatus
            cases htext : bodyText? type body foreign with
            | none =>
                exact .inr ⟨_, rfl, fun _ => .undecodable hreply hstatus.1 hstatus.2 htext⟩
            | some text => exact .inl ⟨text, _, rfl, .answer hreply hstatus.1 hstatus.2 htext⟩
          · rw [if_neg hstatus]
            exact .inr ⟨_, rfl, nofun⟩
  | file path =>
      unfold rawIn
      dsimp only
      cases hlook : w.look (Path.ofText path) with
      | error reason => exact .inr ⟨_, rfl, fun _ => .unseen hlook⟩
      | ok sight =>
          cases sight with
          | nothing => exact .inr ⟨_, rfl, nofun⟩
          | directory => exact .inr ⟨_, rfl, nofun⟩
          | file =>
              unfold ofContent
              cases hread : w.read (Path.ofText path) with
              | error reason => exact .inr ⟨_, rfl, nofun⟩
              | ok content =>
                  dsimp only
                  cases htext : Text.ofFile? content with
                  | none => exact .inr ⟨_, rfl, fun _ => .notText hlook hread htext⟩
                  | some text =>
                      dsimp only
                      cases hblank : Text.isAllBlank text with
                      | true => exact .inr ⟨_, rfl, nofun⟩
                      | false => exact .inl ⟨text, _, rfl, .content hlook hread htext hblank⟩

theorem Has.rawIn {w : World} {s : Source} {text : String} {hint : Hint} (h : Has w s text hint) :
    s.rawIn w = .ok (text, hint) := by
  unfold Source.rawIn
  cases h with
  | input hinput hblank =>
      unfold ofInput
      simp [hinput, hblank]
  | answer hreply hlow hhigh htext =>
      unfold ofReply
      simp [hreply, hlow, hhigh, htext]
  | content hlook hread htext hblank =>
      unfold ofContent
      simp [hlook, hread, htext, hblank]

/-- A source that breaks has no text and an end that was not reckoned with, or a text that is
nested too deep or unreckoned. -/
theorem Breaks.rawIn {w : World} {s : Source} (h : Breaks w s) :
    (∃ f, s.rawIn w = .error f ∧ f.isExpected = false) ∨
      ∃ text hint, s.rawIn w = .ok (text, hint) ∧
        (w.overflows text = true ∨ Unreckoned text hint) := by
  cases h with
  | inputNotText hinput =>
      refine .inl ⟨.inputNotText, ?_, rfl⟩
      show ofInput w.input = _
      rw [hinput]
      rfl
  | @broken url cause hreply =>
      refine .inl ⟨.broken url cause, ?_, rfl⟩
      show ofReply url (w.reply url) = _
      rw [hreply]
      rfl
  | @undecodable url _ _ _ _ hreply hlow hhigh htext =>
      refine .inl ⟨.undecodable url, ?_, rfl⟩
      unfold Source.rawIn ofReply
      simp [hreply, hlow, hhigh, htext]
  | @unseen path reason hlook =>
      refine .inl ⟨.unseen path reason, ?_, rfl⟩
      unfold Source.rawIn
      simp [hlook]
  | @notText path _ hlook hread htext =>
      refine .inl ⟨.notText path, ?_, rfl⟩
      unfold Source.rawIn ofContent
      simp [hlook, hread, htext]
  | tooDeep htext hdeep => exact .inr ⟨_, _, htext.rawIn, .inl hdeep⟩
  | unreckoned htext hun => exact .inr ⟨_, _, htext.rawIn, .inr hun⟩

/-- Loading ends in a way that was not reckoned with exactly if the source breaks in the world. -/
theorem textIn_unreckoned_iff (name : String) (w : World) (s : Source) :
    isReckoned (decode name (s.textIn w)).1 = false ↔ Breaks w s := by
  unfold textIn
  constructor
  · intro h
    rcases rawIn_cases w s with ⟨text, hint, hraw, htext⟩ | ⟨f, hraw, hbreaks⟩
    · rw [hraw] at h
      by_cases hdeep : w.overflows text = true
      · exact .tooDeep htext hdeep
      · have hfits : fitting w (.ok (text, hint)) = .ok (text, hint) := if_neg hdeep
        rw [hfits, decode_unreckoned_iff] at h
        exact .unreckoned htext h
    · have hfits : fitting w (.error f) = .error f := rfl
      rw [hraw, hfits, decode_error] at h
      exact hbreaks h
  · intro h
    rcases h.rawIn with ⟨f, hraw, hunexpected⟩ | ⟨text, hint, hraw, hdeep⟩
    · have hfits : fitting w (.error f) = .error f := rfl
      rw [hraw, hfits, decode_error]
      exact hunexpected
    · rw [hraw]
      by_cases hoverflows : w.overflows text = true
      · have hfits : fitting w (.ok (text, hint)) = .error (.tooDeep text.length) :=
          if_pos hoverflows
        rw [hfits]
        rfl
      · have hfits : fitting w (.ok (text, hint)) = .ok (text, hint) := if_neg hoverflows
        rw [hfits, decode_unreckoned_iff]
        exact hdeep.resolve_left hoverflows

/-! ## Worlds in which the input is used up -/

/-- A source gives what it gave before another one was loaded, unless it is the input, and that one
is read again. -/
theorem textIn_worldAfter (w : World) (s t : Source) :
    t.textIn (s.worldAfter w) = t.textIn w ∨
      t = .input ∧ t.textIn (s.worldAfter w) = .error .noInput := by
  cases s with
  | web url => exact .inl rfl
  | file path => exact .inl rfl
  | input =>
      cases t with
      | web url => exact .inl rfl
      | file path => exact .inl rfl
      | input =>
          unfold textIn rawIn worldAfter
          dsimp only
          cases w.input with
          | failed reason => exact .inl rfl
          | notText => exact .inr ⟨rfl, rfl⟩
          | text text => exact .inr ⟨rfl, rfl⟩

/-- Loading from a source that does not break leaves the others as they were. -/
theorem breaks_worldAfter_iff {w : World} {s : Source} (h : ¬ Breaks w s) (t : Source) :
    Breaks (s.worldAfter w) t ↔ Breaks w t := by
  -- what breaks is told by what is loaded, and only the input may be another one afterwards
  rcases textIn_worldAfter w s t with hsame | ⟨rfl, hnone⟩
  · rw [← textIn_unreckoned_iff "", ← textIn_unreckoned_iff "", hsame]
  · have hafter : ¬ Breaks (s.worldAfter w) .input := by
      rw [← textIn_unreckoned_iff "", hnone]
      exact Bool.noConfusion
    refine iff_of_false hafter fun hbreaks => ?_
    cases s with
    | input => exact h hbreaks
    | web url => exact hafter hbreaks
    | file path => exact hafter hbreaks

end ApiTools.Source
