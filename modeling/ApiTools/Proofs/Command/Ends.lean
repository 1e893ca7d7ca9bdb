import ApiTools.Command.Run
import ApiTools.Proofs.Source

set_option autoImplicit false

/-!
# How commands end in a world

Run in a world, a part of a command gives a result or stops, and adds a text to the output
(`Gives`). What is said to the user goes to the other channel, so it neither adds anything nor
changes what is loaded afterwards. A command that is done exits with the code for success and a
command that was stopped with the code of its stop.
-/

namespace ApiTools

/-! ## What is printed -/

namespace World

theorem written_print (w : World) (c d : Channel) (text : String) :
    ({ w with printed := w.printed ++ [(c, text)] } : World).written d
      = w.written d ++ if c = d then text else "" := by
  unfold written
  rw [List.filter_append, List.map_append, String.join_append]
  congr 1
  by_cases h : c = d <;> simp [h]

/-- The second world is the first one after something was said to the user. -/
structure Hears (w w' : World) : Prop where
  same : w' = { w with printed := w'.printed }
  output : w'.written .out = w.written .out

theorem Hears.refl (w : World) : Hears w w := ⟨rfl, rfl⟩

theorem Hears.trans {w w' w'' : World} (h : Hears w w') (h' : Hears w' w'') : Hears w w'' := by
  refine ⟨?_, h'.output.trans h.output⟩
  rw [h'.same, h.same]

end World

open World (Hears)

namespace Console

theorem hears_tell (k : Console) (m : Message) (w : World) :
    Hears w ((k.tell m).run w).2 := by
  unfold tell
  split
  · refine ⟨rfl, ?_⟩
    show ({ w with printed := w.printed ++ [(Channel.err, _)] } : World).written .out = _
    rw [World.written_print, if_neg (by decide), String.append_empty]
  · exact Hears.refl w

theorem hears_tellAll (k : Console) (ms : List Message) (w : World) :
    Hears w ((k.tellAll ms).run w).2 := by
  induction ms generalizing w with
  | nil => exact Hears.refl w
  | cons m ms ih =>
      unfold tellAll
      rw [Action.run_seq]
      exact (k.hears_tell m w).trans (ih _)

theorem hears_log (k : Console) (notes : List Log.Note) (w : World) :
    Hears w ((k.log notes).run w).2 := k.hears_tellAll _ w

variable (d : Drawing) (k : Console)

/-- The text of a value as it is printed. -/
def jsonText (v : Value) : String :=
  match k.format with
  | .rich => d.json (Json.write Json.indented v)
  | .json | .plain => Json.write Json.indented v ++ "\n"

theorem written_say_out (text : String) (w : World) :
    ((Action.say .out text).run w).2.written .out = w.written .out ++ text := by
  show ({ w with printed := w.printed ++ [(Channel.out, _)] } : World).written .out = _
  rw [World.written_print, if_pos rfl]

theorem written_json (v : Value) (w : World) :
    ((k.json d v).run w).2.written .out = w.written .out ++ k.jsonText d v := by
  unfold json jsonText
  cases k.format <;> exact written_say_out _ w

end Console

namespace Source

theorem textIn_of_hears {w w' : World} (h : Hears w w') (s : Source) :
    s.textIn w' = s.textIn w := by
  rw [h.same]
  cases s <;> rfl

theorem load_of_hears {w w' : World} (h : Hears w w') (name : String) :
    ((load name).run w').1 = ((load name).run w).1 := by
  rw [run_load, run_load, textIn_of_hears h]

theorem written_load (name : String) (w : World) :
    ((load name).run w).2.written .out = w.written .out := by
  rw [run_load]
  cases ofText name <;> rfl

end Source

namespace Command

variable {α β : Type}

/-! ## Parts of commands -/

/-- Run in a world, a part of a command has a result, or a reason to stop, and adds a text to the
output. -/
structure Gives (x : Run α) (w : World) (r : Except Stop α) (text : String) : Prop where
  result : (x.run.run w).1 = r
  output : (x.run.run w).2.written .out = w.written .out ++ text

theorem run_bind_ok {x : Run α} {w : World} {a : α} (h : (x.run.run w).1 = .ok a)
    (f : α → Run β) : (x >>= f).run.run w = (f a).run.run (x.run.run w).2 := by
  show (Action.bind x.run (ExceptT.bindCont f)).run w = _
  rw [Action.run_bind, h]
  rfl

theorem run_bind_error {x : Run α} {w : World} {s : Stop} (h : (x.run.run w).1 = .error s)
    (f : α → Run β) : (x >>= f).run.run w = (.error s, (x.run.run w).2) := by
  show (Action.bind x.run (ExceptT.bindCont f)).run w = _
  rw [Action.run_bind, h]
  rfl

theorem Gives.bind {x : Run α} {f : α → Run β} {w : World} {a : α} {r : Except Stop β}
    {s t : String} (hx : Gives x w (.ok a) s) (hf : Gives (f a) (x.run.run w).2 r t) :
    Gives (x >>= f) w r (s ++ t) := by
  have hrun := run_bind_ok hx.result f
  constructor
  · rw [hrun, hf.result]
  · rw [hrun, hf.output, hx.output, String.append_assoc]

/-- A part that adds nothing to the output before another one. -/
theorem Gives.bind_silent {x : Run α} {f : α → Run β} {w : World} {a : α} {r : Except Stop β}
    {t : String} (hx : Gives x w (.ok a) "") (hf : Gives (f a) (x.run.run w).2 r t) :
    Gives (x >>= f) w r t := by
  have h := hx.bind hf
  rwa [String.empty_append] at h

/-- A part that leaves the world as it is before another one. -/
theorem Gives.bind_here {x : Run α} {f : α → Run β} {w : World} {a : α} {r : Except Stop β}
    {t : String} (hx : x.run.run w = (.ok a, w)) (hf : Gives (f a) w r t) :
    Gives (x >>= f) w r t := by
  refine Gives.bind_silent (a := a) ⟨by rw [hx], by rw [hx, String.append_empty]⟩ ?_
  rwa [hx]

theorem Gives.bind_error {x : Run α} {w : World} {e : Stop} {s : String}
    (hx : Gives x w (.error e) s) (f : α → Run β) : Gives (x >>= f) w (.error e) s := by
  have hrun := run_bind_error hx.result f
  constructor
  · rw [hrun]
  · rw [hrun, hx.output]

theorem gives_pure (a : α) (w : World) : Gives (pure a) w (.ok a) "" :=
  ⟨rfl, String.append_empty.symm⟩

theorem gives_stop (s : Stop) (w : World) : Gives (Run.stop s : Run α) w (.error s) "" :=
  ⟨rfl, String.append_empty.symm⟩

theorem run_act (x : Action α) (w : World) :
    (Run.act x).run.run w = (.ok (x.run w).1, (x.run w).2) := by
  show (Action.bind x fun a => Action.done (Except.ok a)).run w = _
  rw [Action.run_bind]
  rfl

theorem gives_act {x : Action α} {w : World} {t : String}
    (h : (x.run w).2.written .out = w.written .out ++ t) :
    Gives (Run.act x) w (.ok (x.run w).1) t :=
  ⟨by rw [run_act], by rw [run_act, h]⟩

theorem run_orStop {ε : Type} (x : Action (Except ε α)) (why : ε → Stop) (w : World) :
    (Run.orStop x why).run.run w = ((x.run w).1.mapError why, (x.run w).2) := by
  show (Action.bind x fun r => .done (r.mapError why)).run w = _
  rw [Action.run_bind]
  rfl

theorem gives_orStop {ε : Type} {x : Action (Except ε α)} {w : World} (why : ε → Stop)
    (h : (x.run w).2.written .out = w.written .out) :
    Gives (Run.orStop x why) w ((x.run w).1.mapError why) "" :=
  ⟨by rw [run_orStop], by rw [run_orStop, h, String.append_empty]⟩

theorem gives_noted {ε : Type} (k : Console) (r : Except ε α × List Log.Note) (why : ε → Stop)
    (w : World) : Gives (Run.noted k r why) w (r.1.mapError why) "" := by
  -- what is noted goes to the user, and leaves the result as it is
  have hrun : ((k.log r.2).bind fun _ => Action.done r.1).run w
      = (r.1, ((k.log r.2).run w).2) := by
    rw [Action.run_bind]
    rfl
  have h := gives_orStop (x := (k.log r.2).bind fun _ => Action.done r.1) (w := w) why
    (by rw [hrun, (k.hears_log r.2 w).output])
  rwa [hrun] at h

theorem gives_orStopNoted {ε : Type} (k : Console) {x : Action (Except ε α × List Log.Note)}
    (why : ε → Stop) {w : World} (h : (x.run w).2.written .out = w.written .out) :
    Gives (Run.orStopNoted k x why) w ((x.run w).1.1.mapError why) "" := by
  have hrun : (Run.orStopNoted k x why).run.run w
      = (Run.noted k (x.run w).1 why).run.run (x.run w).2 := by
    show (Action.bind x fun r => (Run.noted k r why).run).run w = _
    rw [Action.run_bind]
  have hn := gives_noted k (x.run w).1 why (x.run w).2
  exact ⟨by rw [hrun, hn.result], by rw [hrun, hn.output, h]⟩

theorem gives_tellAll (k : Console) (ms : List Message) (w : World) :
    Gives (Run.act (k.tellAll ms)) w (.ok ()) "" :=
  gives_act (by rw [(k.hears_tellAll ms w).output, String.append_empty])

theorem gives_tell (k : Console) (m : Message) (w : World) :
    Gives (Run.tell k m) w (.ok ()) "" :=
  gives_act (by rw [(k.hears_tell m w).output, String.append_empty])

theorem hears_tell (k : Console) (m : Message) (w : World) :
    Hears w ((Run.tell k m).run.run w).2 := by
  unfold Run.tell
  rw [run_act]
  exact k.hears_tell m w

theorem gives_print {x : Except Value.Flaw Value} {v : Value} (h : x = .ok v) (e : Equipment)
    (k : Console) (w : World) : Gives (Run.print e k x) w (.ok ()) (k.jsonText e.drawing v) := by
  rw [h]
  exact gives_act (k.written_json e.drawing v w)

theorem gives_print_error {x : Except Value.Flaw Value} {f : Value.Flaw} (h : x = .error f)
    (e : Equipment) (k : Console) (w : World) :
    Gives (Run.print e k x) w (.error (.ofFlaw f)) "" := by
  rw [h]
  exact gives_stop _ w

section

variable {e : Equipment} {k : Console} {title : String} {headers : List String}
  {rows : List (List String)}

theorem gives_table {text : String}
    (h : k.tableText e.drawing (some title) headers rows = .ok text) (w : World) :
    Gives (Run.table e k title headers rows) w (.ok ()) text := by
  unfold Run.table Console.table
  rw [h]
  constructor
  · rw [run_orStop]
    rfl
  · rw [run_orStop]
    exact Console.written_say_out text w

theorem gives_table_error {cause : String}
    (h : k.tableText e.drawing (some title) headers rows = .error cause) (w : World) :
    Gives (Run.table e k title headers rows) w (.error (.crashed cause)) "" := by
  unfold Run.table Console.table
  rw [h]
  exact gives_orStop .crashed rfl

end

/-! ## Exit codes -/

/-- The exit code of a command that was stopped. -/
def Stop.code : Stop → Nat
  | failed _ code => code
  | ended code => code
  | crashed _ => failureCode

theorem code_finish (k : Console) (s : Stop) (w : World) : ((s.finish k).run w).1 = s.code := by
  cases s with
  | failed message code =>
      unfold Stop.finish
      rw [Action.run_seq]
      rfl
  | ended code => rfl
  | crashed cause =>
      unfold Stop.finish
      rw [Action.run_seq]
      cases ((Crash.record (cause ++ "\n")).run w).1 with
      | ok log => dsimp only; rw [Action.run_seq]; rfl
      | error reason => dsimp only; rw [Action.run_seq]; rfl

/-- A command that is done exits with the code for success. -/
theorem finish_of_gives {k : Console} {x : Run Unit} {w : World} {t : String}
    (h : Gives x w (.ok ()) t) :
    ((finish k x).run w).1 = successCode ∧
      ((finish k x).run w).2.written .out = w.written .out ++ t := by
  have hrun : (finish k x).run w = (successCode, (x.run.run w).2) := by
    unfold finish
    rw [Action.run_bind, h.result]
    rfl
  exact ⟨by rw [hrun], by rw [hrun, h.output]⟩

/-- A command that was stopped exits with the code of its stop. -/
theorem finish_of_gives_error {k : Console} {x : Run Unit} {w : World} {s : Stop} {t : String}
    (h : Gives x w (.error s) t) : ((finish k x).run w).1 = s.code := by
  unfold finish
  rw [Action.run_bind, h.result]
  exact code_finish k s _

end Command

end ApiTools
