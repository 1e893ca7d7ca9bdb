import ApiTools.Command.Request

set_option autoImplicit false

/-!
# Command lines with a document

A word is an argument if it does not begin with a dash or is only a dash, which names the input.
So the command lines that name a document in this way, and nothing but what they have to, ask for
what they look like.
-/

namespace ApiTools.Command

/-- A word that cannot be taken for an option. -/
def IsArgument (w : String) : Prop := w = "-" ∨ w.toList.head? ≠ some '-'

namespace Arguments

theorem readFrom_argument {w : String} (h : IsArgument w) (rules : List OptionRule)
    (rest : List String) :
    readFrom rules true none (w :: rest)
      = (readFrom rules true none rest).map fun more => { more with words := w :: more.words } := by
  rcases h with rfl | h
  · rfl
  -- all words that are options begin with a dash
  rw [readFrom]
  split
  · next hw => simp [hw] at h
  · next hw => simp [hw] at h
  · next hw => simp [hw] at h
  · rfl

end Arguments

/-- What a command line asks for whose first word names a command. -/
theorem read_of_readChoice {line rest : List String} {a : Arguments} {verb : Verb} {task : Task}
    (hline : readChoice .program programRules Verb.ofName? line = .ok (a, verb, rest))
    (htask : readTask verb rest = .ok task) :
    Request.read line = .ok ⟨viewOf a, task⟩ := by
  unfold Request.read
  rw [hline]
  show (readTask verb rest).bind _ = _
  rw [htask]
  rfl

/-- What is to be shown by a command line whose first word names an aspect. -/
theorem readTask_inspect {aspect : Aspect} {line rest : List String} {a : Arguments}
    {r : InspectRequest}
    (hline : readChoice (.verb .inspect) Verb.inspect.rules Aspect.ofName? line
      = .ok (a, aspect, rest))
    (hr : readAspect aspect rest = .ok r) : readTask .inspect line = .ok (.inspect r) := by
  unfold readTask
  dsimp only
  rw [hline]
  show (readAspect aspect rest).bind _ = _
  rw [hr]
  rfl

theorem read_generate {source : String} (h : IsArgument source) :
    Request.read ["generate", source, "--stdout"]
      = .ok ⟨{}, .generate { source := source, settings := { toOutput := true } }⟩ := by
  have hwords : Arguments.read Verb.generate.rules true [source, "--stdout"]
      = .ok { options := [⟨"stdout", ""⟩], words := [source] } := by
    unfold Arguments.read
    rw [Arguments.readFrom_argument h]
    rfl
  have hline : readChoice .program programRules Verb.ofName? ["generate", source, "--stdout"]
      = .ok ({ words := ["generate", source, "--stdout"] }, .generate, [source, "--stdout"]) := rfl
  refine read_of_readChoice hline ?_
  unfold readTask
  dsimp only
  unfold readGenerate readWords
  rw [hwords]
  rfl

theorem read_inspectTools {source : String} (h : IsArgument source) :
    Request.read ["inspect", "tools", source] = .ok ⟨{}, .inspect (.tools source false)⟩ := by
  have hwords : Arguments.read Aspect.tools.rules true [source] = .ok { words := [source] } := by
    unfold Arguments.read
    rw [Arguments.readFrom_argument h]
    rfl
  have hline : readChoice .program programRules Verb.ofName? ["inspect", "tools", source]
      = .ok ({ words := ["inspect", "tools", source] }, .inspect, ["tools", source]) := rfl
  have hchoice : readChoice (.verb .inspect) Verb.inspect.rules Aspect.ofName? ["tools", source]
      = .ok ({ words := ["tools", source] }, .tools, [source]) := rfl
  refine read_of_readChoice hline (readTask_inspect hchoice ?_)
  unfold readAspect readWords
  rw [hwords]
  rfl

theorem read_inspectTool {source name : String} (h : IsArgument source) (hn : IsArgument name) :
    Request.read ["inspect", "tool", source, name]
      = .ok ⟨{}, .inspect (.tool source name none false)⟩ := by
  have hwords : Arguments.read Aspect.tool.rules true [source, name]
      = .ok { words := [source, name] } := by
    unfold Arguments.read
    rw [Arguments.readFrom_argument h, Arguments.readFrom_argument hn]
    rfl
  have hline : readChoice .program programRules Verb.ofName? ["inspect", "tool", source, name]
      = .ok ({ words := ["inspect", "tool", source, name] }, .inspect, ["tool", source, name]) :=
    rfl
  have hchoice : readChoice (.verb .inspect) Verb.inspect.rules Aspect.ofName?
      ["tool", source, name] = .ok ({ words := ["tool", source, name] }, .tool, [source, name]) :=
    rfl
  refine read_of_readChoice hline (readTask_inspect hchoice ?_)
  unfold readAspect readWords
  rw [hwords]
  rfl

end ApiTools.Command
