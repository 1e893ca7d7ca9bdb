import ApiTools.Action.Basic

set_option autoImplicit false

/-!
# Replacing a file

A file is replaced in one go: the text is written to a temporary file beside it, which then gets
its name. If a step fails, the temporary file is closed and removed, and the reason is told.
-/

namespace ApiTools.Action

def takeAll (target : Path) : List WriteStep → Action (Attempt Unit)
  | [] => done (.ok ())
  | s :: rest =>
    step target s fun
      | .ok _ => takeAll target rest
      | .error reason => done (.error reason)

/-- Cleans up after a step failed for a reason. If the temporary file cannot be closed, it is
left, and that is the reason that is told. -/
def cleanUp (target : Path) (reason : String) : Action (Attempt Unit) :=
  step target .closeAgain fun
    | .error worse => done (.error worse)
    | .ok _ => step target .remove fun _ => done (.error reason)

/-- Removes the temporary file after it could not be renamed. -/
def dropTemporary (target : Path) (reason : String) : Action (Attempt Unit) :=
  step target .remove fun _ => done (.error reason)

/-- Replaces the file at a path that a disk takes by one with a given text. -/
def replaceAt (target : Path) (text : String) : Action (Attempt Unit) :=
  makeDirectories target.parent fun
    | .error reason => done (.error reason)
    | .ok _ => step target .create fun
      | .error reason => done (.error reason)
      | .ok _ => (takeAll target [.write text, .flush, .sync, .close]).bind fun
        | .error reason => cleanUp target reason
        | .ok _ => step target .rename fun
          | .error reason => dropTemporary target reason
          | .ok _ => done (.ok ())

/-- Why a file was not replaced. -/
inductive NotReplaced where
  /-- The disk refused, for a reason. -/
  | refused (reason : String)
  /-- No disk takes the path. -/
  | impossiblePath
  deriving Repr, DecidableEq

def replaceFile (target : Path) (text : String) : Action (Except NotReplaced Unit) :=
  if target.isPossible then (replaceAt target text).bind fun r => done (r.mapError .refused)
  else done (.error .impossiblePath)

end ApiTools.Action
