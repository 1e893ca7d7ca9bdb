import ApiTools.Value.Lenient
import ApiTools.Value.Record

set_option autoImplicit false

/-!
# Configuration

How tools are generated can be set in several layers: by the arguments of a command, by
environment variables, by a file of the project, and by defaults. A higher layer hides a lower
one, member by member; only what is left in the end has to make sense.
-/

namespace ApiTools

/-- How the tools of several documents are put together. -/
inductive MergeStrategy where
  /-- The tools of each document get a beginning of their own to their names. -/
  | separate
  /-- Names stay as they are. -/
  | combine
  deriving Repr, DecidableEq

namespace MergeStrategy

def all : List MergeStrategy := [separate, combine]

def name : MergeStrategy → String
  | separate => "namespace"
  | combine => "combine"

def ofName? (s : String) : Option MergeStrategy := all.find? (·.name == s)

def read? (v : Value) : Option MergeStrategy := v.asText?.bind ofName?

end MergeStrategy

structure Configuration where
  serverName : Option String := none
  baseUrl : Option String := none
  enhance : Bool := false
  templateDirectory : Option String := none
  mergePathParameters : Bool := false
  strict : Bool := false
  maxWorkers : Int := 4
  mergeStrategy : MergeStrategy := .separate

namespace Configuration

open Record

/-- The members of a layer. -/
abbrev Layer := List (String × Value)

/-- A layer above others: its members hide those below. -/
def Layer.above (upper : Layer) (lower : Members) : Members :=
  upper.foldl (fun ms (k, v) => Value.insertMember ms (.str k) v) lower

/-- Reads the number of workers, of which there has to be at least one. -/
def readWorkers? (v : Value) : Option Int :=
  v.readInt?.filter fun n => 1 ≤ n

/-- Reads a configuration; none if a member has a value that makes no sense. -/
def read? (ms : Members) : Option Configuration := do
  return {
    serverName := ← optional? ms "server_name" "server_name" Value.readText?
    baseUrl := ← optional? ms "base_url" "base_url" Value.readText?
    enhance := ← orElse? ms "enhance_descriptions" "enhance_descriptions" false Value.readBool?
    templateDirectory := ← optional? ms "template_dir" "template_dir" Value.readText?
    mergePathParameters :=
      ← orElse? ms "merge_path_parameters" "merge_path_parameters" false Value.readBool?
    strict := ← orElse? ms "strict" "strict" false Value.readBool?
    maxWorkers := ← orElse? ms "max_workers" "max_workers" 4 readWorkers?
    mergeStrategy :=
      ← orElse? ms "merge_strategy" "merge_strategy" .separate MergeStrategy.read? }

end Configuration

end ApiTools
