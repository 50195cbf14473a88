import LinkSurvey.ParseStatus
import LinkSurvey.Script.Parser
import LinkSurvey.Script.Visitor

/-!
What a script holds for a survey: the addresses among its literals. A script is read as a module, and
only if that fails as a classic script, since old code may be written in a way that modules refuse.
-/

namespace LinkSurvey.Script

structure Scan where
  candidates : List String
  status : ParseStatus
  faults : Nat
  deriving DecidableEq, Repr

def Scan.ofParse (tree : Node) (faults : List Fault) : Scan :=
  ⟨visit tree, .ofErrorCount faults.length, faults.length⟩

def scan (source : List Char) : Scan :=
  match Parser.parse .module source with
  | .ok (tree, faults) => .ofParse tree faults
  | .error _ =>
    match Parser.parse .classic source with
    | .ok (tree, faults) => .ofParse tree faults
    | .error faults => ⟨[], .failed, faults.length⟩

end LinkSurvey.Script
