import LinkSurvey.Folder
import LinkSurvey.Settings
import LinkSurvey.Text.Blank

/-!
The targets of a run: those of the command line, then the lines of a file, without blank lines and
comments. A target without a scheme is taken for an `https` URL.
-/

namespace LinkSurvey.Targets

def hasScheme (target : List Char) : Bool :=
  "http://".toList.isPrefixOf target || "https://".toList.isPrefixOf target

def withScheme (target : List Char) : List Char :=
  let target := Text.trim target
  if hasScheme target then target else "https://".toList ++ target

/-- The pieces of a text between line feeds; `line` is the start of the first one in reverse. -/
def linesFrom (line : List Char) : List Char → List (List Char)
  | [] => [line.reverse]
  | c :: cs => if c = '\n' then line.reverse :: linesFrom [] cs else linesFrom (c :: line) cs

/-- The lines of a text that are neither blank nor comments, trimmed. -/
def ofText (text : List Char) : List (List Char) :=
  ((linesFrom [] text).map Text.trim).filter fun line => !line.isEmpty && line.head? != some '#'

/-- All targets that the settings ask for. -/
def load (folder : Folder) (settings : Settings) : Except FileError (List String) := do
  let listed ← match settings.file with
    | none => .ok []
    | some path => (folder.readText path.toList).map ofText
  return (settings.targets.map String.toList ++ listed).map fun t => String.ofList (withScheme t)

end LinkSurvey.Targets
