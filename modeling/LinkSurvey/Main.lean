import LinkSurvey.Session

/-!
The program. It looks at the files that its settings name, runs a session on them, and writes those that
the session changed. It opens no connections of its own.
-/

namespace LinkSurvey

/-- The path of a place. -/
def Place.path (p : Place) : String :=
  "/" ++ "/".intercalate (p.map String.ofList)

/-- Add what stands at a place to what is known of the folder. -/
def Folder.look (folder : Folder) (p : Place) : IO Folder := do
  let path := (← IO.currentDir) / Place.path p
  if ← path.isDir then return { folder with folders := p :: folder.folders }
  if ← path.pathExists then
    let bytes := (← IO.FS.readBinFile path).toList
    return { folder with files := Folder.put p bytes folder.files }
  return folder

/-- Look at all places on the way to a path. -/
def Folder.explore (folder : Folder) (path : String) : IO Folder := do
  let start := if path.startsWith "/" then [] else folder.current
  let step := fun (state : Place × Folder) (name : List Char) => do
    let here := Folder.step state.1 name
    return (here, ← state.2.look here)
  return (← (Folder.names path.toList).foldlM step (start, folder)).2

/-- The files that a session has made or changed. -/
def Session.changes (before : Folder) (session : Session) : List (Place × List UInt8) :=
  session.folder.files.filter fun f => before.files.lookup f.1 != some f.2

def Session.commit (before : Folder) (session : Session) : IO Unit :=
  for (p, bytes) in session.changes before do
    IO.FS.writeBinFile ((← IO.currentDir) / Place.path p) (ByteArray.mk bytes.toArray)

/-- The files that settings name. -/
def Settings.paths (s : Settings) : List String :=
  s.file.toList ++ s.report.toList ++ s.outputPath?.toList

end LinkSurvey

open LinkSurvey in
def main (args : List String) : IO UInt32 := do
  let fromEnvironment ← IO.getEnv CommandLine.userAgentVariable
  let paths := match CommandLine.read fromEnvironment args with
    | .ok settings => settings.paths
    | .error _ => []
  let here : Folder := { current := Folder.names (← IO.currentDir).toString.toList }
  let folder ← paths.foldlM Folder.explore here
  let session := Session.ofArguments fromEnvironment args folder .unreachable
  session.commit folder
  IO.eprint session.stderr
  IO.print session.stdout
  return session.exitCode
