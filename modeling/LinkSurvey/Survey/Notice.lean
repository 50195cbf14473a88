import LinkSurvey.Survey.Outcome

/-!
What a survey tells while it is under way, and the notes on what it leaves out.
-/

namespace LinkSurvey.Survey

/-- What a survey tells while it is under way. -/
inductive Notice where
  | start (target : String)
  | progress (message : String)
  | note (note : Note)
  | done (report : TimedReport)

/-- Notes on candidates that cannot be resolved. -/
def unresolvable (options : Options) (base : Url) (candidates : List (List Char)) : List Note :=
  if options.detailed then
    candidates.filterMap fun c =>
      match Gate.normalize base c with
      | .error (.unresolvable e) =>
        some ⟨.detail, "Dropping unresolvable candidate " ++ Text.quotedText (String.ofList c)
          ++ ": " ++ e.message⟩
      | _ => none
  else []

/-- Notes on scripts whose source does not pass the gate. -/
def unfetched (options : Options) (base : Url) (scripts : List Markup.Script) : List Note :=
  if options.detailed then
    scripts.filterMap fun script =>
      match script with
      | .inline _ => none
      | .external source =>
        match Gate.normalize base source with
        | .error r =>
          some ⟨.detail, "Not fetching script " ++ Text.quotedText (String.ofList source) ++ ": "
            ++ r.message⟩
        | .ok _ => none
  else []

def notesAt (time : Nat) (notes : List Note) : List (Dated Notice) :=
  notes.map fun n => ⟨time, .note n⟩

end LinkSurvey.Survey
