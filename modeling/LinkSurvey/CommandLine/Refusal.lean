import LinkSurvey.CommandLine.Numeral
import LinkSurvey.CommandLine.Similarity
import LinkSurvey.CommandLine.Usage

/-!
Why a command line leads to no run, and what is said instead. Asking for help or the version is one of
the reasons, but no fault.
-/

namespace LinkSurvey.CommandLine

inductive Refusal where
  | help (form : HelpForm)
  | version
  | missingTargets (used : List Switch)
  | unknown (argument : List Char) (similar : Option Switch) (used : List Switch)
  | unexpectedValue (value : List Char) (switch : Switch) (used : List Switch)
  | repeated (switch : Switch)
  | missingValue (switch : Switch)
  | notAFormat (value : List Char)
  | notANumber (switch : Switch) (value : String) (fault : NumeralFault)
  deriving DecidableEq, Repr

/-- Zero if the user got what was asked for. -/
def Refusal.exitCode : Refusal → UInt32
  | .help _ | .version => 0
  | _ => 2

def formatNote : String :=
  "\n  [possible values: " ++ choices ++ "]"

/-- A tip on what may have been meant. -/
def tip (text : String) : String :=
  "\n\n  tip: " ++ text

/-- What is wrong, without the hint at the help. -/
def Refusal.complaint : Refusal → String
  | .help _ => ""
  | .version => ""
  | .missingTargets used =>
    "the following required arguments were not provided:\n  " ++ Switch.targets.display
      ++ "\n\n" ++ usage used
  | .unknown argument similar used =>
    let argument := String.ofList argument
    "unexpected argument '" ++ argument ++ "' found"
      ++ (match similar with
        | some s => tip ("a similar argument exists: '--" ++ s.name ++ "'")
        | none => tip ("to pass '" ++ argument ++ "' as a value, use '-- " ++ argument ++ "'"))
      ++ "\n\n" ++ usage used
  | .unexpectedValue value switch used =>
    "unexpected value '" ++ String.ofList value ++ "' for '" ++ switch.display
      ++ "' found; no more were expected\n\n" ++ usage used
  | .repeated switch =>
    "the argument '" ++ switch.display ++ "' cannot be used multiple times\n\n" ++ usage []
  | .missingValue switch =>
    "a value is required for '" ++ switch.display ++ "' but none was supplied"
      ++ (if switch = .output then formatNote else "")
  | .notAFormat value =>
    "invalid value '" ++ String.ofList value ++ "' for '" ++ Switch.output.display ++ "'" ++ formatNote
      ++ ((closest? (fun f : OutputFormat => f.name.toList) value OutputFormat.all).elim "" fun f =>
        tip ("a similar value exists: '" ++ f.name ++ "'"))
  | .notANumber switch value fault =>
    "invalid value '" ++ value ++ "' for '" ++ switch.display ++ "': " ++ fault.message

/-- All that is said; `fromEnvironment` is the value of the environment variable that the help shows. -/
def Refusal.message (fromEnvironment : Option String) : Refusal → String
  | .help form => helpText form fromEnvironment
  | .version => versionText
  | refusal => "error: " ++ refusal.complaint ++ "\n\nFor more information, try '--help'.\n"

end LinkSurvey.CommandLine
