import LinkSurvey.CommandLine.Switch

/-!
How the program is used: a line of usage, which names the switches that matter at the moment, and the
help in its two forms.
-/

namespace LinkSurvey.CommandLine

def programName : String := "urlharvest"

def programVersion : String := "0.1.0"

def versionText : String :=
  programName ++ " " ++ programVersion ++ "\n"

/-- The environment variable with the default of the user agent. -/
def userAgentVariable : String := "URLHARVEST_USER_AGENT"

/-- Usage with the given switches, or in general if there are none. -/
def usage (used : List Switch) : String :=
  let options := (used.filter (· != .targets)).eraseDups
  "Usage: " ++ programName
    ++ (if used.isEmpty then " [OPTIONS]" else String.join (options.map fun s => " " ++ s.display))
    ++ (if used.any (· == .targets) then " <TARGETS>..." else " [TARGETS]...")

/-- The two forms of the help. -/
inductive HelpForm where
  | short
  | long
  deriving DecidableEq, Repr

def spaces (n : Nat) : String :=
  String.ofList (List.replicate n ' ')

/-- The names of an option with its value. -/
def heading (s : Switch) : String :=
  (match s.letter? with
    | some c => "  -" ++ String.singleton c ++ ", "
    | none => "      ") ++ s.display

/-- What is said of an option, but for its values. -/
def explanation (form : HelpForm) (s : Switch) : String :=
  s.about ++ match s, form with
    | .help, .short => " (see more with '--help')"
    | .help, .long => " (see a summary with '-h')"
    | _, _ => ""

def choices : String :=
  ", ".intercalate (OutputFormat.all.map OutputFormat.name)

/-- The value that an option has if it is not given. -/
def fallbackNote? (fromEnvironment : Option String) (s : Switch) : Option String :=
  match s, s.default? with
  | .userAgent, _ => some ("[env: " ++ userAgentVariable ++ "=" ++ fromEnvironment.getD "" ++ "]")
  | _, some value => some ("[default: " ++ value ++ "]")
  | _, none => none

/-- One line on an option. All explanations start in the same column. -/
def shortEntry (fromEnvironment : Option String) (s : Switch) : String :=
  let left := heading s
  left ++ spaces (35 - left.length) ++ explanation .short s
    ++ ((fallbackNote? fromEnvironment s).elim "" (" " ++ ·))
    ++ (if s = .output then " [possible values: " ++ choices ++ "]" else "") ++ "\n"

/-- The names of the formats, padded to the longest, with what they mean. -/
def choiceLines : String :=
  "\n" ++ spaces 10 ++ "Possible values:\n"
    ++ String.join (OutputFormat.all.map fun f =>
      spaces 10 ++ "- " ++ f.name ++ ":" ++ spaces (8 - f.name.length) ++ f.about ++ "\n")

/-- Several lines on an option, indented under its names. -/
def longEntry (fromEnvironment : Option String) (s : Switch) : String :=
  heading s ++ "\n" ++ spaces 10 ++ explanation .long s ++ "\n"
    ++ (if s = .output then choiceLines else "")
    ++ ((fallbackNote? fromEnvironment s).elim "" fun note =>
      spaces 10 ++ "\n" ++ spaces 10 ++ note ++ "\n")

/-- The help; `fromEnvironment` is the value of the environment variable. -/
def helpText (form : HelpForm) (fromEnvironment : Option String) : String :=
  "Extracts URLs from web pages and the JavaScript they load\n\n" ++ usage []
    ++ "\n\nArguments:\n  [TARGETS]..."
    ++ (match form with
      | .short => "  "
      | .long => "\n" ++ spaces 10)
    ++ Switch.targets.about ++ "\n\nOptions:\n"
    ++ (match form with
      | .short => String.join (Switch.options.map (shortEntry fromEnvironment))
      | .long => "\n".intercalate (Switch.options.map (longEntry fromEnvironment)))

end LinkSurvey.CommandLine
