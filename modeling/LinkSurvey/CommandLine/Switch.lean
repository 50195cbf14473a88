/-!
What can be given on the command line.
-/

namespace LinkSurvey

/-- Where the list of links goes. -/
inductive OutputFormat where
  | console
  | json
  | text
  deriving DecidableEq, Repr

def OutputFormat.name : OutputFormat → String
  | .console => "console"
  | .json => "json"
  | .text => "text"

def OutputFormat.all : List OutputFormat := [.console, .json, .text]

def OutputFormat.about : OutputFormat → String
  | .console => "One URL per line on stdout"
  | .json => "JSON array of strings in a file"
  | .text => "Newline-delimited URLs in a file"

def OutputFormat.ofName? (name : String) : Option OutputFormat :=
  all.find? (·.name == name)

namespace CommandLine

/-- The targets, which have no name, and all options. -/
inductive Switch where
  | targets
  | file
  | output
  | outputFile
  | report
  | timeout
  | maxRetries
  | rateLimit
  | userAgent
  | concurrency
  | parallel
  | verbose
  | quiet
  | noBanner
  | help
  | version
  deriving DecidableEq, Repr

namespace Switch

/-- All options, in the order in which they are explained. -/
def options : List Switch := [
  .file, .output, .outputFile, .report, .timeout, .maxRetries, .rateLimit, .userAgent, .concurrency,
  .parallel, .verbose, .quiet, .noBanner, .help, .version]

def name : Switch → String
  | targets => "targets"
  | file => "file"
  | output => "output"
  | outputFile => "output-file"
  | report => "report"
  | timeout => "timeout"
  | maxRetries => "max-retries"
  | rateLimit => "rate-limit"
  | userAgent => "user-agent"
  | concurrency => "concurrency"
  | parallel => "parallel"
  | verbose => "verbose"
  | quiet => "quiet"
  | noBanner => "no-banner"
  | help => "help"
  | version => "version"

/-- The one-letter names. -/
def letter? : Switch → Option Char
  | file => some 'f'
  | output => some 'o'
  | parallel => some 'p'
  | verbose => some 'v'
  | quiet => some 'q'
  | help => some 'h'
  | version => some 'V'
  | _ => none

/-- Whether an option is followed by a value. -/
def takesValue : Switch → Bool
  | verbose | quiet | noBanner | help | version => false
  | _ => true

/-- What stands for the value of an option: its name in capitals. -/
def placeholder (s : Switch) : String :=
  String.ofList (s.name.toList.map fun c => if c = '-' then '_' else c.toUpper)

/-- How a switch is referred to. -/
def display : Switch → String
  | targets => "<TARGETS>..."
  | s =>
    if s.takesValue then "--" ++ s.name ++ " <" ++ s.placeholder ++ ">" else "--" ++ s.name

def default? : Switch → Option String
  | output => some "console"
  | timeout => some "30"
  | maxRetries => some "2"
  | rateLimit => some "10"
  | concurrency => some "8"
  | parallel => some "1"
  | _ => none

/-- What a switch is for; the explanation of `help` depends on which of its two forms is shown. -/
def about : Switch → String
  | targets => "Target URL(s) to analyze"
  | file => "File containing URLs to analyze (one per line)"
  | output => "Output format"
  | outputFile => "Output file for json/text formats (defaults to output.json / output.text)"
  | report => "Write per-page reports (scripts, parse status, errors) as JSON"
  | timeout => "Request timeout in seconds"
  | maxRetries => "Maximum retries for failed requests"
  | rateLimit => "Rate limit (requests per second)"
  | userAgent => "Custom User-Agent string"
  | concurrency => "Scripts fetched concurrently per page"
  | parallel => "Number of targets to scan in parallel"
  | verbose => "Enable verbose output"
  | quiet => "Quiet mode: print only the URLs"
  | noBanner => "Do not print the banner"
  | help => "Print help"
  | version => "Print version"

def ofName? (name : List Char) : Option Switch :=
  options.find? (·.name.toList == name)

def ofLetter? (c : Char) : Option Switch :=
  options.find? (·.letter? == some c)

end Switch

end CommandLine

end LinkSurvey
