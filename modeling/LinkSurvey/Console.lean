import LinkSurvey.Console.Paint
import LinkSurvey.Decimal.Fixed
import LinkSurvey.Survey.Report

/-!
What a person at a terminal is told about a run. It goes beside the list of links and never into it.
-/

namespace LinkSurvey

structure Console where
  verbose : Bool := false
  quiet : Bool := false
  color : Bool := false

namespace Console

/-- The console of a program that talks to nobody. -/
def silent : Console := { quiet := true }

/-- A line unless the console is quiet. -/
def line (c : Console) (text : String) : String :=
  if c.quiet then "" else text ++ "\n"

def version : String := "0.1.0"

def bannerLines : List String := [
  "╔══════════════════════════════════════════════╗",
  "║  URLHARVEST v" ++ String.ofList (version.toList.rightpad 32 ' ') ++ "║",
  "║  URL extraction from HTML and JavaScript     ║",
  "╚══════════════════════════════════════════════╝"]

def banner (c : Console) : String :=
  c.line "" ++ String.join (bannerLines.map fun l => c.line (Paint.cyan.apply c.color l)) ++ c.line ""

/-- A message after a mark. -/
def marked (c : Console) (mark : Paint) (sign message : String) : String :=
  c.line (mark.apply c.color sign ++ " " ++ message)

def info (c : Console) (message : String) : String :=
  c.marked .brightBlue "[*]" message

def scanStart (c : Console) (target : String) : String :=
  c.info ("Scanning: " ++ Paint.brightWhite.apply c.color target)

/-- A message that only a verbose console shows. -/
def progress (c : Console) (message : String) : String :=
  if c.verbose then c.marked .dimmed "[.]" (Paint.dimmed.apply c.color message) else ""

def parseStatus (c : Console) : ParseStatus → String
  | .clean => Paint.green.apply c.color "clean"
  | .degraded errors =>
    Paint.yellow.apply c.color ("degraded (" ++ toString errors ++ " errors)")
  | .failed => Paint.red.apply c.color "failed"

def linkCount (c : Console) (urls : UrlSet) : String :=
  if urls.isEmpty then Paint.yellow.apply c.color "No URLs found."
  else Paint.boldGreen.apply c.color ("URLs found: " ++ toString urls.size)

def errorLines (c : Console) (errors : List String) : List String :=
  if errors.isEmpty then []
  else
    ["", Paint.yellow.apply c.color "Errors encountered:"]
      ++ errors.map fun e => "  - " ++ Paint.dimmed.apply c.color e

def summary (c : Console) (report : TimedReport) : String :=
  let lines :=
    ["", Paint.brightCyan.apply c.color "=== Extraction Summary ===",
      "  Target:    " ++ report.target,
      "  Duration:  " ++ Decimal.fixed 2 report.seconds ++ "s"]
    ++ (report.markup.toList.map fun s => "  Markup:    " ++ c.parseStatus s)
    ++ ["  Scripts:   " ++ toString report.scripts.length ++ " ("
          ++ toString report.failedScripts ++ " not scanned)",
        "  " ++ c.linkCount report.urls]
    ++ c.errorLines report.errors
    ++ [""]
  String.join (lines.map c.line)

/-- A bar for so many steps. -/
structure Bar where
  length : Nat
  message : String
  deriving DecidableEq, Repr

/-- There is no bar on a quiet console, nor for nothing to do. -/
def bar? (c : Console) (total : Nat) (message : String) : Option Bar :=
  if c.quiet || total == 0 then none else some ⟨total, message⟩

end Console

end LinkSurvey
