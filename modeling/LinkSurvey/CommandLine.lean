import LinkSurvey.CommandLine.Refusal
import LinkSurvey.Settings

/-!
Reading the command line. Arguments are read one by one. What belongs to an option is kept until the
next option or the end, and only then looked at, so of two faults the one that is come upon first in
this way is told.
-/

namespace LinkSurvey.CommandLine

/-- An option or the targets, with the values seen for it so far. -/
structure Pending where
  switch : Switch
  values : List (List Char)

structure State where
  settings : Settings := {}
  /-- The switches given so far, each where it was first completed. -/
  given : List Switch := []
  pending : Option Pending := none
  /-- Whether the next argument is the value of the pending option. -/
  awaitsValue : Bool := false
  /-- Whether all other arguments are targets. -/
  onlyTargets : Bool := false

abbrev Reading := Except Refusal

def number (switch : Switch) (value : List Char) (read : List Char → Except NumeralFault Nat) :
    Reading Nat :=
  match read value with
  | .ok n => .ok n
  | .error (.outside n greatest) => .error (.notANumber switch (toString n) (.outside n greatest))
  | .error fault => .error (.notANumber switch (String.ofList value) fault)

def word64 (switch : Switch) (value : List Char) : Reading UInt64 :=
  (number switch value (unsigned (UInt64.size - 1))).map .ofNat

def word32 (switch : Switch) (value : List Char) : Reading UInt32 :=
  (number switch value (bounded (UInt32.size - 1))).map .ofNat

/-- A path has at least one character. -/
def path (switch : Switch) (value : List Char) : Reading (Option String) :=
  if value.isEmpty then .error (.missingValue switch) else .ok (some (String.ofList value))

def format (value : List Char) : Reading OutputFormat :=
  if value.isEmpty then .error (.missingValue .output)
  else
    match OutputFormat.ofName? (String.ofList value) with
    | some f => .ok f
    | none => .error (.notAFormat value)

/-- The settings with a value for an option that takes one. -/
def setValue (s : Settings) (switch : Switch) (value : List Char) : Reading Settings :=
  match switch with
  | .file => do return { s with file := ← path .file value }
  | .output => do return { s with output := ← format value }
  | .outputFile => do return { s with outputFile := ← path .outputFile value }
  | .report => do return { s with report := ← path .report value }
  | .timeout => do return { s with timeout := ← word64 .timeout value }
  | .maxRetries => do return { s with maxRetries := ← word32 .maxRetries value }
  | .rateLimit => do return { s with rateLimit := ← word32 .rateLimit value }
  | .userAgent => .ok { s with userAgent := some (String.ofList value) }
  | .concurrency => do return { s with concurrency := ← word64 .concurrency value }
  | .parallel => do return { s with parallel := ← word64 .parallel value }
  | _ => .ok s

/-- The settings with an option that takes no value. -/
def setFlag (s : Settings) : Switch → Settings
  | .verbose => { s with verbose := true }
  | .quiet => { s with quiet := true }
  | .noBanner => { s with noBanner := true }
  | _ => s

namespace State

def mark (s : State) (switch : Switch) : State :=
  if s.given.any (· == switch) then s else { s with given := s.given ++ [switch] }

/-- Complete a switch with its values. -/
def complete (s : State) (switch : Switch) (values : List (List Char)) : Reading State :=
  match switch with
  | .targets =>
    .ok ({ s with settings :=
      { s.settings with targets := s.settings.targets ++ values.map String.ofList } }.mark .targets)
  | switch =>
    match values with
    | [] => .error (.missingValue switch)
    | value :: _ =>
      if s.given.any (· == switch) then .error (.repeated switch)
      else do return { s with settings := ← setValue s.settings switch value }.mark switch

/-- Complete what is pending. -/
def settle (s : State) : Reading State :=
  match s.pending with
  | none => .ok s
  | some p => { s with pending := none }.complete p.switch p.values

/-- An option that takes no value. -/
def flag (s : State) (form : HelpForm) (switch : Switch) : Reading State := do
  let s := { (← s.settle) with awaitsValue := false }
  match switch with
  | .help => .error (.help form)
  | .version => .error .version
  | switch =>
    if s.given.any (· == switch) then .error (.repeated switch)
    else return { s with settings := setFlag s.settings switch }.mark switch

/-- An option whose value is attached to it. -/
def attached (s : State) (switch : Switch) (value : List Char) : Reading State := do
  State.complete { (← s.settle) with awaitsValue := false } switch [value]

/-- An option whose value comes with the next argument. -/
def expect (s : State) (switch : Switch) : Reading State := do
  return { (← s.settle) with pending := some ⟨switch, []⟩, awaitsValue := true }

/-- A value for the pending option. -/
def supply (s : State) (value : List Char) : State :=
  { s with
    pending := s.pending.map fun p => { p with values := p.values ++ [value] }
    awaitsValue := false }

/-- A target. Targets in a row are completed together. -/
def target (s : State) (value : List Char) : Reading State :=
  match s.pending with
  | some ⟨.targets, values⟩ => .ok { s with pending := some ⟨.targets, values ++ [value]⟩ }
  | _ => do return { (← s.settle) with pending := some ⟨.targets, [value]⟩ }

/-- An unknown option by its full name. Usage shows what was given, and what may have been meant. -/
def unknownName (s : State) (name : List Char) : Refusal :=
  let similar := closest? (fun w : Switch => w.name.toList) name Switch.options
  .unknown (['-', '-'] ++ name) similar (s.given ++ similar.toList)

/-- An option by its full name, perhaps with a value after an equals sign. -/
def long (s : State) (body : List Char) : Reading State :=
  let name := body.takeWhile (· != '=')
  match Switch.ofName? name, body.dropWhile (· != '=') with
  | none, _ => .error (s.unknownName name)
  | some switch, [] => if switch.takesValue then s.expect switch else s.flag .long switch
  | some switch, _ :: value =>
    if switch.takesValue then s.attached switch value
    else .error (.unexpectedValue value switch (s.given ++ [switch]))

/-- Options by their letters. The rest after one that takes a value is its value. -/
def letters (s : State) : List Char → Reading State
  | [] => .ok s
  | c :: cs =>
    match Switch.ofLetter? c with
    | none => .error (.unknown ['-', c] none [])
    | some switch =>
      if switch.takesValue then
        match cs with
        | [] => s.expect switch
        | '=' :: value => s.attached switch value
        | value => s.attached switch value
      else do (← s.flag .short switch).letters cs

/-- One argument. -/
def argument (s : State) (arg : List Char) : Reading State :=
  if s.onlyTargets then s.target arg
  else
    match arg with
    | ['-', '-'] => .ok { s with onlyTargets := true }
    | '-' :: '-' :: body => s.long body
    | '-' :: c :: cs => s.letters (c :: cs)
    | _ => if s.awaitsValue then .ok (s.supply arg) else s.target arg

/-- The user agent from the environment, unless one was given. -/
def withEnvironment (s : State) (fromEnvironment : Option String) : State :=
  match fromEnvironment, s.given.any (· == .userAgent) with
  | some value, false =>
    { s with settings := { s.settings with userAgent := some value } }.mark .userAgent
  | _, _ => s

/-- There have to be targets, or a file with them. -/
def conclude (s : State) : Reading Settings :=
  if s.given.any fun w => w == .targets || w == .file then .ok s.settings
  else .error (.missingTargets (s.given ++ [.targets]))

end State

/-- The settings that the arguments and the environment variable for the user agent ask for. -/
def read (fromEnvironment : Option String) (args : List String) : Reading Settings := do
  let s ← args.foldlM (fun s arg => s.argument arg.toList) ({} : State)
  ((← s.settle).withEnvironment fromEnvironment).conclude

end LinkSurvey.CommandLine
