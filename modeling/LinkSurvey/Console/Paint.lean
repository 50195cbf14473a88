/-!
Colours and weights of text on a terminal. A style is switched on before a text and all styles are
switched off after it.
-/

namespace LinkSurvey.Console

/-- The styles in use, by their numbers on a terminal. -/
inductive Paint where
  | red
  | green
  | boldGreen
  | yellow
  | cyan
  | brightBlue
  | brightCyan
  | brightWhite
  | dimmed
  deriving DecidableEq, Repr

def Paint.code : Paint → String
  | .red => "31"
  | .green => "32"
  | .boldGreen => "1;32"
  | .yellow => "33"
  | .cyan => "36"
  | .brightBlue => "94"
  | .brightCyan => "96"
  | .brightWhite => "97"
  | .dimmed => "2"

def Paint.on (p : Paint) : List Char :=
  ['\x1b', '['] ++ p.code.toList ++ ['m']

def off : List Char :=
  ['\x1b', '[', '0', 'm']

/-- Switch a style on again wherever a text switches all styles off. -/
def restyled (on : List Char) : List Char → List Char
  | [] => []
  | '\x1b' :: '[' :: '0' :: 'm' :: cs => off ++ on ++ restyled on cs
  | c :: cs => c :: restyled on cs

/-- A text in a style, or as it is where there are no colours. -/
def Paint.apply (p : Paint) (color : Bool) (text : String) : String :=
  if color then String.ofList (p.on ++ restyled p.on text.toList ++ off) else text

end LinkSurvey.Console
