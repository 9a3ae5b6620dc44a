/-!
# Terminal styles

Text that a terminal shows in a colour or a weight: a control sequence switches the style on and
another one switches all styles off.
-/
namespace SchemaSdk.Report

/-- A style of terminal text. -/
inductive Style where
  | bold
  | dimmed
  | grey
  | cyan
  | boldGreen
  deriving DecidableEq

/-- The parameters of the control sequence for a style. -/
def Style.parameters : Style → String
  | bold => "1"
  | dimmed => "2"
  | grey => "90"
  | cyan => "36"
  | boldGreen => "1;32"

/-- The control sequence with some parameters. -/
def control (parameters : String) : String := "\x1b[" ++ parameters ++ "m"

/-- A text in a style if styles are on. -/
def styled (on : Bool) (s : Style) (text : String) : String :=
  if on then control s.parameters ++ text ++ control "0" else text

/-- When styles are used. -/
inductive ColorMode where
  | auto
  | always
  | never
  deriving DecidableEq

namespace ColorMode

/-- The mode with a name. -/
def ofName? : String → Option ColorMode
  | "auto" => some auto
  | "always" => some always
  | "never" => some never
  | _ => none

/-- How a mode is called. -/
def name : ColorMode → String
  | auto => "auto"
  | always => "always"
  | never => "never"

/-- Whether styles are used on an output that is, or is not, a terminal with colours. -/
def styles (onTerminal : Bool) : ColorMode → Bool
  | auto => onTerminal
  | always => true
  | never => false

end ColorMode
end SchemaSdk.Report
