import MeshDoctor.Inquiry.Request
import MeshDoctor.Text.Radix

/-!
# Reports — the log

* `escapeControls`: a text whose control characters cannot command a terminal.
* `logLine`: what is logged, with its level and the part of the program that says it.
-/

namespace MeshDoctor

/-- The word for a level. -/
def Level.word : Level → String
  | .info => "INFO"
  | .warn => "WARN"
  | .error => "ERROR"

/-- The name of a part of the program. -/
def Speaker.name : Speaker → String
  | .command => "osm_doctor"
  | .bundle => "osm_doctor::bundle"

/-- How a character is logged. Those that start commands of a terminal are named by their codes;
line ends, tabs and carriage returns stay. -/
def escapeControl (c : Char) : List Char :=
  if c.toNat < 0x80 then
    if [7, 8, 12, 27, 127].contains c.toNat then
      "\\x".toList ++ [Text.hexDigit (c.toNat / 16), Text.hexDigit (c.toNat % 16)]
    else [c]
  else if c.toNat < 0xA0 then
    "\\u\x7b".toList ++ [Text.hexDigit (c.toNat / 16), Text.hexDigit (c.toNat % 16)] ++ ['}']
  else [c]

/-- A text whose control characters cannot command a terminal. -/
def escapeControls (text : String) : String :=
  String.ofList (text.toList.flatMap escapeControl)

/-- What is logged. -/
def logLine (level : Level) (speaker : Speaker) (text : String) : String :=
  level.word ++ " " ++ speaker.name ++ ": " ++ escapeControls text

end MeshDoctor
