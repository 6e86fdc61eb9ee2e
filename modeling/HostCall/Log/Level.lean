import HostCall.Error
import HostCall.Text.CaseMap

/-!
# Levels of severity

A level is a number; the named ones are spelled in capitals.
-/

namespace HostCall

abbrev Level := Int

namespace Level

def notSet : Level := 0
def debug : Level := 10
def info : Level := 20
def warning : Level := 30
def error : Level := 40
def critical : Level := 50

/-- Spellings of the named levels. -/
def spellings : List (Text × Level) := [("CRITICAL", critical), ("FATAL", critical),
  ("ERROR", error), ("WARN", warning), ("WARNING", warning), ("INFO", info), ("DEBUG", debug),
  ("NOTSET", notSet)]

def ofSpelling? (t : Text) : Option Level := spellings.lookup t

/-- The layout that records have by default. -/
def basicLayout : Text := "%(levelname)s:%(name)s:%(message)s"

/-- The table of layouts, as it is quoted. -/
def layoutTable : Text := Text.concat [
  "\x7b'%': (<class 'logging.PercentStyle'>, '", basicLayout,
  "'), '\x7b': (<class 'logging.StrFormatStyle'>, '",
  "\x7blevelname\x7d:\x7bname\x7d:\x7bmessage\x7d",
  "'), '$': (<class 'logging.StringTemplateStyle'>, '",
  "$\x7blevelname\x7d:$\x7bname\x7d:$\x7bmessage\x7d')\x7d"]

/-- The level that a text names in any case; any other text means warning.  Two words name a
layout and the table of layouts, which are no levels. -/
def ofSetting (t : Text) : Except HostError Level :=
  let word := t.upper
  match ofSpelling? word with
  | some l => .ok l
  | none =>
    if word = "BASIC_FORMAT" then .error (.unknownLevel basicLayout)
    else if word = "_STYLES" then .error (.notALevel layoutTable)
    else .ok warning

/-- The level that a text names in any case; no other text is taken. -/
def ofWord (t : Text) : Except HostError Level :=
  match ofSpelling? t.upper with
  | some l => .ok l
  | none => .error (.unknownLevel t.upper)

/-- A level of one's own, or else the inherited one. -/
def orInherited (own inherited : Level) : Level := if own = notSet then inherited else own

/-- The name that is shown for a level. -/
def name (l : Level) : Text :=
  if l = critical then "CRITICAL" else if l = error then "ERROR"
  else if l = warning then "WARNING" else if l = info then "INFO"
  else if l = debug then "DEBUG" else if l = notSet then "NOTSET"
  else Text.concat ["Level ", Text.ofInt l]

end Level

end HostCall
