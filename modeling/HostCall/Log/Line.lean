import HostCall.Text.Basic

/-!
# Lines of a log

Lines as they are read back from a file, without what differs from run to run: the time in front of
each, and all of a trace but its last line.
-/

namespace HostCall

namespace LogLine

/-- The last line of a text in which line ends are escaped, behind `acc`. -/
def lastLine (acc : Text) : Text → Text
  | [] => acc
  | [c] => acc ++ [c]
  | c :: d :: rest =>
    if c = '\\' then if d = 'n' then lastLine [] rest else lastLine (acc ++ [c, d]) rest
    else lastLine (acc ++ [c]) (d :: rest)

/-- A line of JSON without its first member, which is the time. -/
def withoutStamp (line : Text) : Text :=
  match Text.cut? "\", " line with
  | none => line
  | some (_, rest) =>
    let line : Text := "\x7b" ++ rest
    match Text.cut? "\"exc_info\": \"" line with
    | none => line
    | some (front, trace) => Text.concat [front, "\"exc_info\": \"", lastLine [] trace]

/-- A line without its time. -/
def withoutTime (json : Bool) (line : Text) : Text :=
  if json then withoutStamp line else ((Text.cut? " | " line).map Prod.snd).getD line

end LogLine

end HostCall
