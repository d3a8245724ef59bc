/-
The lines a text is read back as once it has been printed.
-/

namespace ScriptHost

/-- A line without the carriage return that may stand right before its newline. -/
def withoutReturn (line : List Char) : List Char :=
  if line.getLast? = some '\r' then line.dropLast else line

/-- The lines of a text printed with a newline after it.  Its own newlines end lines as
well, so an empty text is one empty line. -/
def printedLines (s : String) : List String :=
  (s.toList.splitOn '\n').map fun line => String.ofList (withoutReturn line)

end ScriptHost
