import ObservatoryWatch.Text.Caseless

/-!
Levels of log messages.

A level is a number; higher ones are more pressing. The usual levels have names,
and settings name a level by one of four words.
-/

namespace ObservatoryWatch.Log

abbrev Level := Int

namespace Level

def debug : Level := 10

def info : Level := 20

def warning : Level := 30

def error : Level := 40

def names : List (Level × String) :=
  [(0, "NOTSET"), (debug, "DEBUG"), (info, "INFO"), (warning, "WARNING"), (error, "ERROR"),
    (50, "CRITICAL")]

/-- The name of a level; levels between the usual ones go by their number. -/
def name (level : Level) : String :=
  (names.lookup level).getD ("Level " ++ toString level)

/-- The words by which settings name a level. -/
def words : List (String × Level) :=
  [("error", error), ("warn", warning), ("info", info), ("debug", debug)]

/-- The level that a word in any case names; an unknown word means the ordinary level. -/
def ofWord (word : String) : Level := (words.lookup (Text.lowerText word)).getD info

end Level

end ObservatoryWatch.Log
