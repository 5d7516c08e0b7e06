import RelMachine.Evaluation.Expression
import RelMachine.Planning.Selection

/-!
# The state of the machine

Everything that running a program can change, and the settings that say how it
runs.
-/

namespace RelMachine

/-- How a machine runs programs. -/
structure EngineSettings : Type where
  /-- How many workers share a scan; one worker does not share. -/
  threads : Nat := 1
  /-- How many tuples a relation needs for its scan to be shared. -/
  threshold : Nat := 1024
  /-- Whether timers report as information instead of debugging. -/
  profile : Bool := false
  strategy : Strategy := .greedy
  deriving DecidableEq, Inhabited, Repr

namespace EngineSettings

/-- The settings with a number of workers, of which there is at least one. -/
def withThreads (settings : EngineSettings) (threads : Nat) : EngineSettings :=
  { settings with threads := max threads 1 }

/-- Whether scans can be shared. -/
def isParallel (settings : EngineSettings) : Bool :=
  1 < settings.threads

/-- The number of parts of a shared scan. -/
def parts (settings : EngineSettings) : Nat :=
  settings.threads * 4

end EngineSettings

/-- How urgent a report is. -/
inductive ReportLevel : Type where
  | info
  | debug
  deriving DecidableEq, Repr

/-- What a running program reports. -/
inductive Report : Type where
  /-- The size of a relation after so many rounds of loops. -/
  | size (message relation : String) (size round : Nat)
  /-- The end of a timed statement, with the size of a relation if one was
  named. -/
  | timer (level : ReportLevel) (message : String) (size : Option Nat)
  /-- The start of a statement with a message. -/
  | debug (message : String)
  deriving DecidableEq, Repr

/-- What running a program can change. -/
structure Machine : Type where
  database : Database
  tables : Tables
  /-- How often loop bodies have run, the last time of each loop included. -/
  iterations : Nat
  /-- How many tuples were new to the relation they were projected into. -/
  inserted : Nat
  /-- The values returned since the program or a subroutine was started. -/
  returns : List Word
  /-- The reports since the program or a subroutine was started. -/
  reports : List Report

namespace Machine

/-- A machine that has not run anything. -/
def ofDatabase (language : PatternLanguage) (database : Database) : Machine :=
  ⟨database, .empty language, 0, 0, [], []⟩

/-- The counts of a machine as text. -/
def statistics (machine : Machine) : String :=
  toString machine.iterations ++ " loop iterations, " ++ toString machine.inserted ++
    " tuples inserted"

/-- The machine with another database. -/
def withDatabase (machine : Machine) (database : Database) : Machine :=
  { machine with database := database }

/-- The machine with other tables. -/
def withTables (machine : Machine) (tables : Tables) : Machine :=
  { machine with tables := tables }

/-- The machine with one more report. -/
def report (machine : Machine) (entry : Report) : Machine :=
  { machine with reports := machine.reports ++ [entry] }

/-- The machine before anything is returned or reported. -/
def fresh (machine : Machine) : Machine :=
  { machine with returns := [], reports := [] }

end Machine

end RelMachine
