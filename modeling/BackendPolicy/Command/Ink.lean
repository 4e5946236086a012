import BackendPolicy.Report.Issue

/-!
This module contains the colours of reports on a terminal.
-/

namespace BackendPolicy.Command

inductive Ink where
  | severity (s : Severity)
  | success
  | dim
deriving DecidableEq, Repr

def Ink.parameters : Ink → String
  | severity .error => "31;1"
  | severity .warning => "38;2;255;165;0"
  | severity .notice => "34"
  | success => "32"
  | dim => "2"

def paint (coloured : Bool) (ink : Ink) (text : String) : String :=
  if coloured then "\x1b[" ++ ink.parameters ++ "m" ++ text ++ "\x1b[0m" else text

def forcesColour (setting : String) : Bool :=
  if setting = "false" then false
  else setting.isEmpty || !(setting.toList.all (· = '0'))

end BackendPolicy.Command
