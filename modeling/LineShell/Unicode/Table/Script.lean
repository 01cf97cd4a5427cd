import LineShell.Unicode.Table.Script.AToG
import LineShell.Unicode.Table.Script.HToM
import LineShell.Unicode.Table.Script.NToZ

/-!
All scripts by name.
-/

namespace LineShell.Unicode.Table

/-- The scripts with their names, in lower case and without separators. -/
def scripts : List (List String × List Run) :=
  Script.scriptsAToG ++ Script.scriptsHToM ++ Script.scriptsNToZ

end LineShell.Unicode.Table
