import WorkspaceImport.Journal
/-!
Progress that is written to the log. The user can cancel at any time, which is remembered.
-/
namespace WorkspaceImport

structure Progress where
  canceled : Bool
  total : Int
  deriving DecidableEq, Inhabited

namespace Progress

def start : Progress := ⟨false, 0⟩

def announce (task : String) : Note :=
  .announced task

def advance (p : Progress) (units : Int) : Progress × Note :=
  ({ p with total := p.total + units }, .advanced units (p.total + units))

def cancel (p : Progress) : Progress :=
  { p with canceled := true }

end Progress

end WorkspaceImport
