import TextLimits.Scan.InputPattern
import TextLimits.Scan.ExcludeFilter

/-! # Resolving inputs to files

The inputs are taken one after another, each with its files in the order of the walk.  A file that
the filter rejects is left out, and a path that came up before is not listed again. -/

namespace TextLimits

/-- Inputs relative to a root, and what to leave out. -/
structure Resolver where
  root : String
  inputs : List InputPattern
  filter : ExcludeFilter

namespace Resolver

/-- The resolver for some sources.  A fault in the exclusions comes before one in the inputs. -/
def ofSources (root : String) (inputs excludes : List String) : Except Fault Resolver := do
  let filter ← ExcludeFilter.ofSources excludes
  return ⟨root, ← inputs.mapM InputPattern.parse, filter⟩

/-- The files of one input that are kept. -/
def filesOf (r : Resolver) (top : Tree) (p : InputPattern) : List Path :=
  (p.files top r.root).filter fun path => r.filter.includes path.text

/-- All files, each at its first place. -/
def resolve (r : Resolver) (top : Tree) : List Path :=
  (r.inputs.flatMap (r.filesOf top)).eraseDups

end Resolver

end TextLimits
