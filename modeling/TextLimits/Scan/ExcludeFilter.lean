import TextLimits.Glob

/-! # Exclusion

A filter holds globs, and rejects the paths that any of them matches.  A path that ends in two dots
names no file, so a glob that only asks for a file name or its extension does not reject it. -/

namespace TextLimits

/-- The globs of the paths to be left out. -/
structure ExcludeFilter where
  globs : List Glob

namespace ExcludeFilter

/-- The filter for some globs.  The first text that is no glob is at fault, else the whole set if a
glob in it is nested too deep. -/
def ofSources (sources : List String) : Except Fault ExcludeFilter := do
  let globs ← sources.mapM Glob.parse
  if globs.any fun g => Regex.maxDepth < g.depth then .error (.glob "combined patterns")
  else .ok ⟨globs⟩

/-- Whether a path ends in two dots instead of a name. -/
def endsInDots (path : String) : Bool :=
  path.toList.reverse.takeWhile (· ≠ '/') = ['.', '.']

/-- Whether a glob rejects a path. -/
def rejectedBy (path : String) (g : Glob) : Bool :=
  g.isMatch path && !(endsInDots path && g.aboutName)

/-- Whether a path is kept. -/
def includes (f : ExcludeFilter) (path : String) : Bool :=
  !f.globs.any (rejectedBy path)

end ExcludeFilter

end TextLimits
