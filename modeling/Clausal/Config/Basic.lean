/-!
# Configuration

The two things about the language that can be set: how comments are marked, and how deeply
user functions may be nested.
-/

namespace Clausal

/-- The settings of an interpreter. -/
structure Config where
  /-- What a comment line starts with. Nothing marks no comments. -/
  commentMarker : String := "--"
  /-- How deeply applications of user functions may be nested. -/
  maxDepth : Nat := 1000
  deriving DecidableEq, Repr

/-- The settings where nothing is set. -/
def Config.standard : Config := {}

end Clausal
