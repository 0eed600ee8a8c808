import MlogHighlight.Files.System
import MlogHighlight.Vocabulary.Packaged
import MlogHighlight.Vocabulary.Parser

/-!
# Loading vocabularies

A vocabulary is read from a file, which is named in front of what is wrong with its text.
-/

namespace MlogHighlight.Vocabulary

/-- Why a vocabulary cannot be loaded. -/
inductive LoadError where
  | unreadable (e : ReadError)
  | malformed (path : Text) (fault : Fault)
deriving DecidableEq, Repr

/-- The wording of the error. -/
def LoadError.message : LoadError → Text
  | .unreadable e => e.message
  | .malformed path fault => report fault.message (some path)

/-- Loads the vocabulary at a path. -/
def load (fs : FileSystem) (path : Text) : Except LoadError Vocabulary :=
  match fs.read path with
  | .error e => .error (.unreadable e)
  | .ok text => (parse text).mapError (.malformed path)

/-- Loads the vocabulary at a path, if there is one; the packaged vocabulary is used for no path and
for an empty one. The packaged vocabulary is built in: no file is read for it, and what its text says
is not parsed again. -/
def loadOrPackaged (fs : FileSystem) : Option Text → Except LoadError Vocabulary
  | none | some [] => .ok packaged
  | some path => load fs path

end MlogHighlight.Vocabulary
