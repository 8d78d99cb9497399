/-
Refusals of the operating system.

A call that touches the disk is refused for a reason of a few kinds, and with a text that is shown
to the user.  The texts are those of Linux.
-/

namespace ServiceScaffold

/-- The kinds of refusals that are told apart. -/
inductive IoKind where
  | notFound
  | alreadyExists
  | permissionDenied
  | other
deriving DecidableEq, Repr, Inhabited

/-- A refusal: its kind, and the text shown for it. -/
structure IoFailure where
  kind : IoKind
  text : String
deriving DecidableEq, Repr, Inhabited

namespace IoFailure

/-- A path on which something is missing. -/
def notFound : IoFailure := ⟨.notFound, "No such file or directory (os error 2)"⟩

/-- A place that is taken. -/
def alreadyExists : IoFailure := ⟨.alreadyExists, "File exists (os error 17)"⟩

/-- A place that is closed to the user. -/
def permissionDenied : IoFailure := ⟨.permissionDenied, "Permission denied (os error 13)"⟩

/-- A path that leads through a file. -/
def notADirectory : IoFailure := ⟨.other, "Not a directory (os error 20)"⟩

/-- A directory where a file is needed. -/
def isADirectory : IoFailure := ⟨.other, "Is a directory (os error 21)"⟩

/-- A name or a path beyond the length that the system allows. -/
def nameTooLong : IoFailure := ⟨.other, "File name too long (os error 36)"⟩

/-- A path with a zero character in it. -/
def zeroInName : IoFailure := ⟨.other, "file name contained an unexpected NUL byte"⟩

/-- A file that is not text. -/
def notText : IoFailure := ⟨.other, "stream did not contain valid UTF-8"⟩

end IoFailure

end ServiceScaffold
