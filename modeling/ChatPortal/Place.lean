import ChatPortal.Text.Utf8
import ChatPortal.Trouble

/-!
# Places of files

A `Place` is what stands where a file belongs, and `Place.text` reads the text of the file
there.  The complaints are those of the operating system.
-/

namespace ChatPortal

/-- What stands where a file belongs: nothing, a file, a file that may neither be read nor
written, with the complaint about that, a directory, or a file where the directory of the
file should be. -/
inductive Place where
  | absent
  | content (bytes : Bytes)
  | closed (trouble : Trouble)
  | directory
  | blocked
deriving DecidableEq, Repr

namespace Place

/-- The complaint about a file that there is not. -/
def notFound : Trouble := ⟨"No such file or directory (os error 2)", []⟩

/-- The complaint about a new directory where there is a file. -/
def fileExists : Trouble := ⟨"File exists (os error 17)", []⟩

/-- The complaint about a way that leads through a file. -/
def notDirectory : Trouble := ⟨"Not a directory (os error 20)", []⟩

/-- The complaint about a directory in the place of a file. -/
def isDirectory : Trouble := ⟨"Is a directory (os error 21)", []⟩

/-- The complaint about a text that is not UTF-8. -/
def notText : Trouble := ⟨"stream did not contain valid UTF-8", []⟩

/-- Something stands there. -/
def isTaken : Place → Bool
  | .content _ => true
  | .closed _ => true
  | .directory => true
  | _ => false

/-- The text of the file, in UTF-8. -/
def text : Place → Except Trouble Bytes
  | .absent => .error notFound
  | .blocked => .error notDirectory
  | .directory => .error isDirectory
  | .closed trouble => .error trouble
  | .content bytes => if (textOf? bytes).isSome then .ok bytes else .error notText

end Place

end ChatPortal
