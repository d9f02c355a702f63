import Chip8.Text.Quoted

/-! Why a file could not be had, in the numbers and words of the operating system. -/
namespace Chip8

structure FileError where
  code : Nat
  reason : String
  path : String
  deriving DecidableEq, Repr

namespace FileError

def notFound (path : String) : FileError := ⟨2, "No such file or directory", path⟩

def notPermitted (path : String) : FileError := ⟨13, "Permission denied", path⟩

def alreadyThere (path : String) : FileError := ⟨17, "File exists", path⟩

def notDirectory (path : String) : FileError := ⟨20, "Not a directory", path⟩

def isDirectory (path : String) : FileError := ⟨21, "Is a directory", path⟩

def nameTooLong (path : String) : FileError := ⟨36, "File name too long", path⟩

def message (e : FileError) : String := s!"[Errno {e.code}] {e.reason}: {Text.quoted e.path}"

end FileError

inductive AccessError where
  | refused (error : FileError)
  | notPath
  deriving DecidableEq, Repr

def AccessError.message : AccessError → String
  | .refused error => error.message
  | .notPath => "embedded null byte"

end Chip8
