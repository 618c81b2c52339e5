/-! Why a file cannot be read as text. -/
namespace Orthography.Files

inductive Fault
  | notFound
  | isDirectory
  | notDirectory
  | nameTooLong
  /-- The path holds the character of code zero, which no file name does. -/
  | zeroInPath
  | notText
  deriving DecidableEq

def Fault.message : Fault → String
  | notFound => "No such file or directory (os error 2)"
  | isDirectory => "Is a directory (os error 21)"
  | notDirectory => "Not a directory (os error 20)"
  | nameTooLong => "File name too long (os error 36)"
  | zeroInPath => "file name contained an unexpected NUL byte"
  | notText => "stream did not contain valid UTF-8"

end Orthography.Files
