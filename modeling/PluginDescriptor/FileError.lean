import PluginDescriptor.SystemError

/-!
# File errors

The ways a file operation can fail, and the text that reports each.
-/

namespace PluginDescriptor

/-- Why a file operation failed. -/
inductive FileError where
  /-- The system refused, with this error number. -/
  | system (number : Int32)
  /-- The path holds U+0000, so it was never handed to the system. -/
  | nulInPath
  /-- The file was to be read as text and is not UTF-8. -/
  | invalidUtf8
deriving DecidableEq

namespace FileError

/-- Part of the path does not exist. -/
@[match_pattern] def notFound : FileError := .system 2

/-- The place is taken. -/
@[match_pattern] def alreadyExists : FileError := .system 17

/-- A part of the path that should be a directory is a file. -/
@[match_pattern] def notADirectory : FileError := .system 20

/-- A directory stands where a file is wanted. -/
@[match_pattern] def isADirectory : FileError := .system 21

/-- A name or the whole path is too long. -/
@[match_pattern] def nameTooLong : FileError := .system 36

/-- The text that reports the failure. -/
def message : FileError → String
  | .system number => s!"{SystemError.text number} (os error {number.toInt})"
  | .nulInPath => "file name contained an unexpected NUL byte"
  | .invalidUtf8 => "stream did not contain valid UTF-8"

end FileError

end PluginDescriptor
