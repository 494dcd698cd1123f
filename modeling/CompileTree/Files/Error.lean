/-! # File errors

Why an operation on files fails, with the number and the text that the operating
system has for it.
-/

namespace CompileTree.Files

/-- Why an operation on files fails. -/
inductive Error where
  | notFound
  | badFormat
  | badDescriptor
  | permissionDenied
  | alreadyExists
  | notADirectory
  | isADirectory
  | invalidArgument
  | noSpace
  | nameTooLong
  | directoryNotEmpty
  | tooManyLinks
  | notPermitted
  | noSuchProcess
  | interrupted
  | noDevice
  | tooManyArguments
  | unavailable
  | busy
  | crossDevice
  | tooManyFiles
  | noTerminal
  | fileTooLarge
  | illegalSeek
  | tooManyNames
  | brokenPipe
  | notSupported
  /-- A path holds a NUL. -/
  | nulInPath
  /-- The bytes of a file are no text. -/
  | notText
  deriving DecidableEq, Repr

namespace Error

/-- The number of an error, if it comes from the operating system. -/
def number? : Error → Option Nat
  | .notFound => some 2
  | .badFormat => some 8
  | .badDescriptor => some 9
  | .permissionDenied => some 13
  | .alreadyExists => some 17
  | .notADirectory => some 20
  | .isADirectory => some 21
  | .invalidArgument => some 22
  | .noSpace => some 28
  | .nameTooLong => some 36
  | .directoryNotEmpty => some 39
  | .tooManyLinks => some 40
  | .notPermitted => some 1
  | .noSuchProcess => some 3
  | .interrupted => some 4
  | .noDevice => some 6
  | .tooManyArguments => some 7
  | .unavailable => some 11
  | .busy => some 16
  | .crossDevice => some 18
  | .tooManyFiles => some 24
  | .noTerminal => some 25
  | .fileTooLarge => some 27
  | .illegalSeek => some 29
  | .tooManyNames => some 31
  | .brokenPipe => some 32
  | .notSupported => some 95
  | .nulInPath => none
  | .notText => none

/-- The text for an error. -/
def text : Error → String
  | .notFound => "No such file or directory"
  | .badFormat => "Exec format error"
  | .badDescriptor => "Bad file descriptor"
  | .permissionDenied => "Permission denied"
  | .alreadyExists => "File exists"
  | .notADirectory => "Not a directory"
  | .isADirectory => "Is a directory"
  | .invalidArgument => "Invalid argument"
  | .noSpace => "No space left on device"
  | .nameTooLong => "File name too long"
  | .directoryNotEmpty => "Directory not empty"
  | .tooManyLinks => "Too many levels of symbolic links"
  | .notPermitted => "Operation not permitted"
  | .noSuchProcess => "No such process"
  | .interrupted => "Interrupted system call"
  | .noDevice => "No such device or address"
  | .tooManyArguments => "Argument list too long"
  | .unavailable => "Resource temporarily unavailable"
  | .busy => "Device or resource busy"
  | .crossDevice => "Invalid cross-device link"
  | .tooManyFiles => "Too many open files"
  | .noTerminal => "Inappropriate ioctl for device"
  | .fileTooLarge => "File too large"
  | .illegalSeek => "Illegal seek"
  | .tooManyNames => "Too many links"
  | .brokenPipe => "Broken pipe"
  | .notSupported => "Operation not supported"
  | .nulInPath => "file name contained an unexpected NUL byte"
  | .notText => "stream did not contain valid UTF-8"

/-- How an error is told: its text, with its number if it has one. -/
def message (e : Error) : String :=
  match e.number? with
  | some n => e.text ++ " (os error " ++ toString n ++ ")"
  | none => e.text

end Error

end CompileTree.Files
