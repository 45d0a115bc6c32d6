/-!
# Input and output faults

What the file system answers when it refuses: an error number of the operating system, a kind
of failure without a number, or a message of its own. `Fault.text` is what error messages show.
-/

namespace MonitorFleet

/-- Kinds of failure that carry no error number. -/
inductive FaultKind where
  | notFound
  | permissionDenied
  | alreadyExists
  | invalidInput
  | invalidData
  | timedOut
  | writeZero
  | interrupted
  | unexpectedEof
  | brokenPipe
  | other
  deriving DecidableEq, Repr

namespace FaultKind

def text : FaultKind → String
  | notFound => "entity not found"
  | permissionDenied => "permission denied"
  | alreadyExists => "entity already exists"
  | invalidInput => "invalid input parameter"
  | invalidData => "invalid data"
  | timedOut => "timed out"
  | writeZero => "write zero"
  | interrupted => "operation interrupted"
  | unexpectedEof => "unexpected end of file"
  | brokenPipe => "broken pipe"
  | other => "other error"

end FaultKind

/-- Why an input or output operation failed. -/
inductive Fault where
  /-- An error number of the operating system. -/
  | os (number : Nat)
  /-- A kind of failure, without a number. -/
  | kind (kind : FaultKind)
  /-- A failure that brings its own message. -/
  | message (text : String)
  deriving DecidableEq, Repr

namespace Fault

abbrev notFound : Fault := .os 2
abbrev exists_ : Fault := .os 17
abbrev notDirectory : Fault := .os 20
abbrev isDirectory : Fault := .os 21
abbrev invalid : Fault := .os 22
abbrev noSpace : Fault := .os 28
abbrev nameTooLong : Fault := .os 36
abbrev tooManyLinks : Fault := .os 40

/-- A path with a zero byte is refused before it reaches the system. -/
def zeroByte : Fault := .message "file name contained an unexpected NUL byte"

/-- A file read as text that is not text. -/
def notText : Fault := .message "stream did not contain valid UTF-8"

/-- The system's name for an error number. -/
def osText : Nat → String
  | 1 => "Operation not permitted"
  | 2 => "No such file or directory"
  | 4 => "Interrupted system call"
  | 5 => "Input/output error"
  | 9 => "Bad file descriptor"
  | 11 => "Resource temporarily unavailable"
  | 12 => "Cannot allocate memory"
  | 13 => "Permission denied"
  | 16 => "Device or resource busy"
  | 17 => "File exists"
  | 18 => "Invalid cross-device link"
  | 20 => "Not a directory"
  | 21 => "Is a directory"
  | 22 => "Invalid argument"
  | 23 => "Too many open files in system"
  | 24 => "Too many open files"
  | 26 => "Text file busy"
  | 27 => "File too large"
  | 28 => "No space left on device"
  | 30 => "Read-only file system"
  | 32 => "Broken pipe"
  | 36 => "File name too long"
  | 39 => "Directory not empty"
  | 40 => "Too many levels of symbolic links"
  | 95 => "Operation not supported"
  | 98 => "Address already in use"
  | 99 => "Cannot assign requested address"
  | 101 => "Network is unreachable"
  | 103 => "Software caused connection abort"
  | 104 => "Connection reset by peer"
  | 110 => "Connection timed out"
  | 111 => "Connection refused"
  | 113 => "No route to host"
  | 122 => "Disk quota exceeded"
  | n => s!"Unknown error {n}"

/-- The text that messages show; a numbered fault shows its number. -/
def text : Fault → String
  | os n => s!"{osText n} (os error {n})"
  | kind k => k.text
  | message t => t

end Fault

end MonitorFleet
