/-!
# Failures of input and output

## Main definitions

* `IoKind`: the classes of such failures.
* `IoError`: a failure with its class and text.
-/
namespace ClusterAccess

inductive IoKind where
  | notFound
  | permissionDenied
  | connectionRefused
  | connectionReset
  | hostUnreachable
  | networkUnreachable
  | connectionAborted
  | notConnected
  | addrInUse
  | addrNotAvailable
  | brokenPipe
  | alreadyExists
  | wouldBlock
  | notADirectory
  | isADirectory
  | directoryNotEmpty
  | invalidInput
  | invalidData
  | timedOut
  | writeZero
  | interrupted
  | unsupported
  | unexpectedEof
  | outOfMemory
  | invalidFilename
  | resourceBusy
  | other
  deriving DecidableEq, Repr

def IoKind.name : IoKind → String
  | .notFound => "NotFound"
  | .permissionDenied => "PermissionDenied"
  | .connectionRefused => "ConnectionRefused"
  | .connectionReset => "ConnectionReset"
  | .hostUnreachable => "HostUnreachable"
  | .networkUnreachable => "NetworkUnreachable"
  | .connectionAborted => "ConnectionAborted"
  | .notConnected => "NotConnected"
  | .addrInUse => "AddrInUse"
  | .addrNotAvailable => "AddrNotAvailable"
  | .brokenPipe => "BrokenPipe"
  | .alreadyExists => "AlreadyExists"
  | .wouldBlock => "WouldBlock"
  | .notADirectory => "NotADirectory"
  | .isADirectory => "IsADirectory"
  | .directoryNotEmpty => "DirectoryNotEmpty"
  | .invalidInput => "InvalidInput"
  | .invalidData => "InvalidData"
  | .timedOut => "TimedOut"
  | .writeZero => "WriteZero"
  | .interrupted => "Interrupted"
  | .unsupported => "Unsupported"
  | .unexpectedEof => "UnexpectedEof"
  | .outOfMemory => "OutOfMemory"
  | .invalidFilename => "InvalidFilename"
  | .resourceBusy => "ResourceBusy"
  | .other => "Other"

def IoKind.all : List IoKind := [
  .notFound, .permissionDenied, .connectionRefused, .connectionReset, .hostUnreachable,
  .networkUnreachable, .connectionAborted, .notConnected, .addrInUse, .addrNotAvailable,
  .brokenPipe, .alreadyExists, .wouldBlock, .notADirectory, .isADirectory, .directoryNotEmpty,
  .invalidInput, .invalidData, .timedOut, .writeZero, .interrupted, .unsupported, .unexpectedEof,
  .outOfMemory, .invalidFilename, .resourceBusy, .other]

/-- The kind of a name; a name of none of them counts as `other`. -/
def IoKind.ofName (name : String) : IoKind := (IoKind.all.find? (·.name == name)).getD .other

theorem IoKind.ofName_name (k : IoKind) : IoKind.ofName k.name = k := by cases k <;> rfl

structure IoError where
  kind : IoKind
  message : String
  deriving DecidableEq, Repr

namespace IoError

def noSuchFile : IoError := ⟨.notFound, "No such file or directory (os error 2)"⟩

def directory : IoError := ⟨.isADirectory, "Is a directory (os error 21)"⟩

def notFolder : IoError := ⟨.notADirectory, "Not a directory (os error 20)"⟩

def busy : IoError := ⟨.resourceBusy, "Device or resource busy (os error 16)"⟩

def nameTooLong : IoError := ⟨.invalidFilename, "File name too long (os error 36)"⟩

/-- A path cannot contain the character that ends one. -/
def nulInName : IoError := ⟨.invalidInput, "file name contained an unexpected NUL byte"⟩

def refused : IoError := ⟨.connectionRefused, "Connection refused (os error 111)"⟩

def notText : IoError := ⟨.invalidData, "stream did not contain valid UTF-8"⟩

def endOfStream : IoError := ⟨.unexpectedEof, "early eof"⟩

end IoError
end ClusterAccess
