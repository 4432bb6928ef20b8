import LineGreeting.Text.Quoted

/-! # Faults

What can go wrong with a file, a socket or a name. A fault is its cause; the
text that a reader sees and the longer form that ends a program are functions
of it.
-/

namespace LineGreeting

/-- The sorts of faults. -/
inductive FaultKind where
  | notFound | permissionDenied | connectionRefused | connectionReset
  | connectionAborted | notConnected | addrInUse | addrNotAvailable
  | networkUnreachable | brokenPipe | wouldBlock | notADirectory
  | isADirectory | filesystemLoop | invalidFilename | tooManyOpenFiles
  | invalidInput | invalidData | timedOut | writeZero | interrupted | unsupported
  | unexpectedEof | uncategorized | other
deriving DecidableEq, Repr

namespace FaultKind

/-- All sorts of faults. -/
def all : List FaultKind :=
  [notFound, permissionDenied, connectionRefused, connectionReset,
    connectionAborted, notConnected, addrInUse, addrNotAvailable,
    networkUnreachable, brokenPipe, wouldBlock, notADirectory, isADirectory,
    filesystemLoop, invalidFilename, tooManyOpenFiles, invalidInput, invalidData, timedOut,
    writeZero, interrupted, unsupported, unexpectedEof, uncategorized, other]

/-- The name of a sort of fault. -/
def name : FaultKind → String
  | notFound => "NotFound"
  | permissionDenied => "PermissionDenied"
  | connectionRefused => "ConnectionRefused"
  | connectionReset => "ConnectionReset"
  | connectionAborted => "ConnectionAborted"
  | notConnected => "NotConnected"
  | addrInUse => "AddrInUse"
  | addrNotAvailable => "AddrNotAvailable"
  | networkUnreachable => "NetworkUnreachable"
  | brokenPipe => "BrokenPipe"
  | wouldBlock => "WouldBlock"
  | notADirectory => "NotADirectory"
  | isADirectory => "IsADirectory"
  | filesystemLoop => "FilesystemLoop"
  | invalidFilename => "InvalidFilename"
  | tooManyOpenFiles => "TooManyOpenFiles"
  | invalidInput => "InvalidInput"
  | invalidData => "InvalidData"
  | timedOut => "TimedOut"
  | writeZero => "WriteZero"
  | interrupted => "Interrupted"
  | unsupported => "Unsupported"
  | unexpectedEof => "UnexpectedEof"
  | uncategorized => "Uncategorized"
  | other => "Other"

/-- The sort of fault with a given name. -/
def ofName? (text : String) : Option FaultKind :=
  all.find? (·.name = text)

theorem ofName?_name (kind : FaultKind) : ofName? kind.name = some kind := by
  cases kind <;> decide

end FaultKind

/-- Faults that the operating system reports. -/
inductive SystemFault where
  | noSuchFile | inputOutput | notPermitted | notADirectory | isADirectory
  | noDescriptorLeft | nameTooLong | tooManyLinks | addressInUse
  | addressNotAvailable | networkUnreachable | connectionReset
  | connectionRefused | brokenPipe
deriving DecidableEq, Repr

namespace SystemFault

/-- All system faults. -/
def all : List SystemFault :=
  [noSuchFile, inputOutput, notPermitted, notADirectory, isADirectory,
    noDescriptorLeft, nameTooLong, tooManyLinks, addressInUse,
    addressNotAvailable, networkUnreachable, connectionReset, connectionRefused,
    brokenPipe]

/-- The number by which the operating system knows a fault. -/
def code : SystemFault → Nat
  | noSuchFile => 2
  | inputOutput => 5
  | notPermitted => 13
  | notADirectory => 20
  | isADirectory => 21
  | noDescriptorLeft => 24
  | brokenPipe => 32
  | nameTooLong => 36
  | tooManyLinks => 40
  | addressInUse => 98
  | addressNotAvailable => 99
  | networkUnreachable => 101
  | connectionReset => 104
  | connectionRefused => 111

/-- The sort of a system fault. -/
def kind : SystemFault → FaultKind
  | noSuchFile => .notFound
  | inputOutput => .uncategorized
  | notPermitted => .permissionDenied
  | notADirectory => .notADirectory
  | isADirectory => .isADirectory
  | noDescriptorLeft => .tooManyOpenFiles
  | brokenPipe => .brokenPipe
  | nameTooLong => .invalidFilename
  | tooManyLinks => .filesystemLoop
  | addressInUse => .addrInUse
  | addressNotAvailable => .addrNotAvailable
  | networkUnreachable => .networkUnreachable
  | connectionReset => .connectionReset
  | connectionRefused => .connectionRefused

/-- The words of the operating system for a fault. -/
def text : SystemFault → String
  | noSuchFile => "No such file or directory"
  | inputOutput => "Input/output error"
  | notPermitted => "Permission denied"
  | notADirectory => "Not a directory"
  | isADirectory => "Is a directory"
  | noDescriptorLeft => "Too many open files"
  | brokenPipe => "Broken pipe"
  | nameTooLong => "File name too long"
  | tooManyLinks => "Too many levels of symbolic links"
  | addressInUse => "Address already in use"
  | addressNotAvailable => "Cannot assign requested address"
  | networkUnreachable => "Network is unreachable"
  | connectionReset => "Connection reset by peer"
  | connectionRefused => "Connection refused"

/-- The system fault with a given number. -/
def ofCode? (number : Nat) : Option SystemFault :=
  all.find? (·.code = number)

theorem ofCode?_code (cause : SystemFault) : ofCode? cause.code = some cause := by
  cases cause <;> rfl

end SystemFault

/-- Why an operation failed. -/
inductive Fault where
  /-- The operating system refused. -/
  | system (cause : SystemFault)
  /-- One of the fixed complaints of a library. -/
  | fixed (kind : FaultKind) (text : String)
  /-- A complaint that was worded for the occasion. -/
  | worded (kind : FaultKind) (text : String)
  /-- A host has no address. -/
  | unresolved
deriving DecidableEq, Repr

namespace Fault

/-- A writer that takes no byte of what it is given. -/
def writeZero : Fault := .fixed .writeZero "write zero"

/-- A wait that took longer than its limit, in milliseconds. -/
def timedOut (limit : Nat) : Fault :=
  .worded .timedOut ("timed out after " ++ toString limit ++ "ms")

/-- A name with a zero character, which the operating system cannot take. -/
def zeroInName : Fault :=
  .fixed .invalidInput "file name contained an unexpected NUL byte"

/-- Bytes that should be a text and are not. -/
def notUtf8 : Fault := .fixed .invalidData "stream did not contain valid UTF-8"

/-- The sort of a fault. -/
def kind : Fault → FaultKind
  | system cause => cause.kind
  | fixed kind _ => kind
  | worded kind _ => kind
  | unresolved => .uncategorized

/-- A fault in words. -/
def message : Fault → String
  | system cause => cause.text ++ " (os error " ++ toString cause.code ++ ")"
  | fixed _ text => text
  | worded _ text => text
  | unresolved => "Resolve"

/-- A fault as the last words of a program that ends with it. -/
def report : Fault → String
  | system cause =>
    "Os \x7b code: " ++ toString cause.code ++ ", kind: " ++ cause.kind.name ++
      ", message: " ++ Text.quoted cause.text ++ " \x7d"
  | fixed kind text =>
    "Error \x7b kind: " ++ kind.name ++ ", message: " ++ Text.quoted text ++ " \x7d"
  | worded kind text =>
    "Custom \x7b kind: " ++ kind.name ++ ", error: " ++ Text.quoted text ++ " \x7d"
  | unresolved => "Resolve"

@[simp] theorem kind_timedOut (limit : Nat) : (timedOut limit).kind = .timedOut := rfl

@[simp] theorem message_timedOut (limit : Nat) :
    (timedOut limit).message = "timed out after " ++ toString limit ++ "ms" := rfl

end Fault

end LineGreeting
