/-!
# Faults

An error together with what caused it, as a **chain** of links from the outermost error inwards.
What a link says and which kind of error it is are all that anyone asks of it.

## Transient faults

A fault is transient if some link of its chain shows that a request was lost before it was
answered: a connection dropped or refused, a stream cut short, a time limit of the network layer.
Where an error was turned into a text on its way, the text still tells.
-/

namespace AuditFeed

/-- The kinds of input and output errors. -/
inductive IoKind where
  | addrInUse | addrNotAvailable | alreadyExists | argumentListTooLong | brokenPipe
  | connectionAborted | connectionRefused | connectionReset | crossesDevices | deadlock
  | directoryNotEmpty | executableFileBusy | fileTooLarge | hostUnreachable | interrupted
  | invalidData | invalidFilename | invalidInput | isADirectory | networkDown | networkUnreachable
  | notADirectory | notConnected | notFound | notSeekable | other | outOfMemory | permissionDenied
  | quotaExceeded | readOnlyFilesystem | resourceBusy | staleNetworkFileHandle | storageFull
  | timedOut | tooManyLinks | unexpectedEof | unsupported | wouldBlock | writeZero
deriving DecidableEq

namespace IoKind

/-- The names of the kinds. -/
def names : List (String × IoKind) :=
  [("AddrInUse", addrInUse), ("AddrNotAvailable", addrNotAvailable),
    ("AlreadyExists", alreadyExists), ("ArgumentListTooLong", argumentListTooLong),
    ("BrokenPipe", brokenPipe), ("ConnectionAborted", connectionAborted),
    ("ConnectionRefused", connectionRefused), ("ConnectionReset", connectionReset),
    ("CrossesDevices", crossesDevices), ("Deadlock", deadlock),
    ("DirectoryNotEmpty", directoryNotEmpty), ("ExecutableFileBusy", executableFileBusy),
    ("FileTooLarge", fileTooLarge), ("HostUnreachable", hostUnreachable),
    ("Interrupted", interrupted), ("InvalidData", invalidData),
    ("InvalidFilename", invalidFilename), ("InvalidInput", invalidInput),
    ("IsADirectory", isADirectory), ("NetworkDown", networkDown),
    ("NetworkUnreachable", networkUnreachable), ("NotADirectory", notADirectory),
    ("NotConnected", notConnected), ("NotFound", notFound), ("NotSeekable", notSeekable),
    ("Other", other), ("OutOfMemory", outOfMemory), ("PermissionDenied", permissionDenied),
    ("QuotaExceeded", quotaExceeded), ("ReadOnlyFilesystem", readOnlyFilesystem),
    ("ResourceBusy", resourceBusy), ("StaleNetworkFileHandle", staleNetworkFileHandle),
    ("StorageFull", storageFull), ("TimedOut", timedOut), ("TooManyLinks", tooManyLinks),
    ("UnexpectedEof", unexpectedEof), ("Unsupported", unsupported), ("WouldBlock", wouldBlock),
    ("WriteZero", writeZero)]

/-- The kind of a name. -/
def named? (name : String) : Option IoKind := names.lookup name

/-- What an error of this kind says if it says nothing of its own. -/
def description : IoKind → String
  | addrInUse => "address in use"
  | addrNotAvailable => "address not available"
  | alreadyExists => "entity already exists"
  | argumentListTooLong => "argument list too long"
  | brokenPipe => "broken pipe"
  | connectionAborted => "connection aborted"
  | connectionRefused => "connection refused"
  | connectionReset => "connection reset"
  | crossesDevices => "cross-device link or rename"
  | deadlock => "deadlock"
  | directoryNotEmpty => "directory not empty"
  | executableFileBusy => "executable file busy"
  | fileTooLarge => "file too large"
  | hostUnreachable => "host unreachable"
  | interrupted => "operation interrupted"
  | invalidData => "invalid data"
  | invalidFilename => "invalid filename"
  | invalidInput => "invalid input parameter"
  | isADirectory => "is a directory"
  | networkDown => "network down"
  | networkUnreachable => "network unreachable"
  | notADirectory => "not a directory"
  | notConnected => "not connected"
  | notFound => "entity not found"
  | notSeekable => "seek on unseekable file"
  | other => "other error"
  | outOfMemory => "out of memory"
  | permissionDenied => "permission denied"
  | quotaExceeded => "quota exceeded"
  | readOnlyFilesystem => "read-only filesystem or storage medium"
  | resourceBusy => "resource busy"
  | staleNetworkFileHandle => "stale network file handle"
  | storageFull => "no storage space"
  | timedOut => "timed out"
  | tooManyLinks => "too many links"
  | unexpectedEof => "unexpected end of file"
  | unsupported => "unsupported"
  | wouldBlock => "operation would block"
  | writeZero => "write zero"

/-- Does this kind show that a connection was lost or refused? -/
def isTransient : IoKind → Bool
  | unexpectedEof | connectionReset | connectionRefused | connectionAborted | brokenPipe
  | notConnected | timedOut => true
  | _ => false

end IoKind

/-- Where a link of a chain comes from. -/
inductive Origin where
  /-- An error that shows itself by its text alone. -/
  | plain
  /-- The transport, which may know the failure to be temporary. -/
  | transport (temporary : Bool)
  /-- Input or output. -/
  | io (kind : IoKind)
  /-- A time limit of the network layer. -/
  | timeout
deriving DecidableEq

/-- One error of a chain. -/
structure Link where
  /-- What it says. -/
  text : String
  /-- Where it comes from. -/
  origin : Origin
deriving DecidableEq

/-- An error and its causes, outermost first. -/
structure Fault where
  /-- The error itself. -/
  top : Link
  /-- What caused it. -/
  causes : List Link
deriving DecidableEq

namespace Fault

/-- All links, outermost first. -/
def chain (f : Fault) : List Link :=
  f.top :: f.causes

/-- What the error says. -/
def text (f : Fault) : String :=
  f.top.text

/-- An error that shows itself by its text alone. -/
def plain (text : String) (source : Option Fault) : Fault :=
  ⟨⟨text, .plain⟩, (source.map chain).getD []⟩

/-- An input or output error with a text of its own. -/
def io (kind : IoKind) (text : String) : Fault :=
  ⟨⟨text, .io kind⟩, []⟩

/-- An input or output error around another error. It says what that error says and passes on what
caused that error, so the error inside is not a link of the chain. -/
def ioAround (kind : IoKind) (inner : Fault) : Fault :=
  ⟨⟨inner.text, .io kind⟩, inner.causes⟩

end Fault

/-! ### Transience -/

/-- The phrases that show a lost connection. -/
def lostConnectionPhrases : List String :=
  ["connection reset", "connection refused", "broken pipe", "unexpected eof",
    "unexpected end of file", "use of closed network connection", "connection closed"]

/-- Does a list of characters occur in another one? -/
def occursIn (word : List Char) : List Char → Bool
  | [] => word.isEmpty
  | c :: s => word.isPrefixOf (c :: s) || occursIn word s

/-- The maximal runs of ASCII letters and digits; two neighbours that are neither have an empty run
between them. -/
def wordsOf : List Char → List (List Char)
  | [] => [[]]
  | c :: s =>
    match wordsOf s with
    | [] => [[c]]
    | w :: ws => if c.isAlphanum then (c :: w) :: ws else [] :: w :: ws

/-- Does a text tell of a lost connection? Letters count in either case, and "eof" only as a whole
word. -/
def messageIsTransient (message : String) : Bool :=
  let s := message.toList.map Char.toLower
  lostConnectionPhrases.any (fun p ↦ occursIn p.toList s) || (wordsOf s).any (· == ['e', 'o', 'f'])

/-- Does a link show that a request was lost before it was answered? -/
def Link.isTransient (l : Link) : Bool :=
  (match l.origin with
    | .plain => false
    | .transport temporary => temporary
    | .io kind => kind.isTransient
    | .timeout => true) || messageIsTransient l.text

/-- Does a fault show that a request was lost before it was answered? -/
def Fault.isTransient (f : Fault) : Bool :=
  f.chain.any Link.isTransient

end AuditFeed
