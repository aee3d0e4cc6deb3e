/-!
# Errors of the operating system

An error that the system answers is a number, and each number has a fixed text. The few numbers
that the rules of the file system and of starting programs use have names.
-/

namespace ThemeSetup

/-- An error number of the operating system. -/
structure OsError where
  number : Int
  deriving DecidableEq, Repr

namespace OsError

/-- What is asked is left to the owner of a file, or to the system. -/
def notPermitted : OsError := ⟨1⟩

/-- A name on the path does not exist. -/
def noEntry : OsError := ⟨2⟩

/-- A file that can be run is neither a program nor a script. -/
def badFormat : OsError := ⟨8⟩

/-- The mode of a file, or its kind, forbids what is asked. -/
def accessDenied : OsError := ⟨13⟩

/-- Something of the name is there already. -/
def alreadyThere : OsError := ⟨17⟩

/-- A path goes through something that is no directory. -/
def notDirectory : OsError := ⟨20⟩

/-- A directory is in the place of a file. -/
def isDirectory : OsError := ⟨21⟩

/-- A name or a path is too long. -/
def nameTooLong : OsError := ⟨36⟩

/-- Too many symbolic links are followed. -/
def tooManyLinks : OsError := ⟨40⟩

/-- The texts of the error numbers from zero on; numbers without a text of their own are blank. -/
def texts : List String :=
  [
   "Success",
   "Operation not permitted",
   "No such file or directory",
   "No such process",
   "Interrupted system call",
   "Input/output error",
   "No such device or address",
   "Argument list too long",
   "Exec format error",
   "Bad file descriptor",
   "No child processes",
   "Resource temporarily unavailable",
   "Cannot allocate memory",
   "Permission denied",
   "Bad address",
   "Block device required",
   "Device or resource busy",
   "File exists",
   "Invalid cross-device link",
   "No such device",
   "Not a directory",
   "Is a directory",
   "Invalid argument",
   "Too many open files in system",
   "Too many open files",
   "Inappropriate ioctl for device",
   "Text file busy",
   "File too large",
   "No space left on device",
   "Illegal seek",
   "Read-only file system",
   "Too many links",
   "Broken pipe",
   "Numerical argument out of domain",
   "Numerical result out of range",
   "Resource deadlock avoided",
   "File name too long",
   "No locks available",
   "Function not implemented",
   "Directory not empty",
   "Too many levels of symbolic links",
   "",
   "No message of desired type",
   "Identifier removed",
   "Channel number out of range",
   "Level 2 not synchronized",
   "Level 3 halted",
   "Level 3 reset",
   "Link number out of range",
   "Protocol driver not attached",
   "No CSI structure available",
   "Level 2 halted",
   "Invalid exchange",
   "Invalid request descriptor",
   "Exchange full",
   "No anode",
   "Invalid request code",
   "Invalid slot",
   "",
   "Bad font file format",
   "Device not a stream",
   "No data available",
   "Timer expired",
   "Out of streams resources",
   "Machine is not on the network",
   "Package not installed",
   "Object is remote",
   "Link has been severed",
   "Advertise error",
   "Srmount error",
   "Communication error on send",
   "Protocol error",
   "Multihop attempted",
   "RFS specific error",
   "Bad message",
   "Value too large for defined data type",
   "Name not unique on network",
   "File descriptor in bad state",
   "Remote address changed",
   "Can not access a needed shared library",
   "Accessing a corrupted shared library",
   ".lib section in a.out corrupted",
   "Attempting to link in too many shared libraries",
   "Cannot exec a shared library directly",
   "Invalid or incomplete multibyte or wide character",
   "Interrupted system call should be restarted",
   "Streams pipe error",
   "Too many users",
   "Socket operation on non-socket",
   "Destination address required",
   "Message too long",
   "Protocol wrong type for socket",
   "Protocol not available",
   "Protocol not supported",
   "Socket type not supported",
   "Operation not supported",
   "Protocol family not supported",
   "Address family not supported by protocol",
   "Address already in use",
   "Cannot assign requested address",
   "Network is down",
   "Network is unreachable",
   "Network dropped connection on reset",
   "Software caused connection abort",
   "Connection reset by peer",
   "No buffer space available",
   "Transport endpoint is already connected",
   "Transport endpoint is not connected",
   "Cannot send after transport endpoint shutdown",
   "Too many references: cannot splice",
   "Connection timed out",
   "Connection refused",
   "Host is down",
   "No route to host",
   "Operation already in progress",
   "Operation now in progress",
   "Stale file handle",
   "Structure needs cleaning",
   "Not a XENIX named type file",
   "No XENIX semaphores available",
   "Is a named type file",
   "Remote I/O error",
   "Disk quota exceeded",
   "No medium found",
   "Wrong medium type",
   "Operation canceled",
   "Required key not available",
   "Key has expired",
   "Key has been revoked",
   "Key was rejected by service",
   "Owner died",
   "State not recoverable",
   "Operation not possible due to RF-kill",
   "Memory page has hardware error"]

/-- The text of an error number. -/
def text (error : OsError) : String :=
  match error.number with
  | .ofNat n =>
    match texts[n]? with
    | none | some "" => "Unknown error " ++ toString error.number
    | some text => text
  | .negSucc _ => "Unknown error " ++ toString error.number

/-- The wording of an error: its text and its number. -/
def message (error : OsError) : String :=
  error.text ++ " (os error " ++ toString error.number ++ ")"

end OsError

end ThemeSetup
