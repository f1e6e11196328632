namespace LocalPipe

/-- The kinds that failures are sorted into. -/
inductive ErrorKind where
  | permissionDenied
  | notFound
  | interrupted
  | inputOutputError
  | wouldBlock
  | outOfMemory
  | alreadyExists
  | notADirectory
  | isADirectory
  | invalidInput
  | tooManyOpenFiles
  | storageFull
  | brokenPipe
  | deadlock
  | invalidFilename
  | filesystemLoop
  | addrInUse
  | connectionAborted
  | connectionReset
  | notConnected
  | timedOut
  | connectionRefused
  | hostUnreachable
  | writeZero
  | other
  | uncategorized
deriving DecidableEq, Repr

/-- What is shown for a failure of which only the kind is known. -/
def ErrorKind.text : ErrorKind → String
  | permissionDenied => "permission denied"
  | notFound => "entity not found"
  | interrupted => "operation interrupted"
  | inputOutputError => "input/output error"
  | wouldBlock => "operation would block"
  | outOfMemory => "out of memory"
  | alreadyExists => "entity already exists"
  | notADirectory => "not a directory"
  | isADirectory => "is a directory"
  | invalidInput => "invalid input parameter"
  | tooManyOpenFiles => "too many open files"
  | storageFull => "no storage space"
  | brokenPipe => "broken pipe"
  | deadlock => "deadlock"
  | invalidFilename => "invalid filename"
  | filesystemLoop => "filesystem loop or indirection limit (e.g. symlink loop)"
  | addrInUse => "address in use"
  | connectionAborted => "connection aborted"
  | connectionReset => "connection reset"
  | notConnected => "not connected"
  | timedOut => "timed out"
  | connectionRefused => "connection refused"
  | hostUnreachable => "host unreachable"
  | writeZero => "write zero"
  | other => "other error"
  | uncategorized => "uncategorized error"

/-- The errors that system calls answer with. -/
inductive Errno where
  | eperm
  | enoent
  | eintr
  | eio
  | ebadf
  | eagain
  | enomem
  | eacces
  | efault
  | eexist
  | enotdir
  | eisdir
  | einval
  | enfile
  | emfile
  | enospc
  | epipe
  | edeadlk
  | enametoolong
  | eloop
  | eaddrinuse
  | econnaborted
  | econnreset
  | enobufs
  | enotconn
  | etimedout
  | econnrefused
  | ehostunreach
deriving DecidableEq, Repr

namespace Errno

def number : Errno → Nat
  | eperm => 1
  | enoent => 2
  | eintr => 4
  | eio => 5
  | ebadf => 9
  | eagain => 11
  | enomem => 12
  | eacces => 13
  | efault => 14
  | eexist => 17
  | enotdir => 20
  | eisdir => 21
  | einval => 22
  | enfile => 23
  | emfile => 24
  | enospc => 28
  | epipe => 32
  | edeadlk => 35
  | enametoolong => 36
  | eloop => 40
  | eaddrinuse => 98
  | econnaborted => 103
  | econnreset => 104
  | enobufs => 105
  | enotconn => 107
  | etimedout => 110
  | econnrefused => 111
  | ehostunreach => 113

def kind : Errno → ErrorKind
  | eperm | eacces => .permissionDenied
  | enoent => .notFound
  | eintr => .interrupted
  | eio => .inputOutputError
  | eagain => .wouldBlock
  | enomem => .outOfMemory
  | eexist => .alreadyExists
  | enotdir => .notADirectory
  | eisdir => .isADirectory
  | einval => .invalidInput
  | enfile | emfile => .tooManyOpenFiles
  | enospc => .storageFull
  | epipe => .brokenPipe
  | edeadlk => .deadlock
  | enametoolong => .invalidFilename
  | eloop => .filesystemLoop
  | eaddrinuse => .addrInUse
  | econnaborted => .connectionAborted
  | econnreset => .connectionReset
  | enotconn => .notConnected
  | etimedout => .timedOut
  | econnrefused => .connectionRefused
  | ehostunreach => .hostUnreachable
  | ebadf | efault | enobufs => .uncategorized

def text : Errno → String
  | eperm => "Operation not permitted"
  | enoent => "No such file or directory"
  | eintr => "Interrupted system call"
  | eio => "Input/output error"
  | ebadf => "Bad file descriptor"
  | eagain => "Resource temporarily unavailable"
  | enomem => "Cannot allocate memory"
  | eacces => "Permission denied"
  | efault => "Bad address"
  | eexist => "File exists"
  | enotdir => "Not a directory"
  | eisdir => "Is a directory"
  | einval => "Invalid argument"
  | enfile => "Too many open files in system"
  | emfile => "Too many open files"
  | enospc => "No space left on device"
  | epipe => "Broken pipe"
  | edeadlk => "Resource deadlock avoided"
  | enametoolong => "File name too long"
  | eloop => "Too many levels of symbolic links"
  | eaddrinuse => "Address already in use"
  | econnaborted => "Software caused connection abort"
  | econnreset => "Connection reset by peer"
  | enobufs => "No buffer space available"
  | enotconn => "Transport endpoint is not connected"
  | etimedout => "Connection timed out"
  | econnrefused => "Connection refused"
  | ehostunreach => "No route to host"

end Errno

end LocalPipe
