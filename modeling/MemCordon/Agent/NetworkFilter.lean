import MemCordon.Foundations.ClassicBpf

/-!
# The network filter of the private TCP profile

The compiler of `linux/network_filter.rs`: the cBPF program that closes the private profile. A
program is a list of instructions in the layout of the kernel; a loop that pushes instructions is
the concatenation of what each turn pushes, and a rule for one system call is pushed by `rule`. The
numbers of `libc` are those of Linux on the two supported targets, which agree but for
`O_LARGEFILE`: that one is a parameter.
-/

namespace MemCordon.NetworkFilter

open Bpf (Word Instruction)

/-! ## Constants -/

def bpfLdWAbs : BitVec 16 := 0x20
def bpfJmpJeqK : BitVec 16 := 0x15
def bpfJmpJsetK : BitVec 16 := 0x45
def bpfJmpJa : BitVec 16 := 0x05
def bpfAluAndK : BitVec 16 := 0x54
def bpfRetK : BitVec 16 := 0x06

def seccompRetKillProcess : Word := 0x80000000
def seccompRetErrno : Word := 0x00050000
def seccompRetAllow : Word := 0x7fff0000
def kernelFilterInstructionLimit : ℕ := 4096

def nrOffset : Word := 0
def archOffset : Word := 4
def arg0Low : Word := 16
def arg0High : Word := 20
def arg1Low : Word := 24
def arg1High : Word := 28
def arg2Low : Word := 32
def arg2High : Word := 36
def arg3Low : Word := 40
def arg3High : Word := 44

namespace Libc

def eperm : Word := 1
def enosys : Word := 38
def eprotonosupport : Word := 93
def eafnosupport : Word := 97
def sigchld : Word := 17

def afInet : Word := 2
def sockStream : Word := 1
def sockNonblock : Word := 0x800
def sockCloexec : Word := 0x80000
def ipprotoTcp : Word := 6

def cloneVm : Word := 0x100
def cloneFs : Word := 0x200
def cloneFiles : Word := 0x400
def cloneSighand : Word := 0x800
def cloneVfork : Word := 0x4000
def cloneThread : Word := 0x10000
def cloneSysvsem : Word := 0x40000
def cloneSettls : Word := 0x80000
def cloneParentSettid : Word := 0x100000
def cloneChildCleartid : Word := 0x200000
def cloneChildSettid : Word := 0x1000000

def fDupfd : Word := 0
def fGetfd : Word := 1
def fSetfd : Word := 2
def fGetfl : Word := 3
def fSetfl : Word := 4
def fGetlk : Word := 5
def fSetlk : Word := 6
def fSetlkw : Word := 7
def fOfdGetlk : Word := 36
def fOfdSetlk : Word := 37
def fOfdSetlkw : Word := 38
def fDupfdCloexec : Word := 1030
def fGetSeals : Word := 1034
def fdCloexec : Word := 1

def oAccmode : Word := 3
def oAppend : Word := 0x400
def oNonblock : Word := 0x800
def oCloexec : Word := 0x80000

def tcgets : Word := 0x5401
def tiocgwinsz : Word := 0x5413
def fionread : Word := 0x541b
def fionbio : Word := 0x5421

def solSocket : Word := 1
def soReuseaddr : Word := 2
def soType : Word := 3
def soError : Word := 4
def soSndbuf : Word := 7
def soRcvbuf : Word := 8
def soKeepalive : Word := 9
def soLinger : Word := 13
def soRcvtimeo : Word := 20
def soSndtimeo : Word := 21
def soAcceptconn : Word := 30
def soProtocol : Word := 38
def soDomain : Word := 39
def tcpNodelay : Word := 1
def tcpKeepidle : Word := 4
def tcpKeepintvl : Word := 5
def tcpKeepcnt : Word := 6

def prGetDumpable : Word := 3
def prSetName : Word := 15
def prGetName : Word := 16
def prGetSeccomp : Word := 21
def prGetSecurebits : Word := 27
def prGetTimerslack : Word := 30
def prGetNoNewPrivs : Word := 39

def efdNonblock : Word := 0x800
def efdCloexec : Word := 0x80000
def epollCloexec : Word := 0x80000
def sfdNonblock : Word := 0x800
def sfdCloexec : Word := 0x80000
def tfdNonblock : Word := 0x800
def tfdCloexec : Word := 0x80000

end Libc

open Libc

/-! ## System call numbers -/

inductive NativeAbi
  | x86_64
  | aarch64
  deriving DecidableEq, Repr

structure Syscalls where
  (socket socketpair clone clone3 fcntl ioctl getsockopt setsockopt prctl prlimit64 : Word)
  archPrctl : Option Word
  (accept4 pipe2 dup3 eventfd2 epollCreate1 signalfd4 timerfdCreate : Word)

def x64Unconditional : List (String × Word) :=
  [("read", 0), ("write", 1), ("readv", 19), ("writev", 20), ("pread64", 17), ("pwrite64", 18),
   ("preadv", 295), ("pwritev", 296), ("preadv2", 327), ("pwritev2", 328), ("lseek", 8),
   ("close", 3), ("close_range", 436), ("dup", 32), ("dup2", 33), ("pipe", 22), ("sendfile", 40),
   ("copy_file_range", 326), ("splice", 275), ("tee", 276), ("vmsplice", 278), ("open", 2),
   ("openat", 257), ("openat2", 437), ("creat", 85), ("stat", 4), ("lstat", 6), ("fstat", 5),
   ("newfstatat", 262), ("statx", 332), ("statfs", 137), ("fstatfs", 138), ("access", 21),
   ("faccessat", 269), ("faccessat2", 439), ("getdents", 78), ("getdents64", 217), ("readlink", 89),
   ("readlinkat", 267), ("getcwd", 79), ("chdir", 80), ("fchdir", 81), ("mkdir", 83),
   ("mkdirat", 258), ("rmdir", 84), ("unlink", 87), ("unlinkat", 263), ("rename", 82),
   ("renameat", 264), ("renameat2", 316), ("link", 86), ("linkat", 265), ("symlink", 88),
   ("symlinkat", 266), ("chmod", 90), ("fchmod", 91), ("fchmodat", 268), ("fchmodat2", 452),
   ("chown", 92), ("fchown", 93), ("lchown", 94), ("fchownat", 260), ("umask", 95),
   ("truncate", 76), ("ftruncate", 77), ("fallocate", 285), ("fsync", 74), ("fdatasync", 75),
   ("utime", 132), ("utimes", 235), ("futimesat", 261), ("utimensat", 280), ("flock", 73),
   ("getxattr", 191), ("lgetxattr", 192), ("fgetxattr", 193), ("listxattr", 194),
   ("llistxattr", 195), ("flistxattr", 196), ("setxattr", 188), ("lsetxattr", 189),
   ("fsetxattr", 190), ("removexattr", 197), ("lremovexattr", 198), ("fremovexattr", 199),
   ("brk", 12), ("mmap", 9), ("mprotect", 10), ("munmap", 11), ("mremap", 25), ("madvise", 28),
   ("mincore", 27), ("membarrier", 324), ("msync", 26), ("futex", 202), ("futex_waitv", 449),
   ("set_robust_list", 273), ("get_robust_list", 274), ("rseq", 334), ("set_tid_address", 218),
   ("sched_yield", 24), ("sched_getaffinity", 204), ("sched_getscheduler", 145),
   ("sched_getparam", 143), ("getcpu", 309), ("restart_syscall", 219), ("clock_gettime", 228),
   ("clock_getres", 229), ("clock_nanosleep", 230), ("gettimeofday", 96), ("time", 201),
   ("nanosleep", 35), ("poll", 7), ("ppoll", 271), ("select", 23), ("pselect6", 270),
   ("epoll_create", 213), ("epoll_ctl", 233), ("epoll_wait", 232), ("epoll_pwait", 281),
   ("epoll_pwait2", 441), ("eventfd", 284), ("timerfd_settime", 286), ("timerfd_gettime", 287),
   ("rt_sigaction", 13), ("rt_sigprocmask", 14), ("rt_sigpending", 127), ("rt_sigtimedwait", 128),
   ("rt_sigsuspend", 130), ("rt_sigreturn", 15), ("sigaltstack", 131), ("kill", 62), ("tkill", 200),
   ("tgkill", 234), ("rt_sigqueueinfo", 129), ("rt_tgsigqueueinfo", 297), ("signalfd", 282),
   ("alarm", 37), ("getitimer", 36), ("setitimer", 38), ("pause", 34), ("getpid", 39),
   ("getppid", 110), ("gettid", 186), ("getuid", 102), ("geteuid", 107), ("getgid", 104),
   ("getegid", 108), ("getresuid", 118), ("getresgid", 120), ("getgroups", 115), ("capget", 125),
   ("getpgid", 121), ("getpgrp", 111), ("getsid", 124), ("getrlimit", 97), ("getrusage", 98),
   ("uname", 63), ("sysinfo", 99), ("getrandom", 318), ("fork", 57), ("vfork", 58), ("execve", 59),
   ("execveat", 322), ("wait4", 61), ("waitid", 247), ("exit", 60), ("exit_group", 231),
   ("setpgid", 109), ("setsid", 112), ("bind", 49), ("listen", 50), ("accept", 43), ("connect", 42),
   ("getsockname", 51), ("getpeername", 52), ("shutdown", 48), ("sendto", 44), ("recvfrom", 45)]

def arm64Unconditional : List (String × Word) :=
  [("read", 63), ("write", 64), ("readv", 65), ("writev", 66), ("pread64", 67), ("pwrite64", 68),
   ("preadv", 69), ("pwritev", 70), ("preadv2", 286), ("pwritev2", 287), ("lseek", 62),
   ("close", 57), ("close_range", 436), ("dup", 23), ("sendfile", 71), ("copy_file_range", 285),
   ("splice", 76), ("tee", 77), ("vmsplice", 75), ("openat", 56), ("openat2", 437), ("fstat", 80),
   ("newfstatat", 79), ("statx", 291), ("statfs", 43), ("fstatfs", 44), ("faccessat", 48),
   ("faccessat2", 439), ("getdents64", 61), ("readlinkat", 78), ("getcwd", 17), ("chdir", 49),
   ("fchdir", 50), ("mkdirat", 34), ("unlinkat", 35), ("renameat", 38), ("renameat2", 276),
   ("linkat", 37), ("symlinkat", 36), ("fchmod", 52), ("fchmodat", 53), ("fchmodat2", 452),
   ("fchown", 55), ("fchownat", 54), ("umask", 166), ("truncate", 45), ("ftruncate", 46),
   ("fallocate", 47), ("fsync", 82), ("fdatasync", 83), ("utimensat", 88), ("flock", 32),
   ("getxattr", 8), ("lgetxattr", 9), ("fgetxattr", 10), ("listxattr", 11), ("llistxattr", 12),
   ("flistxattr", 13), ("setxattr", 5), ("lsetxattr", 6), ("fsetxattr", 7), ("removexattr", 14),
   ("lremovexattr", 15), ("fremovexattr", 16), ("brk", 214), ("mmap", 222), ("mprotect", 226),
   ("munmap", 215), ("mremap", 216), ("madvise", 233), ("mincore", 232), ("membarrier", 283),
   ("msync", 227), ("futex", 98), ("futex_waitv", 449), ("set_robust_list", 99),
   ("get_robust_list", 100), ("rseq", 293), ("set_tid_address", 96), ("sched_yield", 124),
   ("sched_getaffinity", 123), ("sched_getscheduler", 120), ("sched_getparam", 121),
   ("getcpu", 168), ("restart_syscall", 128), ("clock_gettime", 113), ("clock_getres", 114),
   ("clock_nanosleep", 115), ("gettimeofday", 169), ("nanosleep", 101), ("ppoll", 73),
   ("pselect6", 72), ("epoll_ctl", 21), ("epoll_pwait", 22), ("epoll_pwait2", 441),
   ("timerfd_settime", 86), ("timerfd_gettime", 87), ("rt_sigaction", 134), ("rt_sigprocmask", 135),
   ("rt_sigpending", 136), ("rt_sigtimedwait", 137), ("rt_sigsuspend", 133), ("rt_sigreturn", 139),
   ("sigaltstack", 132), ("kill", 129), ("tkill", 130), ("tgkill", 131), ("rt_sigqueueinfo", 138),
   ("rt_tgsigqueueinfo", 240), ("getitimer", 102), ("setitimer", 103), ("getpid", 172),
   ("getppid", 173), ("gettid", 178), ("getuid", 174), ("geteuid", 175), ("getgid", 176),
   ("getegid", 177), ("getresuid", 148), ("getresgid", 150), ("getgroups", 158), ("capget", 90),
   ("getpgid", 155), ("getsid", 156), ("getrlimit", 163), ("getrusage", 165), ("uname", 160),
   ("sysinfo", 179), ("getrandom", 278), ("execve", 221), ("execveat", 281), ("wait4", 260),
   ("waitid", 95), ("exit", 93), ("exit_group", 94), ("setpgid", 154), ("setsid", 157),
   ("bind", 200), ("listen", 201), ("accept", 202), ("connect", 203), ("getsockname", 204),
   ("getpeername", 205), ("shutdown", 210), ("sendto", 206), ("recvfrom", 207)]

def unconditionalCatalogue : NativeAbi → List (String × Word)
  | .x86_64 => x64Unconditional
  | .aarch64 => arm64Unconditional

def NativeAbi.auditArch : NativeAbi → Word
  | .x86_64 => 0xc000003e
  | .aarch64 => 0xc00000b7

def NativeAbi.syscalls : NativeAbi → Syscalls
  | .x86_64 =>
    { socket := 41, socketpair := 53, clone := 56, clone3 := 435, fcntl := 72, ioctl := 16
      getsockopt := 55, setsockopt := 54, prctl := 157, prlimit64 := 302, archPrctl := some 158
      accept4 := 288, pipe2 := 293, dup3 := 292, eventfd2 := 290, epollCreate1 := 291,
      signalfd4 := 289
      timerfdCreate := 283 }
  | .aarch64 =>
    { socket := 198, socketpair := 199, clone := 220, clone3 := 435, fcntl := 25, ioctl := 29
      getsockopt := 209, setsockopt := 208, prctl := 167, prlimit64 := 261, archPrctl := none
      accept4 := 242, pipe2 := 59, dup3 := 24, eventfd2 := 19, epollCreate1 := 20, signalfd4 := 74
      timerfdCreate := 85 }

/-! ## Instructions -/

def instruction (code : BitVec 16) (jt jf : BitVec 8) (k : Word) : Instruction := ⟨code, jt, jf, k⟩

def load (offset : Word) : Instruction := instruction bpfLdWAbs 0 0 offset

def jumpEqual (value : Word) (onEqual onOther : BitVec 8) : Instruction :=
  instruction bpfJmpJeqK onEqual onOther value

def returnAction (value : Word) : Instruction := instruction bpfRetK 0 0 value

def errno (value : Word) : Word := seccompRetErrno ||| value

/-- The pushes of a rule: the jump on its value, the jump over its checks, the checks, and the load
after them. -/
def rule (value : Word) (checks : List Instruction) (reload : Word) : List Instruction :=
  jumpEqual value 1 0 ::
    instruction bpfJmpJa 0 0 (BitVec.ofNat 32 checks.length) :: (checks ++ [load reload])

/-- The pushes of a list of accepted values. -/
def allowEach (values : List Word) : List Instruction :=
  values.flatMap fun value => [jumpEqual value 0 1, returnAction seccompRetAllow]

/-! ## Checks of arguments -/

def socketChecks : List Instruction :=
  let familyError := errno eafnosupport
  let protocolError := errno eprotonosupport
  let socketFlags := sockStream ||| sockNonblock ||| sockCloexec
  [load arg0High, jumpEqual 0 1 0, returnAction familyError, load arg0Low, jumpEqual afInet 1 0,
    returnAction familyError,
    load arg1High,
    jumpEqual 0 1 0,
    returnAction protocolError,
    load arg1Low,
    instruction bpfJmpJsetK 0 1 (~~~socketFlags),
    returnAction protocolError,
    instruction bpfAluAndK 0 0 0xf,
    jumpEqual sockStream 1 0,
    returnAction protocolError,
    load arg2High,
    jumpEqual 0 1 0,
    returnAction protocolError,
    load arg2Low,
    jumpEqual 0 2 0,
    jumpEqual ipprotoTcp 1 0,
    returnAction protocolError,
    returnAction seccompRetAllow]

/-- `allowed_flags` of `clone_checks` -/
def allowedFlags : Word :=
  cloneVm ||| cloneFs ||| cloneFiles ||| cloneSighand ||| cloneThread ||| cloneSysvsem |||
    cloneSettls ||| cloneParentSettid ||| cloneChildSettid ||| cloneChildCleartid ||| cloneVfork

/-- `required_thread_flags` of `clone_checks` -/
def requiredThreadFlags : Word := cloneVm ||| cloneSighand

def cloneChecks : List Instruction :=
  let denied := errno eperm
  [load arg0High, jumpEqual 0 1 0, returnAction denied, load arg0Low,
    instruction bpfJmpJsetK 0 1 (~~~(allowedFlags ||| 0xff)),
    returnAction denied,
    load arg0Low,
    instruction bpfAluAndK 0 0 0xff,
    jumpEqual 0 2 0,
    jumpEqual sigchld 1 0,
    returnAction denied,
    load arg0Low,
    instruction bpfJmpJsetK 0 8 cloneThread,
    load arg0Low,
    instruction bpfAluAndK 0 0 requiredThreadFlags,
    jumpEqual requiredThreadFlags 1 0,
    returnAction denied,
    load arg0Low,
    instruction bpfAluAndK 0 0 0xff,
    jumpEqual 0 1 0,
    returnAction denied,
    returnAction seccompRetAllow]

def scalarFlagsChecks (lowOffset highOffset allowedBits : Word) : List Instruction :=
  let denied := errno eperm
  [load highOffset, jumpEqual 0 1 0, returnAction denied, load lowOffset,
    instruction bpfJmpJsetK 0 1 (~~~allowedBits),
    returnAction denied,
    returnAction seccompRetAllow]

/-- The commands `fcntl_checks` allows with any argument. -/
def fcntlCommands : List Word :=
  [fGetfd, fGetfl, fGetSeals, fDupfd, fDupfdCloexec, fGetlk, fSetlk, fSetlkw, fOfdGetlk, fOfdSetlk,
    fOfdSetlkw]

/-- The commands `fcntl_checks` allows with some bits of an argument. -/
def fcntlArgumentCommands (oLargefile : Word) : List (Word × Word) :=
  [(fSetfd, fdCloexec), (fSetfl, oAccmode ||| oAppend ||| oNonblock ||| oLargefile)]

/-- `fcntl_checks`. The argument checks in its loop are those of `scalar_flags_checks`. -/
def fcntlChecks (oLargefile : Word) : List Instruction :=
  let denied := errno eperm
  [load arg1High, jumpEqual 0 1 0, returnAction denied, load arg1Low] ++ allowEach fcntlCommands ++
    ((fcntlArgumentCommands oLargefile).flatMap fun command =>
      rule command.1 (scalarFlagsChecks arg2Low arg2High command.2) arg1Low) ++
    [returnAction denied]

/-- The commands of `ioctl_checks`. -/
def ioctlCommands : List Word := [fionbio, fionread, tcgets, tiocgwinsz]

def ioctlChecks : List Instruction :=
  let denied := errno eperm
  [load arg1High, jumpEqual 0 1 0, returnAction denied, load arg1Low] ++ allowEach ioctlCommands ++
    [returnAction denied]

/-- The socket options of `socket_option_checks`, with those only a read may name. -/
def socketOptions (read : Bool) : List Word :=
  [soReuseaddr, soKeepalive, soRcvbuf, soSndbuf, soRcvtimeo, soSndtimeo, soLinger] ++
    if read then [soError, soType, soDomain, soProtocol, soAcceptconn] else []

/-- The TCP options of `socket_option_checks`. -/
def tcpOptions : List Word := [tcpNodelay, tcpKeepidle, tcpKeepintvl, tcpKeepcnt]

def socketOptionChecks (read : Bool) : List Instruction :=
  let denied := errno eperm
  [load arg1High, jumpEqual 0 1 0, returnAction denied, load arg2High, jumpEqual 0 1 0,
    returnAction denied, load arg1Low] ++
    ([(solSocket, socketOptions read), (ipprotoTcp, tcpOptions)].flatMap fun level =>
      rule level.1 (load arg2Low :: (allowEach level.2 ++ [returnAction denied])) arg1Low) ++
    [returnAction denied]

def firstArgumentZeroChecks : List Instruction :=
  let denied := errno eperm
  [load arg0High, jumpEqual 0 1 0, returnAction denied, load arg0Low, jumpEqual 0 1 0,
    returnAction denied, returnAction seccompRetAllow]

def firstArgumentCommandChecks (commands : List Word) : List Instruction :=
  let denied := errno eperm
  [load arg0High, jumpEqual 0 1 0, returnAction denied, load arg0Low] ++ allowEach commands ++
    [returnAction denied]

/-- The commands of `prctl_checks`. -/
def prctlCommands : List Word :=
  [prGetNoNewPrivs, prGetDumpable, prGetName, prSetName, prGetSeccomp, prGetSecurebits,
    prGetTimerslack]

def prctlChecks : List Instruction := firstArgumentCommandChecks prctlCommands

/-- The commands of `arch_prctl_checks`: `ARCH_SET_FS` and `ARCH_GET_FS`. -/
def archPrctlCommands : List Word := [0x1002, 0x1003]

def archPrctlChecks : List Instruction := firstArgumentCommandChecks archPrctlCommands

/-! ## The compiler -/

/-- The scalar rules of `compile_initial_closed_filter`, in the order of its loop. -/
def scalarRules (oLargefile : Word) (numbers : Syscalls) : List (Word × List Instruction) :=
  [(numbers.fcntl, fcntlChecks oLargefile), (numbers.ioctl, ioctlChecks),
    (numbers.getsockopt, socketOptionChecks true),
    (numbers.setsockopt, socketOptionChecks false),
    (numbers.prctl, prctlChecks),
    (numbers.prlimit64, firstArgumentZeroChecks),
    (numbers.accept4, scalarFlagsChecks arg3Low arg3High (sockCloexec ||| sockNonblock)),
    (numbers.pipe2, scalarFlagsChecks arg1Low arg1High (oCloexec ||| oNonblock)),
    (numbers.dup3, scalarFlagsChecks arg2Low arg2High oCloexec),
    (numbers.eventfd2, scalarFlagsChecks arg1Low arg1High (efdCloexec ||| efdNonblock)),
    (numbers.epollCreate1, scalarFlagsChecks arg0Low arg0High epollCloexec),
    (numbers.signalfd4, scalarFlagsChecks arg3Low arg3High (sfdCloexec ||| sfdNonblock)),
    (numbers.timerfdCreate, scalarFlagsChecks arg1Low arg1High (tfdCloexec ||| tfdNonblock))]

/-- The instructions `compile_initial_closed_filter` pushes. -/
def initialClosedProgram (oLargefile : Word) (abi : NativeAbi) : List Instruction :=
  let numbers := abi.syscalls
  [load archOffset, jumpEqual abi.auditArch 1 0, returnAction seccompRetKillProcess,
    load nrOffset] ++ (if abi = .x86_64 then
      [instruction bpfJmpJsetK 0 1 0x40000000, returnAction seccompRetKillProcess]
    else []) ++
    ([(numbers.clone3, errno enosys), (numbers.socketpair, errno eperm)].flatMap fun entry =>
      [jumpEqual entry.1 0 1, returnAction entry.2]) ++
    rule numbers.clone cloneChecks nrOffset ++
    ((scalarRules oLargefile numbers).flatMap fun entry => rule entry.1 entry.2 nrOffset) ++
    (match numbers.archPrctl with
      | some number => rule number archPrctlChecks nrOffset
      | none => []) ++
    rule numbers.socket socketChecks nrOffset ++
    ((unconditionalCatalogue abi).flatMap fun entry =>
      [jumpEqual entry.2 0 1, returnAction seccompRetAllow]) ++
    [returnAction (errno eperm)]

/-- The jump from `position` that skips `delta` instructions stays in a program of `length`. -/
def checkTarget (length position delta : ℕ) : Except String Unit :=
  if position + 1 + delta < length then .ok () else .error "cBPF jump escapes instruction array"

/-- The checks `validate_program` makes of one instruction. -/
def validateInstruction (length : ℕ) (i : Instruction) (position : ℕ) : Except String Unit :=
  if i.code = bpfRetK then .ok ()
  else if i.code = bpfLdWAbs ∨ i.code = bpfAluAndK then checkTarget length position 0
  else if i.code = bpfJmpJeqK ∨ i.code = bpfJmpJsetK then do
    checkTarget length position i.jt.toNat
    checkTarget length position i.jf.toNat
  else if i.code = bpfJmpJa then checkTarget length position i.k.toNat
  else .error "unknown cBPF instruction"

def validateProgram (program : List Instruction) : Except String Unit :=
  if program = [] ∨ kernelFilterInstructionLimit < program.length then
    .error "invalid cBPF instruction count"
  else
    program.zipIdx.forM fun entry => validateInstruction program.length entry.1 entry.2

/-- `compile_initial_closed_filter`. Nothing is returned where the validation it expects fails. -/
def compileInitialClosedFilter (oLargefile : Word) (abi : NativeAbi) : Option (List Instruction) :=
  match validateProgram (initialClosedProgram oLargefile abi) with
  | .ok () => some (initialClosedProgram oLargefile abi)
  | .error _ => none

end MemCordon.NetworkFilter
