import QbdiTracer.Dispatch.Base

/-! The two static handler tables of `DispatchSyscall::dispatch_args`. A table is
searched from the front, so the first of two entries with one number is the one
`unordered_map` keeps. -/

namespace QbdiTracer

/-- The `__NR_` and `__NR3264_` macros the tables are keyed by. Their values come
from the system header `<sys/syscall.h>`. -/
inductive SyscallNr where
  | nr_io_setup | nr_io_destroy | nr_io_submit | nr_io_cancel | nr_io_getevents | nr_setxattr
  | nr_lsetxattr | nr_fsetxattr | nr_getxattr | nr_lgetxattr | nr_fgetxattr | nr_listxattr
  | nr_llistxattr | nr_flistxattr | nr_removexattr | nr_lremovexattr | nr_fremovexattr
  | nr_getcwd | nr_lookup_dcookie | nr_eventfd2 | nr_epoll_create1 | nr_epoll_ctl
  | nr_epoll_pwait | nr_dup | nr_dup3 | nr_fcntl | nr_inotify_init1 | nr_inotify_add_watch
  | nr_inotify_rm_watch | nr_ioctl | nr_ioprio_set | nr_ioprio_get | nr_flock | nr_mknodat
  | nr_mkdirat | nr_unlinkat | nr_symlinkat | nr_linkat | nr_renameat | nr_umount2 | nr_mount
  | nr_pivot_root | nr_nfsservctl | nr3264_statfs | nr3264_fstatfs | nr3264_truncate
  | nr3264_ftruncate | nr_fallocate | nr_faccessat | nr_chdir | nr_fchdir | nr_chroot | nr_fchmod
  | nr_fchmodat | nr_fchownat | nr_fchown | nr_openat | nr_close | nr_vhangup | nr_pipe2
  | nr_quotactl | nr_getdents64 | nr3264_lseek | nr_read | nr_write | nr_readv | nr_writev
  | nr_pread64 | nr_pwrite64 | nr_preadv | nr_pwritev | nr3264_sendfile | nr_pselect6 | nr_ppoll
  | nr_signalfd4 | nr_vmsplice | nr_splice | nr_tee | nr_readlinkat | nr3264_fstatat
  | nr3264_fstat | nr_sync | nr_fsync | nr_fdatasync | nr_sync_file_range | nr_timerfd_create
  | nr_timerfd_settime | nr_timerfd_gettime | nr_utimensat | nr_acct | nr_capget | nr_capset
  | nr_personality | nr_exit | nr_exit_group | nr_waitid | nr_set_tid_address | nr_unshare
  | nr_futex | nr_set_robust_list | nr_get_robust_list | nr_nanosleep | nr_getitimer
  | nr_setitimer | nr_kexec_load | nr_init_module | nr_delete_module | nr_timer_create
  | nr_timer_gettime | nr_timer_getoverrun | nr_timer_settime | nr_timer_delete
  | nr_clock_settime | nr_clock_gettime | nr_clock_getres | nr_clock_nanosleep | nr_syslog
  | nr_ptrace | nr_sched_setparam | nr_sched_setscheduler | nr_sched_getscheduler
  | nr_sched_getparam | nr_sched_setaffinity | nr_sched_getaffinity | nr_sched_yield
  | nr_sched_get_priority_max | nr_sched_get_priority_min | nr_sched_rr_get_interval
  | nr_restart_syscall | nr_kill | nr_tkill | nr_tgkill | nr_sigaltstack | nr_rt_sigsuspend
  | nr_rt_sigaction | nr_rt_sigprocmask | nr_rt_sigpending | nr_rt_sigtimedwait
  | nr_rt_sigqueueinfo | nr_rt_sigreturn | nr_setpriority | nr_getpriority | nr_reboot
  | nr_setregid | nr_setgid | nr_setreuid | nr_setuid | nr_setresuid | nr_getresuid
  | nr_setresgid | nr_getresgid | nr_setfsuid | nr_setfsgid | nr_times | nr_setpgid | nr_getpgid
  | nr_getsid | nr_setsid | nr_getgroups | nr_setgroups | nr_uname | nr_sethostname
  | nr_setdomainname | nr_getrlimit | nr_setrlimit | nr_getrusage | nr_umask | nr_prctl
  | nr_getcpu | nr_gettimeofday | nr_settimeofday | nr_adjtimex | nr_getpid | nr_getppid
  | nr_getuid | nr_geteuid | nr_getgid | nr_getegid | nr_gettid | nr_sysinfo | nr_mq_open
  | nr_mq_unlink | nr_mq_timedsend | nr_mq_timedreceive | nr_mq_notify | nr_mq_getsetattr
  | nr_msgget | nr_msgctl | nr_msgrcv | nr_msgsnd | nr_semget | nr_semctl | nr_semtimedop
  | nr_semop | nr_shmget | nr_shmctl | nr_shmat | nr_shmdt | nr_socket | nr_socketpair | nr_bind
  | nr_listen | nr_accept | nr_connect | nr_getsockname | nr_getpeername | nr_sendto
  | nr_recvfrom | nr_setsockopt | nr_getsockopt | nr_shutdown | nr_sendmsg | nr_recvmsg
  | nr_readahead | nr_brk | nr_munmap | nr_mremap | nr_add_key | nr_request_key | nr_keyctl
  | nr_clone | nr_execve | nr3264_mmap | nr3264_fadvise64 | nr_swapon | nr_swapoff | nr_mprotect
  | nr_msync | nr_mlock | nr_mlockall | nr_mincore | nr_madvise | nr_remap_file_pages | nr_mbind
  | nr_get_mempolicy | nr_set_mempolicy | nr_migrate_pages | nr_move_pages | nr_rt_tgsigqueueinfo
  | nr_perf_event_open | nr_accept4 | nr_recvmmsg | nr_arch_specific_syscall | nr_wait4
  | nr_prlimit64 | nr_fanotify_init | nr_fanotify_mark | nr_name_to_handle_at
  | nr_open_by_handle_at | nr_clock_adjtime | nr_syncfs | nr_setns | nr_sendmmsg
  | nr_process_vm_readv | nr_process_vm_writev | nr_kcmp | nr_finit_module | nr_sched_setattr
  | nr_sched_getattr | nr_renameat2 | nr_seccomp | nr_getrandom | nr_memfd_create | nr_bpf
  | nr_execveat | nr_userfaultfd | nr_membarrier | nr_mlock2 | nr_copy_file_range | nr_preadv2
  | nr_pwritev2 | nr_pkey_mprotect | nr_pkey_alloc | nr_pkey_free | nr_statx | nr_syscalls
  | nr_fork | nr_open | nr_creat | nr_unlink | nr_mknod | nr_chmod | nr_lchown | nr_lseek
  | nr_pause | nr_access | nr_nice | nr_rename | nr_mkdir | nr_rmdir | nr_pipe | nr_ustat
  | nr_dup2 | nr_getpgrp | nr_sigaction | nr_sigsuspend | nr_sigpending | nr_symlink
  | nr_readlink | nr_uselib | nr_truncate | nr_ftruncate | nr_statfs | nr_fstatfs | nr_stat
  | nr_lstat | nr_fstat | nr_sigreturn | nr_sigprocmask | nr_bdflush | nr_sysfs | nr__llseek
  | nr_getdents | nr__newselect | nr__sysctl | nr_munlock | nr_munlockall | nr_poll | nr_chown
  | nr_sendfile | nr_vfork | nr_ugetrlimit | nr_mmap2 | nr_truncate64 | nr_ftruncate64
  | nr_stat64 | nr_lstat64 | nr_fstat64 | nr_lchown32 | nr_getuid32 | nr_getgid32 | nr_geteuid32
  | nr_getegid32 | nr_setreuid32 | nr_setregid32 | nr_getgroups32 | nr_setgroups32 | nr_fchown32
  | nr_setresuid32 | nr_getresuid32 | nr_setresgid32 | nr_getresgid32 | nr_chown32 | nr_setuid32
  | nr_setgid32 | nr_setfsuid32 | nr_setfsgid32 | nr_fcntl64 | nr_sendfile64 | nr_epoll_create
  | nr_epoll_wait | nr_statfs64 | nr_fstatfs64 | nr_utimes | nr_arm_fadvise64_64 | nr_send
  | nr_recv | nr_vserver | nr_inotify_init | nr_futimesat | nr_fstatat64 | nr_signalfd
  | nr_eventfd

/-- One `args.push_back(fmt::format(..))` of a handler, on captured argument `arg`. -/
inductive ArgText where
  /-- `"name={:#x}"` of the word. -/
  | hex (name : String) (arg : Nat)
  /-- `"name={}"` of the word. -/
  | dec (name : String) (arg : Nat)
  /-- `"name={}"` of the text read from the address. -/
  | str (name : String) (arg : Nat)
  /-- `"name={:#x}"` of the text: `fmt` has no such presentation and throws. -/
  | strAsHex (name : String) (arg : Nat)
  /-- `"name={:#x}"`, pushed only when the word is not 0. -/
  | hexIfNonzero (name : String) (arg : Nat)

def ArgText.arg : ArgText → Nat
  | .hex _ arg | .dec _ arg | .str _ arg | .strAsHex _ arg | .hexIfNonzero _ arg => arg

/-- The body of a handler: a list of pushes with at most one `ret_type`
assignment, or the `switch` of the AArch64 `prctl`. -/
inductive HandlerBody where
  | push (texts : List ArgText) (retType : Option FunDataType)
  | prctl

structure SyscallEntry where
  nr : SyscallNr
  name : String
  body : HandlerBody

/-- An entry whose handler sets `ret_type = kNumber`, as nearly all do. -/
def SyscallEntry.number (nr : SyscallNr) (name : String) (texts : List ArgText) : SyscallEntry :=
  ⟨nr, name, .push texts (some .kNumber)⟩

def SyscallEntry.typed (nr : SyscallNr) (name : String) (texts : List ArgText)
    (retType : FunDataType) : SyscallEntry :=
  ⟨nr, name, .push texts (some retType)⟩

/-- An entry whose handler leaves `ret_type` alone. -/
def SyscallEntry.untyped (nr : SyscallNr) (name : String) (texts : List ArgText) : SyscallEntry :=
  ⟨nr, name, .push texts none⟩

def armHandlers : List SyscallEntry :=
  [.number .nr_exit "exit" [.hex "status" 0],
   .number .nr_fork "fork" [],
   .number .nr_read "read" [.hex "fd" 0, .hex "buf" 1, .hex "count" 2],
   .number .nr_write "write" [.hex "fd" 0, .hex "buf" 1, .hex "count" 2],
   .number .nr_open "open" [.str "pathname" 0, .hex "flags" 1, .hex "mode" 2],
   .number .nr_close "close" [.hex "fd" 0],
   .number .nr_creat "creat" [.str "pathname" 0, .hex "mode" 1],
   .number .nr_unlink "unlink" [.str "pathname" 0],
   .number .nr_execve "execve" [.str "pathname" 0, .hex "argv" 1, .hex "envp" 2],
   .number .nr_chdir "chdir" [.str "path" 0],
   .number .nr_mknod "mknod" [.str "pathname" 0, .hex "mode" 1, .hex "dev" 2],
   .number .nr_chmod "chmod" [.str "pathname" 0, .hex "mode" 1],
   .number .nr_lchown "lchown" [.str "pathname" 0, .hex "owner" 1, .hex "group" 2],
   .number .nr_lseek "lseek" [.hex "fd" 0, .hex "offset" 1, .hex "whence" 2],
   .number .nr_getpid "getpid" [],
   .number .nr_mount "mount" [.str "source" 0, .str "target" 1, .str "filesystemtype" 2,
     .hex "mountflags" 3, .hex "data" 4],
   .number .nr_setuid "setuid" [.hex "uid" 0],
   .number .nr_getuid "getuid" [],
   .number .nr_ptrace "ptrace" [.hex "request" 0, .hex "pid" 1, .hex "addr" 2, .hex "data" 3],
   .number .nr_pause "pause" [],
   .number .nr_access "access" [.str "pathname" 0, .hex "mode" 1],
   .number .nr_nice "nice" [.hex "inc" 0],
   .number .nr_sync "sync" [],
   .number .nr_kill "kill" [.hex "pid" 0, .hex "sig" 1],
   .number .nr_rename "rename" [.str "oldpath" 0, .str "newpath" 1],
   .number .nr_mkdir "mkdir" [.str "pathname" 0, .hex "mode" 1],
   .number .nr_rmdir "rmdir" [.str "pathname" 0],
   .number .nr_dup "dup" [.hex "oldfd" 0],
   .number .nr_pipe "pipe" [.hex "pipefd" 0],
   .number .nr_times "times" [.hex "buf" 0],
   .number .nr_brk "brk" [.hex "addr" 0],
   .number .nr_setgid "setgid" [.hex "gid" 0],
   .number .nr_getgid "getgid" [],
   .number .nr_geteuid "geteuid" [],
   .number .nr_getegid "getegid" [],
   .number .nr_acct "acct" [.str "filename" 0],
   .number .nr_umount2 "umount2" [.str "target" 0, .hex "flags" 1],
   .number .nr_ioctl "ioctl" [.hex "fd" 0, .hex "request" 1, .hex "arg" 2],
   .number .nr_fcntl "fcntl" [.hex "fd" 0, .hex "cmd" 1, .hex "arg" 2],
   .number .nr_setpgid "setpgid" [.hex "pid" 0, .hex "pgid" 1],
   .number .nr_umask "umask" [.hex "mask" 0],
   .number .nr_chroot "chroot" [.str "path" 0],
   .number .nr_ustat "ustat" [.hex "dev" 0, .hex "ubuf" 1],
   .number .nr_dup2 "dup2" [.hex "oldfd" 0, .hex "newfd" 1],
   .number .nr_getppid "getppid" [],
   .number .nr_getpgrp "getpgrp" [],
   .number .nr_setsid "setsid" [],
   .number .nr_sigaction "sigaction" [.hex "sig" 0, .hex "act" 1, .hex "oldact" 2],
   .number .nr_setreuid "setreuid" [.hex "ruid" 0, .hex "euid" 1],
   .number .nr_setregid "setregid" [.hex "rgid" 0, .hex "egid" 1],
   .number .nr_sigsuspend "sigsuspend" [.hex "mask" 0],
   .number .nr_sigpending "sigpending" [.hex "set" 0],
   .number .nr_sethostname "sethostname" [.str "name" 0, .hex "len" 1],
   .number .nr_setrlimit "setrlimit" [.hex "resource" 0, .hex "rlim" 1],
   .number .nr_getrusage "getrusage" [.hex "who" 0, .hex "usage" 1],
   .number .nr_gettimeofday "gettimeofday" [.hex "tv" 0, .hex "tz" 1],
   .number .nr_settimeofday "settimeofday" [.hex "tv" 0, .hex "tz" 1],
   .number .nr_getgroups "getgroups" [.hex "size" 0, .hex "list" 1],
   .number .nr_setgroups "setgroups" [.hex "size" 0, .hex "list" 1],
   .number .nr_symlink "symlink" [.str "target" 0, .str "linkpath" 1],
   .number .nr_readlink "readlink" [.str "pathname" 0, .hex "buf" 1, .hex "bufsiz" 2],
   .number .nr_uselib "uselib" [.str "library" 0],
   .number .nr_swapon "swapon" [.str "path" 0, .hex "swapflags" 1],
   .number .nr_reboot "reboot" [.hex "magic" 0, .hex "magic2" 1, .hex "cmd" 2, .hex "arg" 3],
   .number .nr_munmap "munmap" [.hex "addr" 0, .hex "len" 1],
   .number .nr_truncate "truncate" [.str "path" 0, .hex "length" 1],
   .number .nr_ftruncate "ftruncate" [.hex "fd" 0, .hex "length" 1],
   .number .nr_fchmod "fchmod" [.hex "fd" 0, .hex "mode" 1],
   .number .nr_fchown "fchown" [.hex "fd" 0, .hex "owner" 1, .hex "group" 2],
   .number .nr_getpriority "getpriority" [.hex "which" 0, .hex "who" 1],
   .number .nr_setpriority "setpriority" [.hex "which" 0, .hex "who" 1, .hex "prio" 2],
   .number .nr_statfs "statfs" [.str "path" 0, .hex "buf" 1],
   .number .nr_fstatfs "fstatfs" [.hex "fd" 0, .hex "buf" 1],
   .number .nr_syslog "syslog" [.hex "type" 0, .hex "buf" 1, .hex "len" 2],
   .number .nr_setitimer "setitimer" [.hex "which" 0, .hex "new_value" 1, .hex "old_value" 2],
   .number .nr_getitimer "getitimer" [.hex "which" 0, .hex "curr_value" 1],
   .number .nr_stat "stat" [.str "pathname" 0, .hex "statbuf" 1],
   .number .nr_lstat "lstat" [.str "pathname" 0, .hex "statbuf" 1],
   .number .nr_fstat "fstat" [.hex "fd" 0, .hex "statbuf" 1],
   .number .nr_vhangup "vhangup" [],
   .number .nr_wait4 "wait4" [.hex "pid" 0, .hex "status" 1, .hex "options" 2, .hex "rusage" 3],
   .number .nr_swapoff "swapoff" [.str "path" 0],
   .number .nr_sysinfo "sysinfo" [.hex "info" 0],
   .number .nr_fsync "fsync" [.hex "fd" 0],
   .number .nr_sigreturn "sigreturn" [],
   .number .nr_clone "clone" [.hex "flags" 0, .hex "child_stack" 1, .hex "parent_tid" 2,
     .hex "child_tid" 3, .hex "tls" 4],
   .number .nr_setdomainname "setdomainname" [.str "name" 0, .hex "len" 1],
   .number .nr_uname "uname" [.hex "buf" 0],
   .number .nr_adjtimex "adjtimex" [.hex "buf" 0],
   .number .nr_mprotect "mprotect" [.hex "addr" 0, .hex "len" 1, .hex "prot" 2],
   .number .nr_sigprocmask "sigprocmask" [.hex "how" 0, .hex "set" 1, .hex "oldset" 2],
   .number .nr_init_module "init_module" [.hex "module_image" 0, .hex "len" 1,
     .hex "param_values" 2],
   .number .nr_delete_module "delete_module" [.str "name" 0, .hex "flags" 1],
   .number .nr_quotactl "quotactl" [.hex "cmd" 0, .str "special" 1, .hex "id" 2, .hex "addr" 3],
   .number .nr_getpgid "getpgid" [.hex "pid" 0],
   .number .nr_fchdir "fchdir" [.hex "fd" 0],
   .number .nr_bdflush "bdflush" [.hex "func" 0, .hex "data" 1],
   .number .nr_sysfs "sysfs" [.hex "option" 0, .hex "arg1" 1, .hex "arg2" 2],
   .number .nr_personality "personality" [.hex "persona" 0],
   .number .nr_setfsuid "setfsuid" [.hex "uid" 0],
   .number .nr_setfsgid "setfsgid" [.hex "gid" 0],
   .number .nr__llseek "_llseek" [.hex "fd" 0, .hex "offset_high" 1, .hex "offset_low" 2,
     .hex "result" 3, .hex "whence" 4],
   .number .nr_getdents "getdents" [.hex "fd" 0, .hex "dirp" 1, .hex "count" 2],
   .number .nr__newselect "_newselect" [.hex "nfds" 0, .hex "readfds" 1, .hex "writefds" 2,
     .hex "exceptfds" 3, .hex "timeout" 4],
   .number .nr_flock "flock" [.hex "fd" 0, .hex "cmd" 1, .hex "lock" 2],
   .number .nr_msync "msync" [.hex "addr" 0, .hex "length" 1, .hex "flags" 2],
   .number .nr_readv "readv" [.hex "fd" 0, .hex "iov" 1, .hex "iovcnt" 2],
   .number .nr_writev "writev" [.hex "fd" 0, .hex "iov" 1, .hex "iovcnt" 2],
   .number .nr_getsid "getsid" [.hex "pid" 0],
   .number .nr_fdatasync "fdatasync" [.hex "fd" 0],
   .number .nr__sysctl "_sysctl" [.hex "args" 0],
   .number .nr_mlock "mlock" [.hex "addr" 0, .hex "len" 1],
   .number .nr_munlock "munlock" [.hex "addr" 0, .hex "len" 1],
   .number .nr_mlockall "mlockall" [.hex "flags" 0],
   .number .nr_munlockall "munlockall" [],
   .number .nr_sched_setparam "sched_setparam" [.hex "pid" 0, .hex "param" 1],
   .number .nr_sched_getparam "sched_getparam" [.hex "pid" 0, .hex "param" 1],
   .untyped .nr_sched_setscheduler "sched_setscheduler" [.hex "pid" 0, .hex "policy" 1,
     .hex "param" 2],
   .number .nr_sched_getscheduler "sched_getscheduler" [.hex "pid" 0],
   .number .nr_sched_yield "sched_yield" [],
   .untyped .nr_sched_get_priority_max "sched_get_priority_max" [.hex "policy" 0],
   .number .nr_sched_get_priority_min "sched_get_priority_min" [.hex "policy" 0],
   .untyped .nr_sched_rr_get_interval "sched_rr_get_interval" [.hex "pid" 0, .hex "ts" 1],
   .number .nr_nanosleep "nanosleep" [.hex "req" 0, .hex "rem" 1],
   .number .nr_mremap "mremap" [.hex "old_address" 0, .hex "old_size" 1, .hex "new_size" 2,
     .hex "flags" 3, .hex "new_address" 4],
   .number .nr_setresuid "setresuid" [.hex "ruid" 0, .hex "euid" 1, .hex "suid" 2],
   .number .nr_getresuid "getresuid" [.hex "ruid" 0, .hex "euid" 1, .hex "suid" 2],
   .number .nr_poll "poll" [.hex "fds" 0, .hex "nfds" 1, .hex "timeout" 2],
   .number .nr_nfsservctl "nfsservctl" [.hex "cmd" 0, .hex "arg" 1, .hex "buf" 2,
     .hex "buflen" 3],
   .number .nr_setresgid "setresgid" [.hex "rgid" 0, .hex "egid" 1, .hex "sgid" 2],
   .number .nr_prctl "prctl" [.hex "option" 0, .hex "arg2" 1, .hex "arg3" 2, .hex "arg4" 3,
     .hex "arg5" 4],
   .number .nr_rt_sigreturn "rt_sigreturn" [],
   .number .nr_rt_sigaction "rt_sigaction" [.hex "signum" 0, .hex "act" 1, .hex "oldact" 2],
   .number .nr_rt_sigprocmask "rt_sigprocmask" [.hex "how" 0, .hex "set" 1, .hex "oldset" 2],
   .number .nr_rt_sigpending "rt_sigpending" [.hex "set" 0, .hex "sigsetsize" 1],
   .number .nr_rt_sigtimedwait "rt_sigtimedwait" [.hex "uthese" 0, .hex "uinfo" 1, .hex "uts" 2,
     .hex "sigsetsize" 3],
   .number .nr_rt_sigqueueinfo "rt_sigqueueinfo" [.hex "pid" 0, .hex "sig" 1, .hex "uinfo" 2],
   .number .nr_rt_sigsuspend "rt_sigsuspend" [.hex "unewset" 0, .hex "sigsetsize" 1],
   .number .nr_pread64 "pread64" [.hex "fd" 0, .hex "buf" 1, .hex "count" 2, .hex "offset" 3],
   .number .nr_pwrite64 "pwrite64" [.hex "fd" 0, .hex "buf" 1, .hex "count" 2, .hex "offset" 3],
   .number .nr_chown "chown" [.str "pathname" 0, .hex "owner" 1, .hex "group" 2],
   .typed .nr_getcwd "getcwd" [.hex "buf" 0, .hex "size" 1] .kString,
   .number .nr_capget "capget" [.hex "hdrp" 0, .hex "datap" 1],
   .number .nr_capset "capset" [.hex "hdrp" 0, .hex "datap" 1],
   .number .nr_sigaltstack "sigaltstack" [.hex "ss" 0, .hex "oss" 1],
   .number .nr_sendfile "sendfile" [.hex "out_fd" 0, .hex "in_fd" 1, .hex "offset" 2,
     .hex "count" 3],
   .number .nr_vfork "vfork" [],
   .number .nr_ugetrlimit "ugetrlimit" [.hex "resource" 0, .hex "rlim" 1],
   .typed .nr_mmap2 "mmap2" [.hex "addr" 0, .hex "length" 1, .hex "prot" 2, .hex "flags" 3,
     .hex "fd" 4, .hex "pgoffset" 5] .kPointer,
   .number .nr_truncate64 "truncate64" [.str "path" 0, .hex "length" 1],
   .number .nr_ftruncate64 "ftruncate64" [.hex "fd" 0, .hex "length" 1],
   .number .nr_stat64 "stat64" [.str "pathname" 0, .hex "statbuf" 1],
   .number .nr_lstat64 "lstat64" [.str "pathname" 0, .hex "statbuf" 1],
   .number .nr_fstat64 "fstat64" [.hex "fd" 0, .hex "statbuf" 1],
   .number .nr_lchown32 "lchown32" [.str "pathname" 0, .hex "owner" 1, .hex "group" 2],
   .number .nr_getuid32 "getuid32" [],
   .number .nr_getgid32 "getgid32" [],
   .number .nr_geteuid32 "geteuid32" [],
   .number .nr_getegid32 "getegid32" [],
   .number .nr_setreuid32 "setreuid32" [.hex "ruid" 0, .hex "euid" 1],
   .number .nr_setregid32 "setregid32" [.hex "rgid" 0, .hex "egid" 1],
   .number .nr_getgroups32 "getgroups32" [.hex "size" 0, .hex "list" 1],
   .number .nr_setgroups32 "setgroups32" [.hex "size" 0, .hex "list" 1],
   .number .nr_fchown32 "fchown32" [.hex "fd" 0, .hex "owner" 1, .hex "group" 2],
   .number .nr_setresuid32 "setresuid32" [.hex "ruid" 0, .hex "euid" 1, .hex "suid" 2],
   .number .nr_getresuid32 "getresuid32" [.hex "ruid" 0, .hex "euid" 1, .hex "suid" 2],
   .number .nr_setresgid32 "setresgid32" [.hex "rgid" 0, .hex "egid" 1, .hex "sgid" 2],
   .number .nr_getresgid32 "getresgid32" [.hex "rgid" 0, .hex "egid" 1, .hex "sgid" 2],
   .number .nr_chown32 "chown32" [.str "pathname" 0, .hex "owner" 1, .hex "group" 2],
   .number .nr_setuid32 "setuid32" [.hex "uid" 0],
   .number .nr_setgid32 "setgid32" [.hex "gid" 0],
   .number .nr_setfsuid32 "setfsuid32" [.hex "fsuid" 0],
   .number .nr_setfsgid32 "setfsgid32" [.hex "fsgid" 0],
   .number .nr_getdents64 "getdents64" [.hex "fd" 0, .hex "dirp" 1, .hex "count" 2],
   .number .nr_pivot_root "pivot_root" [.str "new_root" 0, .str "put_old" 1],
   .number .nr_mincore "mincore" [.hex "start" 0, .hex "len" 1, .hex "vec" 2],
   .number .nr_madvise "madvise" [.hex "addr" 0, .hex "len" 1, .hex "advice" 2],
   .number .nr_fcntl64 "fcntl64" [.hex "fd" 0, .hex "cmd" 1, .hex "arg" 2],
   .number .nr_gettid "gettid" [],
   .number .nr_readahead "readahead" [.hex "fd" 0, .hex "offset" 1, .hex "count" 2],
   .number .nr_setxattr "setxattr" [.str "path" 0, .str "name" 1, .hex "value" 2, .hex "size" 3,
     .hex "flags" 4],
   .number .nr_setxattr "setxattr" [.str "path" 0, .str "name" 1, .hex "value" 2, .hex "size" 3,
     .hex "flags" 4],
   .number .nr_setxattr "setxattr" [.hex "fd" 0, .str "name" 1, .hex "value" 2, .hex "size" 3,
     .hex "flags" 4],
   .number .nr_getxattr "getxattr" [.str "path" 0, .str "name" 1, .hex "value" 2, .hex "size" 3],
   .number .nr_lgetxattr "lgetxattr" [.str "path" 0, .str "name" 1, .hex "value" 2,
     .hex "size" 3],
   .number .nr_fgetxattr "fgetxattr" [.hex "fd" 0, .str "name" 1, .hex "value" 2, .hex "size" 3],
   .number .nr_listxattr "listxattr" [.str "path" 0, .hex "list" 1, .hex "size" 2],
   .number .nr_llistxattr "llistxattr" [.str "path" 0, .hex "list" 1, .hex "size" 2],
   .number .nr_flistxattr "flistxattr" [.hex "fd" 0, .hex "list" 1, .hex "size" 2],
   .number .nr_removexattr "removexattr" [.str "path" 0, .str "name" 1],
   .number .nr_lremovexattr "lremovexattr" [.str "path" 0, .str "name" 1],
   .number .nr_fremovexattr "fremovexattr" [.hex "fd" 0, .str "name" 1],
   .number .nr_tkill "tkill" [.hex "tid" 0, .hex "sig" 1],
   .number .nr_sendfile64 "sendfile64" [.hex "out_fd" 0, .hex "in_fd" 1, .hex "offset" 2,
     .hex "count" 3],
   .number .nr_futex "futex" [.hex "uaddr" 0, .hex "op" 1, .hex "val" 2, .hex "utime" 3,
     .hex "uaddr2" 4, .hex "val3" 5],
   .number .nr_sched_setaffinity "sched_setaffinity" [.hex "pid" 0, .hex "size" 1, .hex "mask" 2],
   .number .nr_sched_getaffinity "sched_getaffinity" [.hex "pid" 0, .hex "size" 1, .hex "mask" 2],
   .number .nr_io_setup "io_setup" [.hex "nr_events" 0, .hex "ctx" 1],
   .number .nr_io_destroy "io_destroy" [.hex "ctx" 0],
   .number .nr_io_getevents "io_getevents" [.hex "ctx_id" 0, .hex "min_nr" 1, .hex "nr" 2,
     .hex "events" 3, .hex "timeout" 4],
   .number .nr_io_submit "io_submit" [.hex "ctx_id" 0, .hex "nr" 1, .hex "iocbpp" 2],
   .number .nr_io_cancel "io_cancel" [.hex "ctx_id" 0, .hex "iocb" 1, .hex "result" 2],
   .number .nr_exit_group "exit_group" [.hex "error_code" 0],
   .number .nr_lookup_dcookie "lookup_dcookie" [.hex "cookie64" 0, .hex "buf" 1, .hex "len" 2],
   .number .nr_epoll_create "epoll_create" [.hex "size" 0],
   .number .nr_epoll_ctl "epoll_ctl" [.hex "epfd" 0, .hex "op" 1, .hex "fd" 2, .hex "event" 3],
   .number .nr_epoll_wait "epoll_wait" [.hex "epfd" 0, .hex "events" 1, .hex "maxevents" 2,
     .hex "timeout" 3],
   .number .nr_remap_file_pages "remap_file_pages" [.hex "start" 0, .hex "size" 1, .hex "prot" 2,
     .hex "pgoff" 3, .hex "flags" 4],
   .number .nr_set_tid_address "set_tid_address" [.hex "tidptr" 0],
   .number .nr_timer_create "timer_create" [.hex "clockid" 0, .hex "sevp" 1, .hex "timerid" 2],
   .number .nr_timer_gettime "timer_gettime" [.hex "timerid" 0, .hex "curr_value" 1],
   .number .nr_timer_getoverrun "timer_getoverrun" [.hex "timerid" 0],
   .number .nr_timer_settime "timer_settime" [.hex "timerid" 0, .hex "flags" 1,
     .hex "new_value" 2, .hex "old_value" 3],
   .number .nr_timer_delete "timer_delete" [.hex "timerid" 0],
   .number .nr_clock_settime "clock_settime" [.hex "clockid" 0, .hex "tp" 1],
   .number .nr_clock_gettime "clock_gettime" [.hex "clockid" 0, .hex "tp" 1],
   .number .nr_clock_getres "clock_getres" [.hex "clockid" 0, .hex "res" 1],
   .number .nr_clock_nanosleep "clock_nanosleep" [.hex "clockid" 0, .hex "flags" 1,
     .hex "request" 2, .hex "remain" 3],
   .number .nr_statfs64 "statfs64" [.strAsHex "path" 0, .hex "buf" 1],
   .number .nr_fstatfs64 "fstatfs64" [.hex "fd" 0, .hex "buf" 1],
   .number .nr_tgkill "tgkill" [.hex "tgid" 0, .hex "tid" 1, .hex "sig" 2],
   .number .nr_utimes "utimes" [.strAsHex "filename" 0, .hex "tv" 1],
   .number .nr_arm_fadvise64_64 "arm_fadvise64_64" [.hex "fd" 0, .hex "advice" 1, .hex "offset" 2,
     .hex "len" 3],
   .number .nr_mq_open "mq_open" [.str "name" 0, .dec "oflag" 1],
   .number .nr_mq_unlink "mq_unlink" [.strAsHex "name" 0],
   .number .nr_mq_timedsend "mq_timedsend" [.hex "mqdes" 0, .hex "msg_ptr" 1, .hex "msg_len" 2,
     .hex "msg_prio" 3, .hex "abs_timeout" 4],
   .number .nr_mq_timedreceive "mq_timedreceive" [.hex "mqdes" 0, .hex "msg_ptr" 1,
     .hex "msg_len" 2, .hex "msg_prio" 3, .hex "abs_timeout" 4],
   .untyped .nr_mq_notify "mq_notify" [.hex "mqdes" 0, .hex "notification" 1],
   .number .nr_mq_getsetattr "mq_getsetattr" [.hex "mqdes" 0, .hex "newattr" 1, .hex "oldattr" 2],
   .number .nr_waitid "waitid" [.hex "idtype" 0, .hex "id" 1, .hex "infop" 2, .hex "options" 3],
   .number .nr_socket "socket" [.hex "domain" 0, .hex "type" 1, .hex "protocol" 2],
   .number .nr_bind "bind" [.hex "sockfd" 0, .hex "addr" 1, .hex "addrlen" 2],
   .number .nr_connect "connect" [.hex "sockfd" 0, .hex "addr" 1, .hex "addrlen" 2],
   .number .nr_listen "listen" [.hex "sockfd" 0, .hex "backlog" 1],
   .number .nr_accept "accept" [.hex "sockfd" 0, .hex "addr" 1, .hex "addrlen" 2],
   .number .nr_getsockname "getsockname" [.hex "sockfd" 0, .hex "addr" 1, .hex "addrlen" 2],
   .number .nr_getpeername "getpeername" [.hex "sockfd" 0, .hex "addr" 1, .hex "addrlen" 2],
   .number .nr_socketpair "socketpair" [.hex "domain" 0, .hex "type" 1, .hex "protocol" 2,
     .hex "sv" 3],
   .number .nr_send "send" [.hex "sockfd" 0, .hex "buf" 1, .hex "len" 2, .hex "flags" 3],
   .number .nr_sendto "sendto" [.hex "sockfd" 0, .hex "buf" 1, .hex "len" 2, .hex "flags" 3,
     .hex "dest_addr" 4, .hex "addrlen" 5],
   .number .nr_recv "recv" [.hex "sockfd" 0, .hex "buf" 1, .hex "len" 2],
   .number .nr_recvfrom "recvfrom" [.hex "sockfd" 0, .hex "buf" 1, .hex "len" 2, .hex "flags" 3,
     .hex "src_addr" 4, .hex "addrlen" 5],
   .number .nr_shutdown "shutdown" [.hex "sockfd" 0, .hex "how" 1],
   .number .nr_setsockopt "setsockopt" [.hex "sockfd" 0, .hex "level" 1, .hex "optname" 2,
     .hex "optval" 3, .hex "optlen" 4],
   .number .nr_getsockopt "getsockopt" [.hex "sockfd" 0, .hex "level" 1, .hex "optname" 2,
     .hex "optval" 3, .hex "optlen" 4],
   .number .nr_sendmsg "sendmsg" [.hex "sockfd" 0, .hex "msg" 1, .hex "flags" 2],
   .number .nr_recvmsg "recvmsg" [.hex "sockfd" 0, .hex "msg" 1, .hex "flags" 2],
   .number .nr_semop "semop" [.hex "semid" 0, .hex "sops" 1, .hex "nsops" 2],
   .number .nr_shmget "shmget" [.hex "key" 0, .hex "size" 1, .hex "shmflg" 2],
   .number .nr_shmctl "shmctl" [.hex "shmid" 0, .hex "cmd" 1, .hex "buf" 2],
   .number .nr_msgsnd "msgsnd" [.hex "msqid" 0, .hex "msgp" 1, .hex "msgsz" 2, .hex "msgflg" 3],
   .number .nr_semget "semget" [.hex "key" 0, .hex "nsems" 1, .hex "semflg" 2],
   .number .nr_semctl "semctl" [.hex "semid" 0, .hex "semnum" 1, .hex "cmd" 2,
     .hexIfNonzero "arg" 3],
   .number .nr_shmget "shmget" [.hex "key" 0, .hex "size" 1, .hex "shmflg" 2],
   .number .nr_shmctl "shmctl" [.hex "shmid" 0, .hex "cmd" 1, .hex "buf" 2],
   .typed .nr_shmat "shmat" [.hex "shmid" 0, .hex "shmaddr" 1, .hex "shmflg" 2] .kPointer,
   .number .nr_shmdt "shmdt" [.hex "shmaddr" 0],
   .number .nr_add_key "add_key" [.str "type" 0, .str "description" 1, .hex "payload" 2,
     .hex "plen" 3, .hex "destringid" 4],
   .number .nr_request_key "request_key" [.str "type" 0, .str "description" 1,
     .str "callout_info" 2, .str "destringid" 3],
   .number .nr_keyctl "keyctl" [.hex "cmd" 0, .hex "arg2" 1, .hex "arg3" 2, .hex "arg4" 3,
     .hex "arg5" 4],
   .number .nr_semtimedop "semtimedop" [.hex "semid" 0, .hex "sops" 1, .hex "nsops" 2,
     .hex "timeout" 3],
   .number .nr_vserver "vserver" [.hex "a0" 0, .hex "a1" 1, .hex "a2" 2, .hex "a3" 3, .hex "a4" 4,
     .hex "a5" 5],
   .number .nr_ioprio_set "ioprio_set" [.hex "which" 0, .hex "who" 1, .hex "ioprio" 2],
   .number .nr_ioprio_get "ioprio_get" [.hex "which" 0, .hex "who" 1],
   .number .nr_inotify_init "inotify_init" [],
   .number .nr_inotify_add_watch "inotify_add_watch" [.hex "fd" 0, .str "path" 1, .hex "mask" 2],
   .number .nr_inotify_rm_watch "inotify_rm_watch" [.hex "fd" 0, .hex "wd" 1],
   .number .nr_mbind "mbind" [.hex "addr" 0, .hex "len" 1, .hex "mode" 2, .hex "nodemask" 3,
     .hex "maxnode" 4, .hex "flags" 5],
   .number .nr_get_mempolicy "get_mempolicy" [.hex "policy" 0, .hex "nmask" 1, .hex "maxnode" 2,
     .hex "addr" 3, .hex "flags" 4],
   .number .nr_set_mempolicy "set_mempolicy" [.hex "mode" 0, .hex "nmask" 1, .hex "maxnode" 2],
   .number .nr_openat "openat" [.hex "dirfd" 0, .str "path" 1, .hex "flags" 2, .hex "mode" 3],
   .number .nr_mkdirat "mkdirat" [.hex "fd" 0, .str "path" 1, .hex "mode" 2],
   .number .nr_mknodat "mknodat" [.hex "fd" 0, .str "path" 1, .hex "mode" 2, .hex "dev" 3],
   .number .nr_fchownat "fchownat" [.hex "dirfd" 0, .str "path" 1, .hex "uid" 2, .hex "gid" 3,
     .hex "flags" 4],
   .number .nr_futimesat "futimesat" [.hex "dirfd" 0, .str "path" 1, .hex "tvp" 2],
   .number .nr_fstatat64 "fstatat64" [.hex "dirfd" 0, .str "path" 1, .hex "stbuf" 2,
     .hex "flags" 3],
   .number .nr_unlinkat "unlinkat" [.hex "fd" 0, .str "path" 1, .hex "flag" 2],
   .number .nr_renameat "renameat" [.hex "oldfd" 0, .str "oldpath" 1, .hex "newfd" 2,
     .str "newpath" 3],
   .number .nr_symlinkat "symlinkat" [.str "oldpath" 0, .hex "fd" 1, .str "newpath" 2],
   .number .nr_linkat "linkat" [.hex "fromfd" 0, .str "frompath" 1, .hex "tofd" 2,
     .str "topath" 3, .hex "flags" 4],
   .number .nr_readlinkat "readlinkat" [.hex "dirfd" 0, .str "pathname" 1, .hex "buf" 2,
     .hex "bufsiz" 3],
   .number .nr_fchmodat "fchmodat" [.hex "dirfd" 0, .str "path" 1, .hex "mode" 2, .hex "flags" 3],
   .number .nr_faccessat "faccessat" [.hex "dirfd" 0, .str "path" 1, .hex "mode" 2,
     .hex "flags" 3],
   .number .nr_pselect6 "pselect6" [.hex "nfds" 0, .hex "readfds" 1, .hex "writefds" 2,
     .hex "exceptfds" 3, .hex "timeout" 4, .hex "sigmask" 5],
   .number .nr_ppoll "ppoll" [.hex "fds" 0, .hex "nfds" 1, .hex "timeout" 2, .hex "sigmask" 3],
   .number .nr_unshare "unshare" [.hex "unshare_flags" 0],
   .number .nr_set_robust_list "set_robust_list" [.hex "head" 0, .hex "len" 1],
   .number .nr_get_robust_list "get_robust_list" [.hex "pid" 0, .hex "head_ptr" 1,
     .hex "len_ptr" 2],
   .number .nr_splice "splice" [.hex "fd_in" 0, .hex "off_in" 1, .hex "fd_out" 2,
     .hex "off_out" 3, .hex "len" 4, .hex "flags" 5],
   .number .nr_tee "tee" [.hex "fd_in" 0, .hex "fd_out" 1, .hex "len" 2, .hex "flags" 3],
   .number .nr_vmsplice "vmsplice" [.hex "fd" 0, .hex "iov" 1, .hex "nr_segs" 2, .hex "flags" 3],
   .number .nr_move_pages "move_pages" [.hex "pid" 0, .hex "nr_pages" 1, .hex "pages" 2,
     .hex "nodes" 3, .hex "status" 4, .hex "flags" 5],
   .number .nr_getcpu "getcpu" [.hex "cpu" 0, .hex "node" 1],
   .number .nr_epoll_pwait "epoll_pwait" [.hex "epfd" 0, .hex "events" 1, .hex "maxevents" 2,
     .hex "timeout" 3, .hex "ss" 4],
   .number .nr_kexec_load "kexec_load" [.hex "entry" 0, .hex "nr_segments" 1, .hex "segments" 2,
     .hex "flags" 3],
   .number .nr_utimensat "utimensat" [.hex "dirfd" 0, .str "pathname" 1, .hex "times" 2,
     .hex "flags" 3],
   .number .nr_signalfd "signalfd" [.hex "fd" 0, .hex "mask" 1, .hex "sizemask" 2],
   .number .nr_timerfd_create "timerfd_create" [.hex "clockid" 0, .hex "flags" 1],
   .number .nr_eventfd "eventfd" [.hex "count" 0, .hex "flags" 1],
   .number .nr_fallocate "fallocate" [.hex "fd" 0, .hex "mode" 1, .hex "offset" 2, .hex "len" 3],
   .number .nr_timerfd_settime "timerfd_settime" [.hex "fd" 0, .hex "flags" 1, .hex "new_value" 2,
     .hex "old_value" 3],
   .number .nr_timerfd_gettime "timerfd_gettime" [.hex "fd" 0, .hex "curr_value" 1],
   .number .nr_signalfd4 "signalfd4" [.hex "fd" 0, .hex "mask" 1, .hex "sizemask" 2,
     .hex "flags" 3],
   .number .nr_eventfd2 "eventfd2" [.hex "initval" 0, .hex "flags" 1],
   .number .nr_epoll_create1 "epoll_create1" [.hex "flags" 0],
   .number .nr_dup3 "dup3" [.hex "fd" 0, .hex "fd2" 1, .hex "flags" 2],
   .number .nr_pipe2 "pipe2" [.hex "fildes[2]" 0, .hex "flags" 1],
   .number .nr_inotify_init1 "inotify_init1" [.hex "flags" 0],
   .number .nr_preadv "preadv" [.hex "fd" 0, .hex "iov" 1, .hex "iovcnt" 2, .hex "offset" 3],
   .number .nr_pwritev "pwritev" [.hex "fd" 0, .hex "iov" 1, .hex "iovcnt" 2, .hex "offset" 3],
   .number .nr_rt_tgsigqueueinfo "rt_tgsigqueueinfo" [.hex "tgid" 0, .hex "tid" 1, .hex "sig" 2,
     .hex "uinfo" 3],
   .number .nr_perf_event_open "perf_event_open" [.hex "attr" 0, .hex "pid" 1, .hex "cpu" 2,
     .hex "group_fd" 3, .hex "flags" 4],
   .number .nr_recvmmsg "recvmmsg" [.hex "sockfd" 0, .hex "msgvec" 1, .hex "vlen" 2,
     .hex "flags" 3, .hex "timeout" 4],
   .number .nr_accept4 "accept4" [.hex "sockfd" 0, .hex "addr" 1, .hex "addrlen" 2,
     .hex "flags" 3],
   .number .nr_fanotify_init "fanotify_init" [.hex "flags" 0, .hex "event_f_flags" 1],
   .number .nr_fanotify_mark "fanotify_mark" [.hex "fanotify_fd" 0, .hex "flags" 1, .hex "mask" 2,
     .hex "dirfd" 3, .hex "pathname" 4],
   .number .nr_prlimit64 "prlimit64" [.hex "pid" 0, .hex "resource" 1, .hex "new_limit" 2,
     .hex "old_limit" 3],
   .number .nr_name_to_handle_at "name_to_handle_at" [.hex "dirfd" 0, .hex "pathname" 1,
     .hex "handle" 2, .hex "mount_id" 3, .hex "flags" 4],
   .number .nr_open_by_handle_at "open_by_handle_at" [.hex "mount_fd" 0, .hex "handle" 1,
     .hex "flags" 2],
   .number .nr_clock_adjtime "clock_adjtime" [.hex "clk_id" 0, .hex "buf" 1],
   .number .nr_syncfs "syncfs" [.hex "fd" 0],
   .number .nr_setns "setns" [.hex "fd" 0, .hex "nstype" 1],
   .number .nr_sendmmsg "sendmmsg" [.hex "sockfd" 0, .hex "msgvec" 1, .hex "vlen" 2,
     .hex "flags" 3],
   .number .nr_process_vm_readv "process_vm_readv" [.hex "pid" 0, .hex "local_iov" 1,
     .hex "liovcnt" 2, .hex "remote_iov" 3, .hex "riovcnt" 4, .hex "flags" 5],
   .number .nr_process_vm_writev "process_vm_writev" [.hex "pid" 0, .hex "local_iov" 1,
     .hex "liovcnt" 2, .hex "remote_iov" 3, .hex "riovcnt" 4, .hex "flags" 5],
   .number .nr_kcmp "kcmp" [.hex "pid1" 0, .hex "pid2" 1, .hex "type" 2, .hex "idx1" 3,
     .hex "idx2" 4],
   .number .nr_finit_module "finit_module" [.hex "fd" 0, .hex "param_values" 1, .hex "flags" 2],
   .number .nr_sched_setattr "sched_setattr" [.hex "pid" 0, .hex "attr" 1, .hex "flags" 2],
   .number .nr_sched_getattr "sched_getattr" [.hex "pid" 0, .hex "attr" 1, .hex "size" 2,
     .hex "flags" 3],
   .number .nr_renameat2 "renameat2" [.hex "olddirfd" 0, .hex "oldpath" 1, .hex "newdirfd" 2,
     .hex "newpath" 3, .hex "flags" 4],
   .number .nr_seccomp "seccomp" [.hex "operation" 0, .hex "flags" 1, .hex "args" 2],
   .number .nr_getrandom "getrandom" [.hex "buf" 0, .hex "buflen" 1, .hex "flags" 2],
   .number .nr_memfd_create "memfd_create" [.hex "name" 0, .hex "flags" 1],
   .number .nr_bpf "bpf" [.hex "cmd" 0, .hex "attr" 1, .hex "size" 2],
   .number .nr_execveat "execveat" [.hex "dirfd" 0, .hex "pathname" 1, .hex "argv" 2,
     .hex "envp" 3, .hex "flags" 4],
   .number .nr_userfaultfd "userfaultfd" [.hex "flags" 0],
   .number .nr_membarrier "membarrier" [.hex "cmd" 0, .hex "flags" 1],
   .number .nr_mlock2 "mlock2" [.hex "addr" 0, .hex "length" 1, .hex "flags" 2],
   .number .nr_copy_file_range "copy_file_range" [.hex "fd_in" 0, .hex "off_in" 1,
     .hex "fd_out" 2, .hex "off_out" 3, .hex "len" 4, .hex "flags" 5],
   .number .nr_preadv2 "preadv2" [.hex "fd" 0, .hex "iov" 1, .hex "iovcnt" 2, .hex "offset" 3,
     .hex "flags" 4],
   .number .nr_pwritev2 "pwritev2" [.hex "fd" 0, .hex "iov" 1, .hex "iovcnt" 2, .hex "offset" 3,
     .hex "flags" 4],
   .number .nr_pkey_mprotect "pkey_mprotect" [.hex "addr" 0, .hex "len" 1, .hex "prot" 2,
     .hex "pkey" 3],
   .number .nr_pkey_alloc "pkey_alloc" [.hex "flags" 0, .hex "access_rights" 1],
   .number .nr_pkey_free "pkey_free" [.hex "pkey" 0],
   .number .nr_statx "statx" [.hex "dirfd" 0, .hex "pathname" 1, .hex "flags" 2, .hex "mask" 3,
     .hex "statxbuf" 4]]

def aarch64Handlers : List SyscallEntry :=
  [.number .nr_io_setup "io_setup" [.dec "nr_events" 0, .hex "ctx_idp" 1],
   .number .nr_io_destroy "io_destroy" [.hex "ctx_id" 0],
   .number .nr_io_submit "io_submit" [.hex "ctx_id" 0, .hex "nr" 1, .hex "iocbpp" 2],
   .number .nr_io_cancel "io_cancel" [.hex "ctx_id" 0, .hex "iocb" 1, .hex "result" 2],
   .number .nr_io_getevents "io_getevents" [.hex "ctx_id" 0, .hex "min_nr" 1, .hex "nr" 2,
     .hex "events" 3, .hex "timeout" 4],
   .number .nr_setxattr "setxattr" [.str "path" 0, .hex "name" 1, .hex "value" 2, .hex "size" 3,
     .hex "flags" 4],
   .number .nr_lsetxattr "lgetxattr" [.str "path" 0, .str "name" 1, .hex "value" 2, .hex "size" 3,
     .hex "flags" 4],
   .number .nr_fsetxattr "fsetxattr" [.hex "fd" 0, .str "name" 1, .hex "value" 2, .hex "size" 3,
     .hex "flags" 4],
   .number .nr_getxattr "getxattr" [.str "path" 0, .str "name" 1, .hex "value" 2, .hex "size" 3],
   .number .nr_lgetxattr "lgetxattr" [.str "path" 0, .str "name" 0, .hex "value" 2,
     .hex "size" 3],
   .number .nr_fgetxattr "fgetxattr" [.hex "fd" 0, .str "name" 1, .hex "value" 2, .hex "size" 3],
   .number .nr_listxattr "listxattr" [.str "path" 0, .str "list" 1, .hex "size" 2],
   .number .nr_llistxattr "llistxattr" [.str "path" 0, .str "list" 1, .hex "size" 2],
   .number .nr_flistxattr "flistxattr" [.hex "fd" 0, .str "list" 1, .hex "size" 2],
   .number .nr_removexattr "removexattr" [.str "path" 0, .str "name" 1],
   .number .nr_lremovexattr "lremovexattr" [.str "path" 0, .str "name" 1],
   .number .nr_fremovexattr "fremovexattr" [.hex "fd" 0, .str "name" 1],
   .typed .nr_getcwd "getcwd" [.hex "buf" 0, .hex "size" 1] .kString,
   .number .nr_lookup_dcookie "lookup_dcookie" [.hex "cookie" 0, .hex "buf" 1, .hex "size" 2],
   .number .nr_eventfd2 "eventfd2" [.hex "initval" 0, .hex "flags" 1],
   .number .nr_epoll_create1 "epoll_create1" [.hex "flags" 0],
   .number .nr_epoll_ctl "epoll_ctl" [.hex "epfd" 0, .hex "op" 1, .hex "fd" 2, .hex "event" 3],
   .number .nr_epoll_pwait "epoll_pwait" [.hex "epfd" 0, .hex "events" 1, .hex "maxevents" 2,
     .hex "timeout" 3, .hex "ss" 4],
   .number .nr_dup "dup" [.hex "fd" 0],
   .number .nr_dup3 "dup3" [.hex "fd" 0, .hex "fd2" 1, .hex "flags" 2],
   .number .nr_fcntl "fcntl" [.hex "fd" 0, .hex "cmd" 1, .hexIfNonzero "arg" 2],
   .number .nr_inotify_init1 "inotify_init1" [.hex "flags" 0],
   .number .nr_inotify_add_watch "inotify_add_watch" [.hex "fd" 0, .str "path" 1, .hex "mask" 2],
   .number .nr_inotify_rm_watch "inotify_rm_watch" [.hex "fd" 0, .hex "wd" 1],
   .number .nr_ioctl "ioctl" [.hex "fd" 0, .hex "request" 1, .hexIfNonzero "arg" 2],
   .number .nr_ioprio_set "ioprio_set" [.hex "which" 0, .hex "who" 1, .hex "ioprio" 2],
   .number .nr_ioprio_get "ioprio_get" [.hex "which" 0, .hex "who" 1],
   .number .nr_flock "flock" [.hex "fd" 0, .hex "operation" 1],
   .number .nr_mknodat "mknodat" [.hex "fd" 0, .str "path" 1, .hex "mode" 2, .hex "dev" 3],
   .number .nr_mkdirat "mkdirat" [.hex "fd" 0, .str "path" 1, .hex "mode" 2],
   .number .nr_unlinkat "unlinkat" [.hex "fd" 0, .str "path" 1, .hex "flag" 2],
   .number .nr_symlinkat "symlinkat" [.str "oldpath" 0, .hex "fd" 1, .str "newpath" 2],
   .number .nr_linkat "linkat" [.hex "fromfd" 0, .str "frompath" 1, .hex "tofd" 2,
     .str "topath" 3, .hex "flags" 4],
   .number .nr_renameat "renameat" [.hex "oldfd" 0, .str "oldpath" 1, .hex "newfd" 2,
     .str "newpath" 3],
   .number .nr_umount2 "umount2" [.str "target" 0, .hex "flags" 1],
   .number .nr_mount "mount" [.str "source" 0, .str "target" 1, .str "filesystemtype" 2,
     .hex "mountflags" 3, .str "data" 4],
   .number .nr_pivot_root "pivot_root" [.str "new_root" 0, .str "put_old" 1],
   .number .nr_nfsservctl "nfsservctl" [.hex "fd" 0, .hex "cmd" 1, .hex "argp" 2],
   .number .nr3264_statfs "statfs" [.str "path" 0, .hex "buf" 1],
   .number .nr3264_fstatfs "fstatfs" [.hex "fd" 0, .hex "buf" 1],
   .number .nr3264_truncate "truncate" [.str "path" 0, .hex "length" 1],
   .number .nr3264_ftruncate "ftruncate" [.hex "fd" 0, .hex "length" 1],
   .number .nr_fallocate "fallocate" [.hex "fd" 0, .hex "mode" 1, .hex "offset" 2,
     .hex "length" 3],
   .number .nr_faccessat "faccessat" [.hex "dirfd" 0, .str "path" 1, .hex "mode" 2,
     .hex "flags" 3],
   .number .nr_chdir "chdir" [.str "path" 0],
   .number .nr_fchdir "fchdir" [.hex "fd" 0],
   .number .nr_chroot "chroot" [.str "path" 0],
   .number .nr_fchmod "fchmod" [.hex "fd" 0, .hex "mode" 1],
   .number .nr_fchmodat "fchmodat" [.hex "dirfd" 0, .str "path" 1, .hex "mode" 2, .hex "flags" 3],
   .number .nr_fchownat "fchownat" [.hex "dirfd" 0, .str "path" 1, .hex "uid" 2, .hex "gid" 3,
     .hex "flags" 4],
   .number .nr_fchown "fchown" [.hex "fd" 0, .hex "uid" 1, .hex "gid" 2],
   .number .nr_openat "openat" [.hex "dirfd" 0, .str "path" 1, .hex "flags" 2, .hex "mode" 3],
   .number .nr_close "close" [.hex "fd" 0],
   .number .nr_vhangup "vhangup" [],
   .number .nr_pipe2 "pipe2" [.hex "fildes[2]" 0, .hex "flags" 1],
   .untyped .nr_quotactl "quotactl" [.hex "cmd" 0, .str "special" 1, .hex "id" 2, .hex "addr" 3],
   .number .nr_getdents64 "getdents64" [.hex "fd" 0, .hex "dirp" 1, .hex "count" 2],
   .number .nr3264_lseek "lseek" [.hex "fd" 0, .hex "offset" 1, .hex "whence" 2],
   .untyped .nr_read "read" [.hex "fd" 0, .hex "buf" 1, .hex "nbytes" 2],
   .number .nr_write "write" [.hex "fd" 0, .hex "buf" 1, .hex "count" 2],
   .number .nr_readv "readv" [.hex "fd" 0, .hex "iov" 1, .hex "iovcnt" 2],
   .number .nr_writev "writev" [.hex "fd" 0, .hex "iov" 1, .hex "iovcnt" 2],
   .number .nr_pread64 "pread64" [.hex "fd" 0, .hex "buf" 1, .hex "count" 2, .hex "offset" 3],
   .number .nr_pwrite64 "pwrite64" [.hex "fd" 0, .hex "buf" 1, .hex "count" 2, .hex "offset" 3],
   .number .nr_preadv "preadv" [.hex "fd" 0, .hex "iov" 1, .hex "iovcnt" 2, .hex "offset" 3],
   .number .nr_pwritev "pwritev" [.hex "fd" 0, .hex "iov" 1, .hex "iovcnt" 2, .hex "offset" 3],
   .number .nr3264_sendfile "sendfile" [.hex "out_fd" 0, .hex "in_fd" 1, .hex "offset" 2,
     .hex "count" 3],
   .number .nr_pselect6 "pselect6" [.hex "nfds" 0, .hex "readfds" 1, .hex "writefds" 2,
     .hex "exceptfds" 3, .hex "timeout" 4, .hex "sigmask" 5],
   .number .nr_ppoll "ppoll" [.hex "fds" 0, .hex "nfds" 1, .hex "timeout" 2, .hex "sigmask" 3],
   .number .nr_signalfd4 "signalfd4" [.hex "fd" 0, .hex "mask" 1, .hex "sizemask" 2,
     .hex "flags" 3],
   .number .nr_vmsplice "vmsplice" [.hex "fd" 0, .hex "iov" 1, .hex "nr_segs" 2, .hex "flags" 3],
   .number .nr_splice "splice" [.hex "fd_in" 0, .hex "off_in" 1, .hex "fd_out" 2,
     .hex "off_out" 3, .hex "len" 4, .hex "flags" 5],
   .number .nr_tee "tee" [.hex "fd_in" 0, .hex "fd_out" 1, .hex "len" 2, .hex "flags" 3],
   .number .nr_readlinkat "readlinkat" [.hex "dirfd" 0, .str "pathname" 1, .hex "buf" 2,
     .hex "bufsiz" 3],
   .number .nr3264_fstatat "fstatat" [.hex "dirfd" 0, .str "pathname" 1, .hex "statbuf" 2,
     .hex "flags" 3],
   .number .nr3264_fstat "fstat" [.hex "fd" 0, .hex "statbuf" 1],
   .typed .nr_sync "sync" [] .kVoid,
   .number .nr_fsync "fsync" [.hex "fd" 0],
   .number .nr_fdatasync "fdatasync" [.hex "fd" 0],
   .number .nr_sync_file_range "sync_file_range" [.hex "fd" 0, .hex "offset" 1, .hex "nbytes" 2,
     .hex "flags" 3],
   .number .nr_timerfd_create "timerfd_create" [.hex "clockid" 0, .hex "flags" 1],
   .number .nr_timerfd_settime "timerfd_settime" [.hex "fd" 0, .hex "flags" 1, .hex "new_value" 2,
     .hex "old_value" 3],
   .number .nr_timerfd_gettime "timerfd_gettime" [.hex "fd" 0, .hex "curr_value" 1],
   .number .nr_utimensat "utimensat" [.hex "dirfd" 0, .str "pathname" 1, .hex "times" 2,
     .hex "flags" 3],
   .number .nr_acct "acct" [.str "filename" 0],
   .number .nr_capget "capget" [.hex "hdrp" 0, .hex "datap" 1],
   .number .nr_capset "capset" [.hex "hdrp" 0, .hex "datap" 1],
   .number .nr_personality "personality" [.hex "persona" 0],
   .typed .nr_exit "exit" [.hex "status" 0] .kVoid,
   .typed .nr_exit_group "exit_group" [.hex "status" 0] .kVoid,
   .number .nr_waitid "waitid" [.hex "idtype" 0, .hex "id" 1, .hex "infop" 2, .hex "options" 3],
   .number .nr_set_tid_address "set_tid_address" [.hex "tidptr" 0],
   .number .nr_unshare "unshare" [.hex "unshare_flags" 0],
   .number .nr_futex "futex" [.hex "uaddr" 0, .hex "futex_op" 1, .hex "val" 2, .hex "timeout" 3,
     .hex "uaddr2" 4, .hex "val3" 5],
   .number .nr_set_robust_list "set_robust_list" [.hex "head" 0, .hex "len" 1],
   .number .nr_get_robust_list "get_robust_list" [.hex "pid" 0, .hex "head_ptr" 1,
     .hex "len_ptr" 2],
   .number .nr_nanosleep "nanosleep" [.hex "req" 0, .hex "rem" 1],
   .number .nr_getitimer "getitimer" [.hex "which" 0, .hex "curr_value" 1],
   .number .nr_setitimer "setitimer" [.hex "which" 0, .hex "new_value" 1, .hex "old_value" 2],
   .number .nr_kexec_load "kexec_load" [.hex "entry" 0, .hex "nr_segments" 1, .hex "segments" 2,
     .hex "flags" 3],
   .number .nr_init_module "init_module" [.hex "module_image" 0, .hex "len" 1,
     .str "param_values" 2],
   .number .nr_delete_module "delete_module" [.str "name_user" 0, .hex "flags" 1],
   .number .nr_timer_create "timer_create" [.hex "clockid" 0, .hex "sevp" 1, .hex "timerid" 2],
   .number .nr_timer_gettime "timer_gettime" [.hex "timerid" 0, .hex "curr_value" 1],
   .number .nr_timer_getoverrun "timer_getoverrun" [.hex "timerid" 0],
   .number .nr_timer_settime "timer_settime" [.hex "timerid" 0, .hex "flags" 1,
     .hex "new_value" 2, .hex "old_value" 3],
   .number .nr_timer_delete "timer_delete" [.hex "timerid" 0],
   .number .nr_clock_settime "clock_settime" [.hex "clockid" 0, .hex "tp" 1],
   .number .nr_clock_gettime "clock_gettime" [.hex "clockid" 0, .hex "tp" 1],
   .number .nr_clock_getres "clock_getres" [.hex "clockid" 0, .hex "res" 1],
   .number .nr_clock_nanosleep "clock_nanosleep" [.hex "clockid" 0, .hex "flags" 1,
     .hex "request" 2, .hex "remain" 3],
   .number .nr_syslog "syslog" [.hex "type" 0, .hex "buf" 1, .hex "len" 2],
   .number .nr_ptrace "ptrace" [.hex "request" 0, .hex "pid" 1, .hex "addr" 2, .hex "data" 3],
   .number .nr_sched_setparam "sched_setparam" [.hex "pid" 0, .hex "param" 1],
   .number .nr_sched_setscheduler "sched_setscheduler" [.hex "pid" 0, .hex "policy" 1,
     .hex "param" 2],
   .number .nr_sched_getscheduler "sched_getscheduler" [.hex "pid" 0],
   .number .nr_sched_getparam "sched_getparam" [.hex "pid" 0, .hex "param" 1],
   .number .nr_sched_setaffinity "sched_setaffinity" [.hex "pid" 0, .hex "cpusetsize" 1,
     .hex "mask" 2],
   .number .nr_sched_getaffinity "sched_getaffinity" [.hex "pid" 0, .hex "cpusetsize" 1,
     .hex "mask" 2],
   .number .nr_sched_yield "sched_yield" [],
   .number .nr_sched_get_priority_max "sched_get_priority_max" [.hex "policy" 0],
   .number .nr_sched_get_priority_min "sched_get_priority_min" [.hex "policy" 0],
   .number .nr_sched_rr_get_interval "sched_rr_get_interval" [.hex "pid" 0, .hex "interval" 1],
   .number .nr_restart_syscall "restart_syscall" [],
   .number .nr_kill "kill" [.hex "pid" 0, .hex "sig" 1],
   .number .nr_tkill "tkill" [.hex "tid" 0, .hex "sig" 1],
   .number .nr_tgkill "tgkill" [.hex "tgid" 0, .hex "tid" 1, .hex "sig" 2],
   .number .nr_sigaltstack "sigaltstack" [.hex "ss" 0, .hex "old_ss" 1],
   .number .nr_rt_sigsuspend "rt_sigsuspend" [.hex "mask" 0, .hex "sigsetsize" 1],
   .number .nr_rt_sigaction "rt_sigaction" [.hex "signum" 0, .hex "act" 1, .hex "oldact" 2,
     .hex "sigsetsize" 3],
   .number .nr_rt_sigprocmask "rt_sigprocmask" [.hex "how" 0, .hex "set" 1, .hex "oldset" 2,
     .hex "sigsetsize" 3],
   .number .nr_rt_sigpending "rt_sigpending" [.hex "set" 0, .hex "sigsetsize" 1],
   .number .nr_rt_sigtimedwait "rt_sigtimedwait" [.hex "set" 0, .hex "info" 1, .hex "timeout" 2,
     .hex "sigsetsize" 3],
   .number .nr_rt_sigqueueinfo "rt_sigqueueinfo" [.hex "pid" 0, .hex "sig" 1, .hex "info" 2],
   .number .nr_rt_sigreturn "rt_sigreturn" [],
   .number .nr_setpriority "setpriority" [.hex "which" 0, .hex "who" 1, .hex "prio" 2],
   .number .nr_getpriority "getpriority" [.hex "which" 0, .hex "who" 1],
   .number .nr_reboot "reboot" [.hex "magic" 0, .hex "magic2" 1, .hex "cmd" 2, .hex "arg" 3],
   .number .nr_setregid "setregid" [.hex "rgid" 0, .hex "egid" 1],
   .number .nr_setgid "setgid" [.hex "gid" 0],
   .number .nr_setreuid "setreuid" [.hex "ruid" 0, .hex "euid" 1],
   .number .nr_setuid "setuid" [.hex "uid" 0],
   .number .nr_setresuid "setresuid" [.hex "ruid" 0, .hex "euid" 1, .hex "suid" 2],
   .number .nr_getresuid "getresuid" [.hex "ruid" 0, .hex "euid" 1, .hex "suid" 2],
   .number .nr_setresgid "setresgid" [.hex "rgid" 0, .hex "egid" 1, .hex "sgid" 2],
   .number .nr_getresgid "getresgid" [.hex "rgid" 0, .hex "egid" 1, .hex "sgid" 2],
   .number .nr_setfsuid "setfsuid" [.hex "fsuid" 0],
   .number .nr_setfsgid "setfsgid" [.hex "fsgid" 0],
   .number .nr_times "times" [.hex "buf" 0],
   .number .nr_setpgid "setpgid" [.hex "pid" 0, .hex "pgid" 1],
   .number .nr_getpgid "getpgid" [.hex "pid" 0],
   .number .nr_getsid "getsid" [.hex "pid" 0],
   .number .nr_setsid "setsid" [],
   .number .nr_getgroups "getgroups" [.hex "size" 0, .hex "list" 1],
   .number .nr_setgroups "setgroups" [.hex "size" 0, .hex "list" 1],
   .number .nr_uname "uname" [.hex "buf" 0],
   .number .nr_sethostname "sethostname" [.str "name" 0, .hex "len" 1],
   .number .nr_setdomainname "setdomainname" [.str "name" 0, .hex "len" 1],
   .number .nr_getrlimit "getrlimit" [.hex "resource" 0, .hex "rlim" 1],
   .number .nr_setrlimit "setrlimit" [.hex "resource" 0, .hex "rlim" 1],
   .number .nr_getrusage "getrusage" [.hex "who" 0, .hex "usage" 1],
   .number .nr_umask "umask" [.hex "mask" 0],
   ⟨.nr_prctl, "prctl", .prctl⟩,
   .number .nr_getcpu "getcpu" [.hex "cpu" 0, .hex "node" 1],
   .number .nr_gettimeofday "gettimeofday" [.hex "tv" 0, .hex "tz" 1],
   .number .nr_settimeofday "settimeofday" [.hex "tv" 0, .hex "tz" 1],
   .number .nr_adjtimex "adjtimex" [.hex "txc" 0],
   .number .nr_getpid "getpid" [],
   .number .nr_getppid "getppid" [],
   .number .nr_getuid "getuid" [],
   .number .nr_geteuid "geteuid" [],
   .number .nr_getgid "getgid" [],
   .number .nr_getegid "getegid" [],
   .number .nr_gettid "gettid" [],
   .number .nr_sysinfo "sysinfo" [.hex "info" 0],
   .number .nr_mq_open "mq_open" [.str "name" 0, .dec "oflag" 1],
   .number .nr_mq_unlink "mq_unlink" [.strAsHex "name" 0],
   .number .nr_mq_timedsend "mq_timedsend" [.hex "mqdes" 0, .hex "msg_ptr" 1, .hex "msg_len" 2,
     .hex "msg_prio" 3, .hex "abs_timeout" 4],
   .number .nr_mq_timedreceive "mq_timedreceive" [.hex "mqdes" 0, .hex "msg_ptr" 1,
     .hex "msg_len" 2, .hex "msg_prio" 3, .hex "abs_timeout" 4],
   .untyped .nr_mq_notify "mq_notify" [.hex "mqdes" 0, .hex "notification" 1],
   .number .nr_mq_getsetattr "mq_getsetattr" [.hex "mqdes" 0, .hex "newattr" 1, .hex "oldattr" 2],
   .number .nr_msgget "msgget" [.hex "key" 0, .hex "msgflg" 1],
   .number .nr_msgctl "msgctl" [.hex "msqid" 0, .hex "cmd" 1, .hex "buf" 2],
   .number .nr_msgrcv "msgrcv" [.hex "msqid" 0, .hex "msgp" 1, .hex "msgsz" 2, .hex "msgtyp" 3,
     .hex "msgflg" 4],
   .number .nr_msgsnd "msgsnd" [.hex "msqid" 0, .hex "msgp" 1, .hex "msgsz" 2, .hex "msgflg" 3],
   .number .nr_semget "semget" [.hex "key" 0, .hex "nsems" 1, .hex "semflg" 2],
   .number .nr_semctl "semctl" [.hex "semid" 0, .hex "semnum" 1, .hex "cmd" 2,
     .hexIfNonzero "arg" 3],
   .number .nr_semtimedop "semtimedop" [.hex "semid" 0, .hex "sops" 1, .hex "nsops" 2,
     .hex "timeout" 3],
   .number .nr_semop "semop" [.hex "semid" 0, .hex "sops" 1, .hex "nsops" 2],
   .number .nr_shmget "shmget" [.hex "key" 0, .hex "size" 1, .hex "shmflg" 2],
   .number .nr_shmctl "shmctl" [.hex "shmid" 0, .hex "cmd" 1, .hex "buf" 2],
   .typed .nr_shmat "shmat" [.hex "shmid" 0, .hex "shmaddr" 1, .hex "shmflg" 2] .kPointer,
   .number .nr_shmdt "shmdt" [.hex "shmaddr" 0],
   .number .nr_socket "socket" [.hex "domain" 0, .hex "type" 1, .hex "protocol" 2],
   .number .nr_socketpair "socketpair" [.hex "domain" 0, .hex "type" 1, .hex "protocol" 2,
     .hex "sv" 3],
   .number .nr_bind "bind" [.hex "sockfd" 0, .hex "addr" 1, .hex "addrlen" 2],
   .number .nr_listen "listen" [.hex "sockfd" 0, .hex "backlog" 1],
   .number .nr_accept "accept" [.hex "sockfd" 0, .hex "addr" 1, .hex "addrlen" 2],
   .number .nr_connect "connect" [.hex "sockfd" 0, .hex "addr" 1, .hex "addrlen" 2],
   .number .nr_getsockname "getsockname" [.hex "sockfd" 0, .hex "addr" 1, .hex "addrlen" 2],
   .number .nr_getpeername "getpeername" [.hex "sockfd" 0, .hex "addr" 1, .hex "addrlen" 2],
   .number .nr_sendto "sendto" [.hex "sockfd" 0, .hex "buf" 1, .hex "len" 2, .hex "flags" 3,
     .hex "dest_addr" 4, .hex "addrlen" 5],
   .number .nr_recvfrom "recvfrom" [.hex "sockfd" 0, .hex "buf" 1, .hex "len" 2, .hex "flags" 3,
     .hex "src_addr" 4, .hex "addrlen" 5],
   .number .nr_setsockopt "setsockopt" [.hex "sockfd" 0, .hex "level" 1, .hex "optname" 2,
     .hex "optval" 3, .hex "optlen" 4],
   .number .nr_getsockopt "getsockopt" [.hex "sockfd" 0, .hex "level" 1, .hex "optname" 2,
     .hex "optval" 3, .hex "optlen" 4],
   .number .nr_shutdown "shutdown" [.hex "sockfd" 0, .hex "how" 1],
   .number .nr_sendmsg "sendmsg" [.hex "sockfd" 0, .hex "msg" 1, .hex "flags" 2],
   .number .nr_recvmsg "recvmsg" [.hex "sockfd" 0, .hex "msg" 1, .hex "flags" 2],
   .number .nr_readahead "readahead" [.hex "fd" 0, .hex "offset" 1, .hex "count" 2],
   .number .nr_brk "brk" [.hex "addr" 0],
   .number .nr_munmap "munmap" [.hex "addr" 0, .hex "length" 1],
   .number .nr_mremap "mremap" [.hex "old_address" 0, .hex "old_size" 1, .hex "new_size" 2,
     .hex "flags" 3, .hex "new_address" 4],
   .number .nr_add_key "add_key" [.str "type" 0, .str "description" 1, .hex "payload" 2,
     .hex "plen" 3, .hex "destringid" 4],
   .number .nr_request_key "request_key" [.str "type" 0, .str "description" 1,
     .str "callout_info" 2, .str "destringid" 3],
   .number .nr_keyctl "keyctl" [.hex "cmd" 0, .hex "arg2" 1, .hex "arg3" 2, .hex "arg4" 3,
     .hex "arg5" 4],
   .number .nr_clone "clone" [.hex "flags" 0, .hex "stack_size" 1, .hex "signal" 2,
     .hex "parent_tid" 3, .hex "child_tid" 4, .hex "tls" 5],
   .number .nr_execve "execve" [.str "pathname" 0, .dec "argv" 1, .dec "envp" 2],
   .number .nr3264_mmap "mmap" [.hex "addr" 0, .hex "length" 1, .hex "prot" 2, .hex "flags" 3,
     .hex "fd" 4, .hex "offset" 5],
   .number .nr3264_fadvise64 "fadvise64" [.hex "fd" 0, .hex "offset" 1, .hex "len" 2,
     .hex "advice" 3],
   .number .nr_swapon "swapon" [.str "path" 0, .hex "swapflags" 1],
   .number .nr_swapoff "swapoff" [.str "path" 0],
   .untyped .nr_mprotect "mprotect" [.hex "addr" 0, .hex "len" 1, .hex "prot" 2],
   .number .nr_msync "msync" [.hex "addr" 0, .hex "len" 1, .hex "flags" 2],
   .number .nr_mlock "mlock" [.hex "addr" 0, .hex "len" 1],
   .number .nr_mlock "mlock" [.hex "addr" 0, .hex "len" 1],
   .number .nr_mlockall "mlockall" [.hex "flags" 0],
   .number .nr_mlockall "mlockall" [.hex "flags" 0],
   .number .nr_mincore "mincore" [.hex "addr" 0, .hex "len" 1, .hex "vec" 2],
   .number .nr_madvise "madvise" [.hex "addr" 0, .hex "len" 1, .hex "advice" 2],
   .number .nr_remap_file_pages "remap_file_pages" [.hex "addr" 0, .hex "size" 1, .hex "prot" 2,
     .hex "pgoff" 3, .hex "flags" 4],
   .number .nr_mbind "mbind" [.hex "addr" 0, .hex "len" 1, .hex "mode" 2, .hex "nodemask" 3,
     .hex "maxnode" 4, .hex "flags" 5],
   .number .nr_get_mempolicy "get_mempolicy" [.hex "policy" 0, .hex "nmask" 1, .hex "maxnode" 2,
     .hex "addr" 3, .hex "flags" 4],
   .number .nr_set_mempolicy "set_mempolicy" [.hex "mode" 0, .hex "nmask" 1, .hex "maxnode" 2],
   .number .nr_migrate_pages "migrate_pages" [.hex "pid" 0, .hex "maxnode" 1, .hex "old_nodes" 2,
     .hex "new_nodes" 3],
   .number .nr_move_pages "move_pages" [.hex "pid" 0, .hex "nr_pages" 1, .hex "pages" 2,
     .hex "nodes" 3, .hex "status" 4, .hex "flags" 5],
   .number .nr_rt_tgsigqueueinfo "rt_tgsigqueueinfo" [.hex "tgid" 0, .hex "tid" 1, .hex "sig" 2,
     .hex "uinfo" 3],
   .number .nr_perf_event_open "perf_event_open" [.hex "attr" 0, .hex "pid" 1, .hex "cpu" 2,
     .hex "group_fd" 3, .hex "flags" 4],
   .number .nr_accept4 "accept4" [.hex "sockfd" 0, .hex "addr" 1, .hex "addrlen" 2,
     .hex "flags" 3],
   .number .nr_recvmmsg "recvmmsg" [.hex "sockfd" 0, .hex "msgvec" 1, .hex "vlen" 2,
     .hex "flags" 3, .hex "timeout" 4],
   .number .nr_arch_specific_syscall "arch_specific_syscall" [.hex "arg0" 0, .hex "arg1" 1,
     .hex "arg2" 2, .hex "arg3" 3, .hex "arg4" 4, .hex "arg5" 5],
   .number .nr_wait4 "wait4" [.hex "pid" 0, .hex "status" 1, .hex "options" 2, .hex "rusage" 3],
   .number .nr_prlimit64 "prlimit64" [.hex "pid" 0, .hex "resource" 1, .hex "new_limit" 2,
     .hex "old_limit" 3],
   .number .nr_fanotify_init "fanotify_init" [.hex "flags" 0, .hex "event_f_flags" 1],
   .number .nr_fanotify_mark "fanotify_mark" [.hex "fanotify_fd" 0, .hex "flags" 1, .hex "mask" 2,
     .hex "dirfd" 3, .hex "pathname" 4],
   .number .nr_name_to_handle_at "name_to_handle_at" [.hex "dirfd" 0, .hex "pathname" 1,
     .hex "handle" 2, .hex "mount_id" 3, .hex "flags" 4],
   .number .nr_open_by_handle_at "open_by_handle_at" [.hex "mount_fd" 0, .hex "handle" 1,
     .hex "flags" 2],
   .number .nr_clock_adjtime "clock_adjtime" [.hex "clk_id" 0, .hex "buf" 1],
   .number .nr_syncfs "syncfs" [.hex "fd" 0],
   .number .nr_setns "setns" [.hex "fd" 0, .hex "nstype" 1],
   .number .nr_sendmmsg "sendmmsg" [.hex "sockfd" 0, .hex "msgvec" 1, .hex "vlen" 2,
     .hex "flags" 3],
   .number .nr_process_vm_readv "process_vm_readv" [.hex "pid" 0, .hex "local_iov" 1,
     .hex "liovcnt" 2, .hex "remote_iov" 3, .hex "riovcnt" 4, .hex "flags" 5],
   .number .nr_process_vm_writev "process_vm_writev" [.hex "pid" 0, .hex "local_iov" 1,
     .hex "liovcnt" 2, .hex "remote_iov" 3, .hex "riovcnt" 4, .hex "flags" 5],
   .number .nr_kcmp "kcmp" [.hex "pid1" 0, .hex "pid2" 1, .hex "type" 2, .hex "idx1" 3,
     .hex "idx2" 4],
   .number .nr_finit_module "finit_module" [.hex "fd" 0, .hex "param_values" 1, .hex "flags" 2],
   .number .nr_sched_setattr "sched_setattr" [.hex "pid" 0, .hex "attr" 1, .hex "flags" 2],
   .number .nr_sched_getattr "sched_getattr" [.hex "pid" 0, .hex "attr" 1, .hex "size" 2,
     .hex "flags" 3],
   .number .nr_renameat2 "renameat2" [.hex "olddirfd" 0, .hex "oldpath" 1, .hex "newdirfd" 2,
     .hex "newpath" 3, .hex "flags" 4],
   .number .nr_seccomp "seccomp" [.hex "operation" 0, .hex "flags" 1, .hex "args" 2],
   .number .nr_getrandom "getrandom" [.hex "buf" 0, .hex "buflen" 1, .hex "flags" 2],
   .number .nr_memfd_create "memfd_create" [.hex "name" 0, .hex "flags" 1],
   .number .nr_bpf "bpf" [.hex "cmd" 0, .hex "attr" 1, .hex "size" 2],
   .number .nr_execveat "execveat" [.hex "dirfd" 0, .hex "pathname" 1, .hex "argv" 2,
     .hex "envp" 3, .hex "flags" 4],
   .number .nr_userfaultfd "userfaultfd" [.hex "flags" 0],
   .number .nr_membarrier "membarrier" [.hex "cmd" 0, .hex "flags" 1],
   .number .nr_mlock2 "mlock2" [.hex "addr" 0, .hex "length" 1, .hex "flags" 2],
   .number .nr_copy_file_range "copy_file_range" [.hex "fd_in" 0, .hex "off_in" 1,
     .hex "fd_out" 2, .hex "off_out" 3, .hex "len" 4, .hex "flags" 5],
   .number .nr_preadv2 "preadv2" [.hex "fd" 0, .hex "iov" 1, .hex "iovcnt" 2, .hex "offset" 3,
     .hex "flags" 4],
   .number .nr_pwritev2 "pwritev2" [.hex "fd" 0, .hex "iov" 1, .hex "iovcnt" 2, .hex "offset" 3,
     .hex "flags" 4],
   .number .nr_pkey_mprotect "pkey_mprotect" [.hex "addr" 0, .hex "len" 1, .hex "prot" 2,
     .hex "pkey" 3],
   .number .nr_pkey_alloc "pkey_alloc" [.hex "flags" 0, .hex "access_rights" 1],
   .number .nr_pkey_free "pkey_free" [.hex "pkey" 0],
   .number .nr_statx "statx" [.hex "dirfd" 0, .hex "pathname" 1, .hex "flags" 2, .hex "mask" 3,
     .hex "statxbuf" 4],
   .number .nr_syscalls "syscalls" [.hex "syscall_num" 0]]

def Arch.handlers : Arch → List SyscallEntry
  | .arm => armHandlers
  | .aarch64 => aarch64Handlers

end QbdiTracer
