import DescriptorReaper.Accounts
import DescriptorReaper.Target
import DescriptorReaper.Utf8

/-!
What every system has in its file tree, programs apart: directories, files and devices by the
directories that they stand in, and links by their places. A file holds nothing that would not be
the same on every system.
-/

namespace DescriptorReaper.SystemTree

def directoriesIn : List (Place × List String) :=
  [([],
    ["boot", "dev", "etc", "home", "media", "mnt", "opt", "proc", "root", "run", "srv", "sys",
     "tmp", "usr", "var"]),
   (["dev"],
    ["mqueue", "pts", "shm"]),
   (["etc"],
    ["alternatives", "apt", "cron.d", "cron.daily", "default", "dpkg", "gss", "init.d",
     "kernel", "ld.so.conf.d", "logrotate.d", "opt", "pam.d", "profile.d", "rc0.d", "rc1.d",
     "rc2.d", "rc3.d", "rc4.d", "rc5.d", "rc6.d", "rcS.d", "security", "selinux", "skel",
     "sysctl.d", "systemd", "terminfo", "update-motd.d"]),
   (["etc", "apt"],
    ["apt.conf.d", "auth.conf.d", "keyrings", "preferences.d", "sources.list.d",
     "trusted.gpg.d"]),
   (["etc", "security"],
    ["limits.d", "namespace.d"]),
   (["proc"],
    ["acpi", "bus", "driver", "fs", "irq", "pressure", "sys", "sysvipc", "tty"]),
   (["proc", "bus"],
    ["input", "pci"]),
   (["proc", "sys"],
    ["abi", "debug", "dev", "fs", "kernel", "net", "user", "vm"]),
   (["proc", "sys", "fs"],
    ["binfmt_misc", "epoll", "fanotify", "inotify", "mqueue", "quota"]),
   (["proc", "sys", "kernel"],
    ["keys", "pty", "random", "seccomp", "usermodehelper"]),
   (["proc", "sys", "net"],
    ["core", "ipv4", "ipv6", "netfilter", "unix"]),
   (["proc", "tty"],
    ["driver", "ldisc"]),
   (["run"],
    ["lock"]),
   (["sys"],
    ["block", "bus", "class", "dev", "devices", "firmware", "fs", "kernel", "module", "power"]),
   (["sys", "bus"],
    ["clockevents", "clocksource", "container", "cpu", "event_source", "memory", "node", "pci",
     "platform", "workqueue"]),
   (["sys", "class"],
    ["bdi", "block", "dma", "firmware", "input", "mem", "misc", "net", "pci_bus",
     "power_supply", "rtc", "thermal", "tty", "vc", "vtconsole", "watchdog"]),
   (["sys", "dev"],
    ["block", "char"]),
   (["sys", "devices"],
    ["platform", "system", "virtual"]),
   (["sys", "devices", "system"],
    ["clockevents", "clocksource", "container", "cpu", "edac", "memory", "node"]),
   (["sys", "devices", "virtual"],
    ["bdi", "block", "mem", "misc", "net", "tty", "vc", "vtconsole", "workqueue"]),
   (["sys", "fs"],
    ["bpf", "cgroup", "ext4", "fuse", "pstore"]),
   (["sys", "kernel"],
    ["boot_params", "btf", "cgroup", "debug", "iommu_groups", "irq", "mm", "security", "slab",
     "software_nodes", "tracing"]),
   (["sys", "kernel", "mm"],
    ["hugepages", "ksm", "lru_gen", "numa", "page_idle", "swap", "transparent_hugepage"]),
   (["usr"],
    ["bin", "games", "include", "lib", "lib64", "libexec", "local", "sbin", "share", "src"]),
   (["usr", "lib"],
    ["apt", "dpkg", "init", "locale", "lsb", "mime", "sysctl.d", "systemd", "terminfo",
     "tmpfiles.d", "udev"]),
   (["usr", "local"],
    ["bin", "etc", "games", "include", "lib", "sbin", "share", "src"]),
   (["usr", "share"],
    ["base-files", "base-passwd", "bash-completion", "bug", "common-licenses", "debconf",
     "debianutils", "dict", "doc", "doc-base", "dpkg", "gcc", "info", "keyrings", "libc-bin",
     "lintian", "locale", "man", "menu", "misc", "pam", "pam-configs", "perl5", "pixmaps",
     "polkit-1", "sensible-utils", "tabset", "terminfo", "util-linux", "xml", "zoneinfo"]),
   (["var"],
    ["backups", "cache", "lib", "local", "log", "mail", "opt", "spool", "tmp"]),
   (["var", "cache"],
    ["apt", "debconf", "ldconfig"]),
   (["var", "lib"],
    ["apt", "dpkg", "misc", "pam", "systemd"]),
   (["var", "log"],
    ["apt"])]

def filesIn : List (Place × List String) :=
  [(["etc"],
    ["adduser.conf", "bash.bashrc", "bindresvport.blacklist", "debconf.conf", "debian_version",
     "deluser.conf", "e2scrub.conf", "environment", "fstab", "gai.conf", "group", "group-",
     "gshadow", "gshadow-", "host.conf", "hostname", "hosts", "issue", "issue.net",
     "ld.so.cache", "ld.so.conf", "libaudit.conf", "login.defs", "machine-id", "mke2fs.conf",
     "motd", "nsswitch.conf", "pam.conf", "passwd", "passwd-", "profile", "resolv.conf",
     "shadow", "shadow-", "shells", "subgid", "subuid", "timezone", "xattr.conf"]),
   (["proc"],
    ["buddyinfo", "cgroups", "cmdline", "consoles", "cpuinfo", "crypto", "devices",
     "diskstats", "dma", "execdomains", "filesystems", "interrupts", "iomem", "ioports",
     "kallsyms", "kcore", "key-users", "keys", "kmsg", "kpagecgroup", "kpagecount",
     "kpageflags", "loadavg", "locks", "meminfo", "misc", "modules", "mtrr", "pagetypeinfo",
     "partitions", "schedstat", "slabinfo", "softirqs", "stat", "swaps", "sysrq-trigger",
     "timer_list", "uptime", "version", "vmallocinfo", "vmstat", "zoneinfo"]),
   (["proc", "pressure"],
    ["cpu", "io", "memory"]),
   (["proc", "sys", "abi"],
    ["vsyscall32"]),
   (["proc", "sys", "debug"],
    ["exception-trace"]),
   (["proc", "sys", "fs"],
    ["aio-max-nr", "aio-nr", "dentry-state", "dir-notify-enable", "file-max", "file-nr",
     "inode-nr", "inode-state", "lease-break-time", "leases-enable", "mount-max", "nr_open",
     "overflowgid", "overflowuid", "pipe-max-size", "pipe-user-pages-hard",
     "pipe-user-pages-soft", "protected_fifos", "protected_hardlinks", "protected_regular",
     "protected_symlinks", "suid_dumpable"]),
   (["proc", "sys", "fs", "epoll"],
    ["max_user_watches"]),
   (["proc", "sys", "fs", "inotify"],
    ["max_queued_events", "max_user_instances", "max_user_watches"]),
   (["proc", "sys", "fs", "mqueue"],
    ["msg_default", "msg_max", "msgsize_default", "msgsize_max", "queues_max"]),
   (["proc", "sys", "kernel"],
    ["acct", "auto_msgmni", "bootloader_type", "bootloader_version", "cad_pid", "cap_last_cap",
     "core_pattern", "core_pipe_limit", "core_uses_pid", "ctrl-alt-del", "dmesg_restrict",
     "domainname", "ftrace_enabled", "hostname", "hung_task_panic", "hung_task_timeout_secs",
     "hung_task_warnings", "io_uring_disabled", "kptr_restrict", "max_lock_depth", "modprobe",
     "modules_disabled", "msgmax", "msgmnb", "msgmni", "msg_next_id", "ngroups_max",
     "nmi_watchdog", "ns_last_pid", "numa_balancing", "osrelease", "ostype", "overflowgid",
     "overflowuid", "panic", "panic_on_oops", "panic_on_warn", "perf_event_paranoid",
     "pid_max", "poweroff_cmd", "print-fatal-signals", "printk", "printk_delay",
     "printk_devkmsg", "printk_ratelimit", "printk_ratelimit_burst", "randomize_va_space",
     "real-root-dev", "sched_autogroup_enabled", "sched_rr_timeslice_ms", "sched_rt_period_us",
     "sched_rt_runtime_us", "sem", "shm_next_id", "shm_rmid_forced", "shmall", "shmmax",
     "shmmni", "soft_watchdog", "softlockup_panic", "sysctl_writes_strict", "sysrq", "tainted",
     "threads-max", "timer_migration", "traceoff_on_warning", "unprivileged_bpf_disabled",
     "version", "watchdog", "watchdog_thresh"]),
   (["proc", "sys", "kernel", "random"],
    ["boot_id", "entropy_avail", "poolsize", "urandom_min_reseed_secs", "uuid",
     "write_wakeup_threshold"]),
   (["proc", "sys", "kernel", "pty"],
    ["max", "nr", "reserve"]),
   (["proc", "sys", "net", "core"],
    ["default_qdisc", "netdev_budget", "netdev_max_backlog", "optmem_max", "rmem_default",
     "rmem_max", "somaxconn", "wmem_default", "wmem_max"]),
   (["proc", "sys", "net", "ipv4"],
    ["ip_default_ttl", "ip_forward", "ip_local_port_range", "tcp_fin_timeout",
     "tcp_keepalive_time", "tcp_max_syn_backlog", "tcp_rmem", "tcp_syncookies", "tcp_wmem"]),
   (["proc", "sys", "user"],
    ["max_cgroup_namespaces", "max_inotify_instances", "max_inotify_watches",
     "max_ipc_namespaces", "max_mnt_namespaces", "max_net_namespaces", "max_pid_namespaces",
     "max_time_namespaces", "max_user_namespaces", "max_uts_namespaces"]),
   (["proc", "sys", "vm"],
    ["admin_reserve_kbytes", "compact_memory", "dirty_background_ratio", "dirty_bytes",
     "dirty_expire_centisecs", "dirty_ratio", "dirty_writeback_centisecs", "drop_caches",
     "extfrag_threshold", "laptop_mode", "legacy_va_layout", "max_map_count",
     "min_free_kbytes", "mmap_min_addr", "nr_hugepages", "oom_dump_tasks",
     "oom_kill_allocating_task", "overcommit_kbytes", "overcommit_memory", "overcommit_ratio",
     "page-cluster", "panic_on_oom", "stat_interval", "swappiness", "user_reserve_kbytes",
     "vfs_cache_pressure", "zone_reclaim_mode"]),
   (["proc", "sysvipc"],
    ["msg", "sem", "shm"]),
   (["proc", "tty"],
    ["drivers", "ldiscs"]),
   (["sys", "devices", "system", "cpu"],
    ["isolated", "kernel_max", "modalias", "offline", "online", "possible", "present", "uevent"]),
   (["sys", "kernel"],
    ["address_bits", "cpu_byteorder", "fscaps", "kexec_crash_loaded", "kexec_loaded", "notes",
     "profiling", "rcu_expedited", "rcu_normal", "uevent_seqnum", "vmcoreinfo"]),
   (["sys", "power"],
    ["state"]),
   (["usr", "lib"],
    ["os-release"]),
   (["var", "log"],
    ["alternatives.log", "bootstrap.log", "btmp", "dpkg.log", "faillog", "lastlog", "wtmp"])]

def devices : List Place :=
  [["dev", "console"], Target.fullPlace, Target.nullPlace, ["dev", "ptmx"], ["dev", "random"],
   ["dev", "tty"], ["dev", "urandom"], ["dev", "zero"]]

def lists (tree : List (Place × List String)) (place : Place) : Bool :=
  match place.getLast? with
  | some name => ((tree.lookup place.dropLast).getD []).contains name
  | none => false

def isDirectory (place : Place) : Bool := place.isEmpty || lists directoriesIn place

def isFile (place : Place) : Bool := lists filesIn place

def isGuarded (place : Place) : Bool :=
  let fixed := ["bootloader_type", "bootloader_version", "cap_last_cap", "ngroups_max", "osrelease",
    "ostype", "version"]
  match place with
  | ["proc", "sys", "kernel", name] => fixed.contains name
  | "sys" :: _ => true
  | _ => false

def names (directory : Place) : List String :=
  (directoriesIn.lookup directory).getD [] ++ (filesIn.lookup directory).getD []

/-- A link whose target is a path: from the root, or from the directory that it stands in. -/
structure Link where
  fromRoot : Bool
  names : List String
  deriving DecidableEq, Repr

def links : List (Place × Link) :=
  [(["bin"], ⟨false, ["usr", "bin"]⟩), (["sbin"], ⟨false, ["usr", "sbin"]⟩),
   (["lib"], ⟨false, ["usr", "lib"]⟩), (["lib64"], ⟨false, ["usr", "lib64"]⟩),
   (["var", "run"], ⟨true, ["run"]⟩), (["var", "lock"], ⟨true, ["run", "lock"]⟩),
   (["var", "spool", "mail"], ⟨false, ["..", "mail"]⟩),
   (["usr", "local", "man"], ⟨false, ["share", "man"]⟩),
   (["etc", "os-release"], ⟨false, ["..", "usr", "lib", "os-release"]⟩),
   (["etc", "mtab"], ⟨true, ["proc", "mounts"]⟩), (["usr", "bin", "sh"], ⟨false, ["dash"]⟩),
   (["proc", "mounts"], ⟨false, ["self", "mounts"]⟩), (["proc", "net"], ⟨false, ["self", "net"]⟩),
   (["dev", "core"], ⟨true, ["proc", "kcore"]⟩), (["dev", "fd"], ⟨true, ["proc", "self", "fd"]⟩),
   (["dev", "stdin"], ⟨true, ["proc", "self", "fd", "0"]⟩),
   (["dev", "stdout"], ⟨true, ["proc", "self", "fd", "1"]⟩),
   (["dev", "stderr"], ⟨true, ["proc", "self", "fd", "2"]⟩)]

def texts : List (Place × List String) :=
  [(["etc", "group"], ["root:x:0:"]),
   (["etc", "host.conf"], ["multi on"]),
   (["etc", "ld.so.conf"], ["include /etc/ld.so.conf.d/*.conf"]),
   (["etc", "shells"], ["# /etc/shells: valid login shells"]),
   (["proc", "sys", "fs", "nr_open"], ["1048576"]),
   (["proc", "sys", "kernel", "ngroups_max"], ["65536"]),
   (["proc", "sys", "kernel", "ostype"], ["Linux"]),
   (["proc", "sys", "kernel", "overflowgid"], ["65534"]),
   (["proc", "sys", "kernel", "overflowuid"], ["65534"]),
   (["proc", "sys", "kernel", "pid_max"], ["4194304"])]

def text (place : Place) : Bytes :=
  if place = ["etc", "passwd"] then Account.file
  else ((texts.lookup place).getD []).flatMap fun line => Utf8.encode line ++ [10]

end DescriptorReaper.SystemTree
