import Reroute.Disk.Basic

/-!
The disk of a plain system: the directories that are always there, the devices, the programs
and a few files, with an empty directory to work in.
-/
namespace Reroute.Disk

/-- The directories of a plain system, each behind the one that it stands in. -/
def standardDirectories : List String :=
  ["/boot", "/dev", "/dev/mqueue", "/dev/pts", "/dev/shm", "/etc", "/etc/apt", "/etc/cron.daily",
    "/etc/default", "/etc/init.d", "/etc/ld.so.conf.d", "/etc/opt", "/etc/pam.d", "/etc/profile.d",
    "/etc/security", "/etc/skel", "/etc/ssl", "/etc/ssl/certs", "/etc/systemd", "/home", "/media",
    "/mnt", "/opt", "/proc", "/proc/1", "/proc/net", "/proc/sys", "/proc/sys/kernel", "/root",
    "/run", "/run/lock", "/srv", "/sys", "/sys/class", "/sys/kernel", "/tmp", "/usr", "/usr/bin",
    "/usr/games", "/usr/include", "/usr/lib", "/usr/lib64", "/usr/libexec", "/usr/local",
    "/usr/local/bin", "/usr/local/etc", "/usr/local/games", "/usr/local/include",
    "/usr/local/lib", "/usr/local/sbin", "/usr/local/share", "/usr/local/src", "/usr/sbin",
    "/usr/share", "/usr/share/doc", "/usr/share/man", "/usr/src", "/var", "/var/backups",
    "/var/cache", "/var/lib", "/var/local", "/var/log", "/var/mail", "/var/opt", "/var/spool",
    "/var/tmp"]

/-- The directories that everybody may write in. -/
def sharedDirectories : List String := ["/dev/shm", "/run/lock", "/tmp", "/var/tmp"]

/-- The links of a plain system. -/
def standardLinks : List (String × String) :=
  [("/bin", "usr/bin"), ("/lib", "usr/lib"), ("/lib64", "usr/lib64"), ("/sbin", "usr/sbin"),
    ("/etc/mtab", "/proc/mounts"), ("/etc/os-release", "../usr/lib/os-release"),
    ("/usr/local/man", "share/man"), ("/var/lock", "/run/lock"), ("/var/run", "/run")]

/-- The devices of a plain system. -/
def standardDevices : List (String × Device) :=
  [("/dev/null", .null), ("/dev/zero", .zero), ("/dev/full", .full), ("/dev/random", .random),
    ("/dev/urandom", .random), ("/dev/tty", .unreachable), ("/dev/console", .unreachable),
    ("/dev/ptmx", .unreachable), ("/dev/stdin", .null), ("/dev/stdout", .null),
    ("/dev/stderr", .null), ("/dev/fd", .unreachable), ("/dev/core", .unreachable)]

/-- The accounts of a plain system. -/
def accounts : String :=
  "root:x:0:0:root:/root:/bin/bash
daemon:x:1:1:daemon:/usr/sbin:/usr/sbin/nologin
bin:x:2:2:bin:/bin:/usr/sbin/nologin
sys:x:3:3:sys:/dev:/usr/sbin/nologin
sync:x:4:65534:sync:/bin:/bin/sync
games:x:5:60:games:/usr/games:/usr/sbin/nologin
man:x:6:12:man:/var/cache/man:/usr/sbin/nologin
lp:x:7:7:lp:/var/spool/lpd:/usr/sbin/nologin
mail:x:8:8:mail:/var/mail:/usr/sbin/nologin
news:x:9:9:news:/var/spool/news:/usr/sbin/nologin
uucp:x:10:10:uucp:/var/spool/uucp:/usr/sbin/nologin
proxy:x:13:13:proxy:/bin:/usr/sbin/nologin
www-data:x:33:33:www-data:/var/www:/usr/sbin/nologin
backup:x:34:34:backup:/var/backups:/usr/sbin/nologin
list:x:38:38:Mailing List Manager:/var/list:/usr/sbin/nologin
irc:x:39:39:ircd:/run/ircd:/usr/sbin/nologin
_apt:x:42:65534::/nonexistent:/usr/sbin/nologin
nobody:x:65534:65534:nobody:/nonexistent:/usr/sbin/nologin
"

/-- The files of a plain system, with their contents. -/
def standardFiles : List (String × String) :=
  [("/etc/passwd", accounts), ("/etc/group", "root:x:0:\ndaemon:x:1:\n"),
    ("/etc/shadow", "root:*:1:0:99999:7:::\n"), ("/etc/hostname", "localhost\n"),
    ("/etc/hosts", "127.0.0.1\tlocalhost\n"), ("/etc/resolv.conf", ""), ("/etc/fstab", ""),
    ("/etc/shells", "/bin/sh\n/bin/bash\n"), ("/etc/profile", ""), ("/etc/bash.bashrc", ""),
    ("/etc/environment", ""), ("/etc/issue", "Linux\n"), ("/etc/motd", ""),
    ("/etc/nsswitch.conf", ""), ("/etc/host.conf", "multi on\n"), ("/etc/debian_version", "13.0\n"),
    ("/etc/login.defs", ""), ("/etc/ld.so.conf", "include /etc/ld.so.conf.d/*.conf\n"),
    ("/etc/machine-id", "\n"), ("/usr/lib/os-release", "ID=debian\n"), ("/proc/version", "Linux\n"),
    ("/proc/cpuinfo", ""), ("/proc/meminfo", ""), ("/proc/mounts", ""), ("/proc/uptime", "1.00 1.00\n"),
    ("/proc/stat", ""), ("/proc/loadavg", ""), ("/proc/1/status", ""), ("/root/.bashrc", ""),
    ("/root/.profile", "")]

/-- The programs of a plain system. -/
def standardPrograms : List String :=
  ["[", "arch", "awk", "b2sum", "base32", "base64", "basename", "bash", "cat", "chgrp", "chmod",
    "chown", "cksum", "clear", "cmp", "comm", "cp", "csplit", "cut", "dash", "date", "dd", "df",
    "diff", "dir", "dirname", "du", "echo", "egrep", "env", "expand", "expr", "factor", "false",
    "fgrep", "find", "fmt", "fold", "free", "getconf", "getent", "grep", "groups", "gunzip", "gzip",
    "head", "hostid", "hostname", "id", "install", "join", "kill", "ldd", "link", "ln", "locale",
    "login", "logname", "ls", "mawk", "md5sum", "mkdir", "mkfifo", "mknod", "mktemp", "more",
    "mount", "mv", "nice", "nl", "nohup", "nproc", "numfmt", "od", "paste", "pathchk", "perl",
    "pr", "printenv", "printf", "pwd", "readlink", "realpath", "rev", "rm", "rmdir", "sed", "seq",
    "setsid", "sh", "sha1sum", "sha224sum", "sha256sum", "sha384sum", "sha512sum", "shred",
    "shuf", "sleep", "sort", "split", "stat", "stdbuf", "stty", "su", "sum", "sync", "tac", "tail",
    "tar", "tee", "test", "timeout", "touch", "tr", "true", "truncate", "tsort", "tty", "uname",
    "unexpand", "uniq", "unlink", "users", "vdir", "wc", "which", "who", "whoami", "xargs", "yes",
    "zcat"]

/-- What every program begins with, in front of its name. -/
def programMark : Text := "\x7fELF\xff".toList

/-- The directory to work in. -/
def workPath : Text := "/tmp/work".toList

/-- The disk of a plain system. -/
def standard : Disk :=
  let disk := empty
  let disk := standardDirectories.foldl
    (fun disk path => (disk.makeDirectory 0 (components path.toList)).1) disk
  let disk := (disk.makeDirectory 0 (components workPath)).1
  let disk := sharedDirectories.foldl (fun disk path => disk.setMode 0 path.toList 0o1777) disk
  let disk := standardLinks.foldl
    (fun disk (path, target) => disk.put 0 path.toList (.link target.toList)) disk
  let disk := standardDevices.foldl
    (fun disk (path, kind) => disk.put 0 path.toList (.device kind)) disk
  let disk := standardFiles.foldl
    (fun disk (path, text) => disk.put 0 path.toList (.file text.toList 0o644 0)) disk
  standardPrograms.foldl
    (fun disk name => disk.put 0 ("/usr/bin/".toList ++ name.toList)
      (.file (programMark ++ name.toList) 0o755 0)) disk

/-- The directory to work in on the disk of a plain system. -/
def standardWork : Nat := (standard.find 0 workPath).toOption.getD 0

end Reroute.Disk
