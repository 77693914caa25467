import GrammarLoader.Files.Tree
import GrammarLoader.Text.Utf8

/-! # A host around a scratch directory

The file system a run sees: an empty scratch directory of its own in `/tmp`, on a
Linux host, as a user without special privileges. The host has the usual top-level
directories, of which only `/tmp`, `/var/tmp` and `/dev/shm` take new entries and
`/root` cannot be looked into; `/bin`, `/sbin` and the library directories are links
into `/usr`; `/proc` lists what the kernel offers, `/proc/self` being the running
process with its working directory and its name, which the process may rewrite; `/dev`
holds the devices that read and write by fixed rules, and links to the process's
standard streams; `/etc` holds a few text files, one of them private. Paths that leave
the scratch directory (`/etc`, `../../dev/null`) land on these.

The standard streams are the driver's own pipes, which no request can observe: a
write lands in the answers, a read waits for the next request. `/proc/self/fd` lists
none of them, so the links to them lead nowhere.

The scratch directory is named as a fresh temporary directory is, `.tmp` and six
random characters; a path that spells its name from outside is a guess, which the
one name here stands for.
-/

namespace GrammarLoader.Files

namespace FileTree

/-- The scratch directory. -/
def scratch : List String := ["tmp", ".tmpA7xQ2m"]

/-- The process that runs, as `/proc` numbers it. -/
def process : String := "1"

/-- The host's directories, with what the user may do in each. -/
def hostDirectories : List (List String × DirAccess) :=
  [(["boot"], .readOnly), (["dev"], .readOnly), (["dev", "mqueue"], .readOnly),
   (["dev", "pts"], .readOnly), (["dev", "shm"], .writable), (["etc"], .readOnly),
   (["home"], .readOnly), (["media"], .readOnly), (["mnt"], .readOnly),
   (["opt"], .readOnly), (["proc"], .kernel), (["proc", process], .kernel),
   (["proc", process, "fd"], .kernel), (["proc", "sys"], .kernel), (["root"], .closed),
   (["run"], .readOnly), (["srv"], .readOnly), (["sys"], .readOnly),
   (["sys", "block"], .readOnly), (["sys", "bus"], .readOnly), (["sys", "class"], .readOnly),
   (["sys", "dev"], .readOnly), (["sys", "devices"], .readOnly),
   (["sys", "firmware"], .readOnly), (["sys", "fs"], .readOnly),
   (["sys", "kernel"], .readOnly), (["sys", "module"], .readOnly),
   (["sys", "power"], .readOnly), (["tmp"], .writable), (["usr"], .readOnly),
   (["usr", "bin"], .readOnly), (["usr", "games"], .readOnly),
   (["usr", "include"], .readOnly), (["usr", "lib"], .readOnly),
   (["usr", "lib64"], .readOnly), (["usr", "libexec"], .readOnly),
   (["usr", "local"], .readOnly), (["usr", "sbin"], .readOnly),
   (["usr", "share"], .readOnly), (["usr", "src"], .readOnly), (["var"], .readOnly),
   (["var", "backups"], .readOnly), (["var", "cache"], .readOnly),
   (["var", "lib"], .readOnly), (["var", "local"], .readOnly), (["var", "log"], .readOnly),
   (["var", "mail"], .readOnly), (["var", "opt"], .readOnly), (["var", "spool"], .readOnly),
   (["var", "tmp"], .writable)]

/-- The host's symbolic links, with their targets. -/
def hostLinks : List (List String × List String) :=
  [(["bin"], ["usr", "bin"]), (["sbin"], ["usr", "sbin"]), (["lib"], ["usr", "lib"]),
   (["lib64"], ["usr", "lib64"]), (["dev", "fd"], ["proc", process, "fd"]),
   (["dev", "stdin"], ["proc", process, "fd", "0"]),
   (["dev", "stdout"], ["proc", process, "fd", "1"]),
   (["dev", "stderr"], ["proc", process, "fd", "2"]),
   (["proc", "self"], ["proc", process]), (["proc", process, "cwd"], scratch),
   (["proc", process, "root"], [])]

/-- The host's character devices, and the running process's name. -/
def hostDevices : List (List String × Device) :=
  [(["dev", "null"], .null), (["dev", "zero"], .zero), (["dev", "full"], .full),
   (["dev", "random"], .random), (["dev", "urandom"], .random), (["dev", "tty"], .terminal),
   (["proc", process, "comm"], .taskName (Text.Utf8.encode "grz"))]

/-- The start of a program file: the executable format's magic number and header. -/
def programBytes : Bytes :=
  [0x7f, 0x45, 0x4c, 0x46, 0x02, 0x01, 0x01, 0x00, 0, 0, 0, 0, 0, 0, 0, 0]

/-- The host's programs. -/
def hostPrograms : List String :=
  ["bash", "cat", "dash", "env", "false", "ls", "sh", "true"]

/-- The host's text files, with what the user may do with each and their contents. -/
def hostFiles : List (List String × FileAccess × String) :=
  [(["etc", "passwd"], .readOnly, "root:x:0:0:root:/root:/bin/bash\n"),
   (["etc", "group"], .readOnly, "root:x:0:\n"),
   (["etc", "hostname"], .readOnly, "localhost\n"),
   (["etc", "hosts"], .readOnly, "127.0.0.1\tlocalhost\n"),
   (["etc", "shells"], .readOnly, "/bin/sh\n/bin/bash\n"),
   (["etc", "os-release"], .readOnly, "ID=debian\n"),
   (["etc", "debian_version"], .readOnly, "12.0\n"),
   (["etc", "shadow"], .unreadable, "root:*:19000:0:99999:7:::\n"),
   (["proc", "version"], .readOnly, "Linux version 6.1.0\n"),
   (["proc", "cpuinfo"], .readOnly, "processor\t: 0\n"),
   (["proc", "meminfo"], .readOnly, "MemTotal: 0 kB\n"),
   (["proc", "uptime"], .readOnly, "0.00 0.00\n"),
   (["proc", "loadavg"], .readOnly, "0.00 0.00 0.00 1/1 1\n"),
   (["proc", "stat"], .readOnly, "cpu 0 0 0 0\n"),
   (["proc", "filesystems"], .readOnly, "nodev\tproc\n"),
   (["proc", "cmdline"], .readOnly, "console=ttyS0\n"),
   (["proc", "mounts"], .readOnly, "proc /proc proc rw 0 0\n"),
   (["proc", process, "status"], .readOnly, "Name:\tgrz\n"),
   (["proc", process, "cmdline"], .readOnly, "grz\x00\x00"),
   (["proc", process, "stat"], .readOnly, "1 (grz) R\n"),
   (["proc", process, "environ"], .readOnly, "PATH=/usr/bin\x00")]

/-- The host with an empty scratch directory as the working directory. -/
def host : FileTree :=
  { entries :=
      hostDirectories.map (fun (p, a) => (p, Node.directory a))
        ++ hostLinks.map (fun (p, q) => (p, Node.link q))
        ++ hostDevices.map (fun (p, d) => (p, Node.device d))
        ++ hostPrograms.map (fun name => (["usr", "bin", name], Node.file programBytes .readOnly))
        ++ hostFiles.map (fun (p, a, text) => (p, Node.file (Text.Utf8.encode text) a))
        ++ [(scratch, Node.directory .writable)]
    work := scratch }

end FileTree

end GrammarLoader.Files
