import Errand.Text.Octets
import Errand.Path

/-! # The files of a host

A tree of files as a table of places: a place is the list of the names on the way from the root.
Besides directories and files with contents there are programs, which are known by their name,
links, which stand for a path, and devices. Every operation that can be refused says why by a
`Refusal`, with its number and its reason. Names and paths are texts of octets.

* `Files.locate` follows a path from a directory, name by name, and `Files.find?` tells what is
  there;
* `Files.put`, `Files.remove` and `Files.names` write to a place, clear it, and list a directory. -/

namespace Errand.Host

/-- Why the system refuses something. -/
inductive Refusal where
  | notPermitted
  | noEntry
  | noDevice
  | tooManyArguments
  | badFormat
  | badDescriptor
  | denied
  | busy
  | occupied
  | notDirectory
  | isDirectory
  | invalid
  | noSpace
  | nameTooLong
  | notEmpty
  | tooManyLinks
  deriving DecidableEq, Repr

/-- The number of a refusal. -/
def Refusal.number : Refusal → Int
  | notPermitted => 1
  | noEntry => 2
  | noDevice => 6
  | tooManyArguments => 7
  | badFormat => 8
  | badDescriptor => 9
  | denied => 13
  | busy => 16
  | occupied => 17
  | notDirectory => 20
  | isDirectory => 21
  | invalid => 22
  | noSpace => 28
  | nameTooLong => 36
  | notEmpty => 39
  | tooManyLinks => 40

/-- The reason of a refusal. -/
def Refusal.reason : Refusal → String
  | notPermitted => "Operation not permitted"
  | noEntry => "No such file or directory"
  | noDevice => "No such device or address"
  | tooManyArguments => "Argument list too long"
  | badFormat => "Exec format error"
  | badDescriptor => "Bad file descriptor"
  | denied => "Permission denied"
  | busy => "Device or resource busy"
  | occupied => "File exists"
  | notDirectory => "Not a directory"
  | isDirectory => "Is a directory"
  | invalid => "Invalid argument"
  | noSpace => "No space left on device"
  | nameTooLong => "File name too long"
  | notEmpty => "Directory not empty"
  | tooManyLinks => "Too many levels of symbolic links"

/-- The names on the way from the root to a place. -/
abbrev Location := List String

/-- Devices: one that is empty and takes everything, one of zeros without end, one of zeros that
takes nothing, and one for a terminal that is not there. -/
inductive Device where
  | null
  | zero
  | full
  | terminal
  deriving DecidableEq, Repr

/-- What is at a place. Directories and files have a mode; in that of a file the bits of
`executableBits` count. -/
inductive Node where
  | directory (mode : Nat := 0o755)
  | file (content : Bytes) (mode : Nat)
  | program (name : String)
  | link (target : String)
  | device (d : Device)
  deriving DecidableEq, Repr

/-- The bits of a mode that make a file one that can be started. -/
def executableBits : Nat := 0o111

/-- Whether there is a directory at a place. -/
def Node.isDirectory : Node → Bool
  | .directory _ => true
  | _ => false

/-- The mode of what is at a place. -/
def Node.mode : Node → Nat
  | .directory mode | .file _ mode => mode
  | .program _ => 0o755
  | .link _ => 0o777
  | .device .terminal => 0o620
  | .device _ => 0o666

/-- What is at a place with another mode. -/
def Node.withMode (n : Node) (mode : Nat) : Node :=
  match n with
  | .directory _ => .directory mode
  | .file content _ => .file content mode
  | n => n

/-- Whether what is at a place can be started. -/
def Node.isExecutable : Node → Bool
  | .file _ mode => mode &&& executableBits != 0
  | .program _ => true
  | _ => false

/-- The files of a host. -/
abbrev Files := List (Location × Node)

namespace Files

/-- What is at a place; the root is a directory. -/
def at? (files : Files) (place : Location) : Option Node :=
  if place.isEmpty then some (.directory) else files.lookup place

/-- The number of bytes that a name may have. -/
def nameLimit : Nat := 255

/-- The number of bytes that a path may have. -/
def pathLimit : Nat := 4095

/-- The number of links that may lead on from each other. -/
def linkLimit : Nat := 40

/-- Goes on from a place by names. A link is followed; one that is the last name only if `final`
says so. The first number bounds the links. -/
def follow (files : Files) (final : Bool) : Nat → Location → List String →
    Except Refusal Location
  | _, place, [] => .ok place
  | links, place, name :: rest =>
    match files.at? place with
    | none => .error .noEntry
    | some (.directory _) =>
      if name.isEmpty || name == "." then files.follow final links place rest
      else if name == ".." then files.follow final links place.dropLast rest
      else if nameLimit < name.length then .error .nameTooLong
      else match files.at? (place ++ [name]) with
        | some (.link target) =>
          if rest.isEmpty && !final then .ok (place ++ [name])
          else match links with
            | 0 => .error .tooManyLinks
            | links + 1 =>
              files.follow final links (if target.startsWith "/" then [] else place)
                (target.splitOn "/" ++ rest)
        | _ => files.follow final links (place ++ [name]) rest
    | some _ => .error .notDirectory
termination_by links _ names => (links, names.length)

/-- Where a path leads from a directory, whether or not there is anything. -/
def locate (files : Files) (directory : Location) (path : String) (final : Bool := true) :
    Except Refusal Location :=
  if path.isEmpty then .error .noEntry
  else if pathLimit < path.length then .error .nameTooLong
  else files.follow final linkLimit (if path.startsWith "/" then [] else directory)
    (path.splitOn "/")

/-- Where names lead from a place, if what is missing is taken for a directory. The number bounds
the links; what they are not followed for is taken as it is. -/
def settle (files : Files) : Nat → Location → List String → Location
  | _, place, [] => place
  | links, place, name :: rest =>
    if name.isEmpty || name == "." then files.settle links place rest
    else if name == ".." then files.settle links place.dropLast rest
    else match files.at? (place ++ [name]), links with
      | some (.link target), links + 1 =>
        files.settle links (if target.startsWith "/" then [] else place)
          (target.splitOn "/" ++ rest)
      | _, links => files.settle links (place ++ [name]) rest
termination_by links _ names => (links, names.length)

/-- What a path leads to from a directory. -/
def find? (files : Files) (directory : Location) (path : String) (final : Bool := true) :
    Except Refusal (Location × Node) := do
  let place ← files.locate directory path final
  match files.at? place with
  | some node => pure (place, node)
  | none => throw .noEntry

/-- The directory that a path leads to. -/
def directory? (files : Files) (directory : Location) (path : String) :
    Except Refusal Location := do
  match ← files.find? directory path with
  | (place, .directory _) => pure place
  | _ => throw .notDirectory

/-- Puts something at a place. -/
def put (files : Files) (place : Location) (node : Node) : Files :=
  (place, node) :: files.filter fun e => e.1 != place

/-- Clears a place and what is below it. -/
def remove (files : Files) (place : Location) : Files :=
  files.filter fun e => !place.isPrefixOf e.1

/-- Moves what is at a place, and below it, to another place. -/
def move (files : Files) (source target : Location) : Files :=
  let (moved, others) := files.partition fun e => source.isPrefixOf e.1
  moved.map (fun e => (target ++ e.1.drop source.length, e.2)) ++
    others.filter fun e => !target.isPrefixOf e.1

/-- Copies what is at a place, and below it, to another place. -/
def copy (files : Files) (source target : Location) : Files :=
  let copied := (files.filter fun e => source.isPrefixOf e.1).map fun e =>
    (target ++ e.1.drop source.length, e.2)
  copied ++ files.filter fun e => !(copied.any fun c => c.1 == e.1)

/-- Puts directories on the way to a place. -/
def makeDirectories (files : Files) (place : Location) : Files :=
  (List.range (place.length + 1)).foldl (fun files n =>
    if (files.at? (place.take n)).isSome then files else files.put (place.take n) .directory) files

/-- The names in a directory, in order. -/
def names (files : Files) (place : Location) : List String :=
  let inside := files.filterMap fun e =>
    if e.1.dropLast == place && !e.1.isEmpty then e.1.getLast? else none
  inside.mergeSort fun a b => a ≤ b

/-- The text of a place. -/
def text (place : Location) : String := "/" ++ "/".intercalate place

/-- The path from a directory to a place. -/
def between (directory place : Location) : String :=
  let shared := ((directory.zip place).takeWhile fun (a, b) => a == b).length
  let names := List.replicate (directory.length - shared) ".." ++ place.drop shared
  if names.isEmpty then "." else "/".intercalate names

example : between ["a", "b"] ["a", "c"] = "../c" := by decide +kernel

/-! ## The files that every host has -/

/-- The names of the programs that a host has. -/
def programNames : List String :=
  ["[", "arch", "awk", "base32", "base64", "basename", "bash", "cat", "chmod", "cksum", "cmp",
    "comm", "cp", "csplit", "cut", "dash", "date", "dd", "df", "diff", "dir", "dirname", "du",
    "echo", "egrep", "env", "expand", "expr", "factor", "false", "fgrep", "find", "fold", "getconf",
    "grep", "groups", "head", "hostname", "id", "install", "join", "ln", "logname", "ls", "mawk",
    "md5sum", "mkdir", "mktemp", "mv", "nice", "nl", "nohup", "nproc", "numfmt", "od", "paste",
    "pathchk", "perl", "printenv", "printf", "pwd", "readlink", "realpath", "rev", "rm", "rmdir",
    "sed", "seq", "setsid", "sh", "sha1sum", "sha256sum", "shuf", "sleep", "sort", "split", "stat",
    "stdbuf", "stty", "sum", "sync", "tac", "tail", "tar", "tee", "test", "timeout", "touch", "tr",
    "true", "truncate", "tsort", "tty", "uname", "unexpand", "uniq", "unlink", "wc", "which",
    "whoami", "xargs", "yes"]

/-- The names below the root that are links to directories of programs and what they need. -/
def topLinks : List String := ["bin", "lib", "lib64", "sbin"]

/-- The directories that every host has. -/
def directories : List String :=
  ["boot", "dev", "dev/pts", "dev/shm", "etc", "etc/default", "home", "media", "mnt", "opt",
    "proc", "proc/self", "root", "run", "run/lock", "srv", "sys", "tmp", "usr", "usr/bin",
    "usr/games", "usr/include", "usr/lib", "usr/lib64", "usr/libexec", "usr/local",
    "usr/local/bin", "usr/local/etc", "usr/local/games", "usr/local/include", "usr/local/lib",
    "usr/local/sbin", "usr/local/share", "usr/local/src", "usr/sbin", "usr/share",
    "usr/share/doc", "usr/share/man", "usr/src", "var", "var/backups", "var/cache", "var/lib",
    "var/local", "var/log", "var/mail", "var/opt", "var/spool", "var/tmp"]

/-- The users that every host knows. -/
def users : List String :=
  ["root:x:0:0:root:/root:/bin/bash"] ++ [
    "daemon:x:1:1:daemon:/usr/sbin", "bin:x:2:2:bin:/bin", "sys:x:3:3:sys:/dev",
    "games:x:5:60:games:/usr/games", "man:x:6:12:man:/var/cache/man", "lp:x:7:7:lp:/var/spool/lpd",
    "mail:x:8:8:mail:/var/mail", "news:x:9:9:news:/var/spool/news",
    "uucp:x:10:10:uucp:/var/spool/uucp", "proxy:x:13:13:proxy:/bin",
    "www-data:x:33:33:www-data:/var/www", "backup:x:34:34:backup:/var/backups",
    "list:x:38:38:Mailing List Manager:/var/list", "irc:x:39:39:ircd:/run/ircd",
    "_apt:x:42:65534::/nonexistent", "nobody:x:65534:65534:nobody:/nonexistent"].map
      (· ++ ":/usr/sbin/nologin")

/-- The content of a file of lines. -/
def contentOf (lines : List String) : Bytes :=
  Text.Octets.bytesOf (String.join (lines.map (· ++ "\n")))

/-- The files that every host has. -/
def base : Files :=
  let placed := fun (path : String) (n : Node) => (path.splitOn "/", n)
  directories.map (placed · (.directory)) ++
  topLinks.map (fun n => placed n (.link ("usr/" ++ n))) ++
  [placed "var/run" (.link "/run"), placed "var/lock" (.link "/run/lock"),
    placed "dev/null" (.device .null), placed "dev/zero" (.device .zero),
    placed "dev/full" (.device .full), placed "dev/tty" (.device .terminal),
    placed "dev/stdin" (.link "/proc/self/fd/0"), placed "dev/stdout" (.link "/proc/self/fd/1"),
    placed "dev/stderr" (.link "/proc/self/fd/2"), placed "dev/fd" (.link "/proc/self/fd"),
    placed "etc/passwd" (.file (contentOf users) 0o644)] ++
  programNames.map fun n => placed ("usr/bin/" ++ n) (.program n)

end Files

end Errand.Host
