import Errand.Host.Program.Alphabet
import Errand.Host.Program.Amount
import Errand.Host.Program.Block
import Errand.Host.Program.Clock
import Errand.Host.Program.Columns
import Errand.Host.Program.Condition
import Errand.Host.Program.Content
import Errand.Host.Program.Difference
import Errand.Host.Program.Digest
import Errand.Host.Program.Dump
import Errand.Host.Program.Edit
import Errand.Host.Program.Encoding
import Errand.Host.Program.Factor
import Errand.Host.Program.Facts
import Errand.Host.Program.Formula
import Errand.Host.Program.Layout
import Errand.Host.Program.Listing
import Errand.Host.Program.Order
import Errand.Host.Program.Pairing
import Errand.Host.Program.Part
import Errand.Host.Program.Permission
import Errand.Host.Program.Search
import Errand.Host.Program.Sequence
import Errand.Host.Program.Transfer
import Errand.Host.Program.Tree

/-! # The programs of a host

`Program.named?` knows the programs that are functions of their calls. -/

namespace Errand.Host.Program

/-- A program by its name. -/
def named? (name : String) : Option (Call → Effect) :=
  match name with
  | "[" => some (condition true)
  | "arch" => some (telling "x86_64")
  | "base32" => some (encoded Encoding.thirtyTwo)
  | "base64" => some (encoded Encoding.sixtyFour)
  | "basename" => some basename
  | "cat" => some cat
  | "chmod" => some chmod
  | "cksum" => some cksum
  | "cmp" => some cmp
  | "comm" => some comm
  | "cp" => some cp
  | "cut" => some cut
  | "date" => some date
  | "dd" => some dd
  | "diff" => some diff
  | "dirname" => some dirname
  | "echo" => some echo
  | "egrep" => some (grep .extended)
  | "expand" => some expand
  | "expr" => some expr
  | "factor" => some factor
  | "false" => some fun _ => { status := 1 }
  | "fgrep" => some (grep .fixed)
  | "fold" => some fold
  | "grep" => some (grep .basic)
  | "groups" => some groups
  | "head" => some head
  | "id" => some id
  | "join" => some join
  | "ln" => some ln
  | "logname" => some logname
  | "ls" => some ls
  | "md5sum" => some (digest Checking.md5)
  | "mkdir" => some mkdir
  | "mv" => some mv
  | "nl" => some nl
  | "nproc" => some (telling "4")
  | "od" => some od
  | "paste" => some paste
  | "printenv" => some printenv
  | "printf" => some printf
  | "pwd" => some pwd
  | "readlink" => some readlink
  | "realpath" => some realpath
  | "rev" => some rev
  | "rm" => some rm
  | "rmdir" => some rmdir
  | "sed" => some sed
  | "seq" => some seq
  | "sha1sum" => some (digest Checking.sha1)
  | "sha256sum" => some (digest Checking.sha256)
  | "sleep" => some sleep
  | "sort" => some sort
  | "stat" => some stat
  | "sum" => some sum
  | "tac" => some tac
  | "tail" => some tail
  | "tee" => some tee
  | "test" => some (condition false)
  | "touch" => some touch
  | "tr" => some tr
  | "true" => some fun _ => {}
  | "truncate" => some truncate
  | "tty" => some tty
  | "uname" => some uname
  | "unexpand" => some unexpand
  | "uniq" => some uniq
  | "unlink" => some unlink
  | "wc" => some wc
  | "whoami" => some whoami
  | "yes" => some yes
  | _ => none

end Errand.Host.Program
