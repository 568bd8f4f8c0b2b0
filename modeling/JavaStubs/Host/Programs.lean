import JavaStubs.Host.ArgumentRuns
import JavaStubs.Host.BlockTools
import JavaStubs.Host.Dates
import JavaStubs.Host.DigestTools
import JavaStubs.Host.TextCoding
import JavaStubs.Host.Expression
import JavaStubs.Host.FileComparison
import JavaStubs.Host.FileSearch
import JavaStubs.Host.FileStatus
import JavaStubs.Host.LineEditor
import JavaStubs.Host.LineParts
import JavaStubs.Host.LineSearch
import JavaStubs.Host.LineTools
import JavaStubs.Host.Linking
import JavaStubs.Host.Listing
import JavaStubs.Host.Making
import JavaStubs.Host.OctetComparison
import JavaStubs.Host.PartTools
import JavaStubs.Host.Removal
import JavaStubs.Host.Selection
import JavaStubs.Host.Sequence
import JavaStubs.Host.TabStops
import JavaStubs.Host.Transfer
import JavaStubs.Host.Translation
import JavaStubs.Records.Start
import JavaStubs.Shell.Start

namespace JavaStubs.Host.Programs

/-- The programs that run no others. -/
def utilities : List (String × Work Unit) :=
  [("true", return), ("false", Work.fail 1), ("echo", echo), ("printf", printf), ("yes", yes),
    ("test", condition), ("[", bracketed), ("basename", basename), ("dirname", dirname), ("pwd", pwd),
    ("printenv", printenv), ("sleep", sleep), ("uname", uname), ("arch", arch), ("id", userId),
    ("whoami", whoami), ("tty", tty), ("which", which), ("cat", cat), ("tac", tac), ("rev", rev),
    ("nl", nl), ("head", head), ("tail", tail), ("wc", wc), ("tee", tee), ("paste", paste),
    ("fold", fold), ("seq", seq), ("sort", sort), ("uniq", uniq), ("comm", comm), ("cut", cut),
    ("tr", tr), ("grep", grep false false), ("egrep", grep true false), ("fgrep", grep false true),
    ("sed", sed), ("expr", expr), ("cp", cp), ("mv", mv), ("ln", ln), ("link", link), ("rm", rm),
    ("rmdir", rmdir), ("unlink", unlink), ("mkdir", mkdir), ("touch", touch), ("chmod", chmod),
    ("ls", ls), ("readlink", readlink), ("realpath", realpath), ("od", od), ("dd", dd),
    ("split", split), ("truncate", truncate), ("cmp", cmp), ("diff", diff), ("sum", sum),
    ("cksum", cksum), ("base64", codingProgram .base64), ("base32", codingProgram .base32),
    ("mktemp", mktemp), ("expand", expand), ("unexpand", unexpand),
    ("stat", stat), ("date", date), ("hostname", hostname), ("nproc", nproc)] ++
  DigestKind.all.map fun kind => (s!"{kind.name}sum", digestProgram kind.name)

def launchers : List (String × (Starter → Work Unit)) :=
  [("env", env), ("nice", nice), ("nohup", nohup), ("timeout", timeout), ("xargs", xargs),
    ("find", find), ("mawk", Records.awk)]

/-- Runs the program of a name, if there is one. -/
def run? (start : Starter) (name : String) (call : Call) (disk : Disk) : Option Finish :=
  if name == "dash" then some (Shell.program start call disk)
  else match utilities.lookup name, launchers.lookup name with
    | some work, _ => some (work.finish call disk)
    | none, some work => some ((work start).finish call disk)
    | none, none => none

/-- The program that the first line of a script names, and the argument that stands behind it. -/
def interpreter? (content : Content) : Option (String × List String) :=
  match Octets.ofBytes (content.toBytes.toList.take 256) with
  | '#' :: '!' :: rest =>
    let line := rest.takeWhile (· != '\n')
    let isBlank (c : Char) := c == ' ' || c == '\t'
    let words := Text.dropTrailing isBlank (line.dropWhile isBlank)
    let argument := (words.dropWhile (!isBlank ·)).dropWhile isBlank
    some (String.ofList (words.takeWhile (!isBlank ·)),
      if argument.isEmpty then [] else [String.ofList argument])
  | _ => none

/-- Starts the program at a path; programs may run others to a depth. -/
def start : Nat → Starter
  | 0 => fun _ _ _ => .error .denied
  | depth + 1 => fun path call disk =>
    match disk.follow .look (Octets.toText path) with
    | .error cause => .error cause
    | .ok (.vacant _) => .error .notFound
    | .ok (.entry location .program) =>
      match run? (start depth) (location.head?.getD "") call disk with
      | some finish => .ok finish
      | none => .error .denied
    | .ok (.entry location (.file content)) =>
      if !disk.grants .run location then .error .denied
      else match interpreter? content with
        | none => .error noProgram
        | some (name, arguments) =>
          let arguments := arguments ++ path :: call.arguments
          start depth name { call with name := name, arguments := arguments } disk
    | .ok (.entry _ _) => .error .denied

def depth : Nat := 64

/-- The file tree of a host. -/
def tree : FileTree :=
  let directories : List Location := [["usr"], ["bin", "usr"], ["sbin", "usr"], ["lib", "usr"],
    ["local", "usr"], ["bin", "local", "usr"], ["sbin", "local", "usr"], ["share", "usr"], ["dev"],
    ["etc"], ["home"], ["opt"], ["proc"], ["root"], ["run"], ["srv"], ["sys"], ["tmp"], ["var"],
    ["tmp", "var"]]
  let names := "dash" :: (utilities.map Prod.fst ++ launchers.map Prod.fst)
  ⟨directories.map (·, .directory) ++ names.map (fun name => ([name, "bin", "usr"], .program)) ++
    [(["sh", "bin", "usr"], .link "dash"), (["awk", "bin", "usr"], .link "mawk"),
      (["bin"], .link "usr/bin"), (["sbin"], .link "usr/sbin"),
      (["lib"], .link "usr/lib"), (["null", "dev"], .sink)]⟩

end JavaStubs.Host.Programs
