import SolutionSurvey.Command.Sought
import Std.Time.Format

/-!
# The command line

Reads the real files that a command line looks at into a file tree, runs the command on it, and writes
what the run printed and noted.

## Main definitions

* `takeIn` — adds what stands at a real path to a tree.
* `gather` — adds what a command line looks at to a site, until nothing new is sought.
* `main` — the program.
-/

namespace SolutionSurvey

/-- Adds what stands at a real path to a tree: a file with its bytes, and a directory, with everything
below it if `whole` is set. `above` are the directories that led here, which are not entered again. -/
partial def takeIn (whole : Bool) (above : List String) (segments : List String) (tree : FileTree) :
    IO FileTree := do
  try
    let real ← IO.FS.realPath ("/" ++ "/".intercalate segments)
    if ← real.isDir then
      let tree := tree.writeDir segments
      if !whole || above.contains real.toString then return tree
      (← real.readDir).foldlM (fun tree e =>
        takeIn whole (real.toString :: above) (segments ++ [e.fileName]) tree) tree
    else if (← real.metadata).type == .file then
      return tree.write segments (← IO.FS.readBinFile real).toList
    else
      return tree
  catch _ => return tree

/-- Adds what stands at a sought path to a site, with the directories above it. -/
def takeSought (s : Site) (p : Sought) : IO Site := do
  let segments := (s.normalize p.path).segments
  let tree ← (List.range segments.length).foldlM
    (fun tree n => takeIn false [] (segments.take n) tree) s.tree
  return { s with tree := ← takeIn p.whole [] segments tree }

/-- Adds what a command line looks at to a site, until nothing new is sought. -/
partial def gather (environment : Environment) (args : List String) (known : List Sought) (s : Site) :
    IO Site := do
  match ((s.sought environment args).filter fun p => !known.contains p).eraseDups with
  | [] => return s
  | fresh => gather environment args (known ++ fresh) (← fresh.foldlM takeSought s)

/-- The signs of bytes in UTF-8; each byte that means nothing stands for itself as a half. -/
partial def signsOf (bs : List UInt8) : List Sign :=
  match Encoding.decodeUtf8 bs with
  | .ok cs => cs.map .char
  | .error d =>
    let before := (Encoding.decodeUtf8 (bs.take d.start)).toOption.getD []
    let odd := (bs.drop d.start).take (d.stop - d.start)
    before.map .char ++ odd.map (fun b => .ofCode (0xDC00 + b.toNat)) ++ signsOf (bs.drop d.stop)

/-- The environment variables of this process whose names are texts. -/
def readEnvironment : IO Environment := do
  try
    let bytes ← IO.FS.readBinFile "/proc/self/environ"
    return (bytes.toList.splitOn 0).filterMap fun e => do
      let signs := signsOf e
      let name := signs.takeWhile (· != .char '=')
      if name.length = signs.length then none
      else return (← (Wording.ofSigns name).plain?, .ofSigns (signs.drop (name.length + 1)))
  catch _ => return []

/-- The present time. -/
def stamp : IO String := do
  let now ← Std.Time.Timestamp.now
  return (Std.Time.DateTime.ofTimestamp now Std.Time.TimeZone.ZoneRules.UTC).format
    "uuuu-MM-dd HH:mm:ss"

/-- The bytes of a file, none if it is not there. -/
def bytesAt (s : Site) (p : FilePath) : List UInt8 :=
  (s.read p).toOption.getD []

/-- Adds the notes of a run to a real file. -/
def appendNotes (before after : Site) (p : FilePath) : IO Unit := do
  let whole := before.normalize p
  IO.FS.createDirAll whole.parent.toText
  let fresh := (bytesAt after whole).drop (bytesAt before whole).length
  let h ← IO.FS.Handle.mk whole.toText .append
  h.write ⟨fresh.toArray⟩

end SolutionSurvey

open SolutionSurvey in
/-- Runs the program on the words of its command line. -/
def main (args : List String) : IO UInt32 := do
  let here := FilePath.ofText (← IO.currentDir).toString
  let home := FilePath.ofText ((← IO.getEnv "HOME").getD "/")
  let environment ← readEnvironment
  let site ← gather environment args [] (← takeSought { tree := .dir [], here, home } (.alone here))
  let ending := runCommand (← stamp) environment site args
  let files := (ending.journal.handlers.filterMap fun h => h.destination.file?.bind WordedPath.plain?).eraseDups
  files.forM (appendNotes site ending.outlets.site)
  IO.print ending.outlets.out
  IO.eprint ending.outlets.err
  if let some f := ending.crash then IO.eprintln f.message
  return ending.code.toUInt32
