import SolutionSurvey.Failure
import SolutionSurvey.Files.WordedPath
import SolutionSurvey.Text.Encoding

/-!
# File trees

A tree of directories and files as a value. Look-up follows names from the root; two points lead back to
the directory above, and a single one stays.

## Main definitions

* `FileTree` — a file with its bytes, or a directory with its entries.
* `FileTree.descend` — the way along some segments.
* `FileTree.find` — what a path leads to.
* `FileTree.write`, `FileTree.remove`, `FileTree.makeDirs`, `FileTree.append` — changes.
* `Site` — a tree with a current directory and home directories.
* `Site.expandHome` — a path with a home directory in place of a tilde.
-/

namespace SolutionSurvey

/-- A file or a directory. -/
inductive FileTree where
  | file (content : List UInt8)
  | dir (entries : List (String × FileTree))
  deriving Repr, Inhabited

namespace FileTree

/-- The entry of a directory with a name. -/
def named? (name : String) : FileTree → Option FileTree
  | .file _ => none
  | .dir entries => entries.lookup name

/-- The entries of a directory. -/
def entries : FileTree → List (String × FileTree)
  | .file _ => []
  | .dir es => es

/-- Whether this is a directory. -/
def isDir : FileTree → Bool
  | .file _ => false
  | .dir _ => true

/-- Whether this is a file. -/
def isFile (t : FileTree) : Bool :=
  !t.isDir

/-! ## Look-up -/

/-- Follows segments from the end of a trail, whose steps are listed last first. -/
def descend (root : FileTree) (trail : List (String × FileTree)) :
    List String → Except FileFaultKind (List (String × FileTree))
  | [] => .ok trail
  | s :: rest =>
    match trail.head?.map Prod.snd |>.getD root with
    | .file _ => .error .notDirectory
    | .dir es =>
      if s = ".." then descend root trail.tail rest
      else if s = "." then descend root trail rest
      else
        match es.lookup s with
        | none => .error .notFound
        | some t => descend root ((s, t) :: trail) rest

/-- What segments lead to. -/
def find (root : FileTree) (segments : List String) : Except FileFaultKind FileTree :=
  (descend root [] segments).map fun trail => trail.head?.map Prod.snd |>.getD root

/-- The segments of the place that segments lead to, without double points. -/
def place (root : FileTree) (segments : List String) : Except FileFaultKind (List String) :=
  (descend root [] segments).map fun trail => (trail.map Prod.fst).reverse

/-! ## Changes -/

/-- The entries of a directory with one entry changed; a new entry comes last, and nothing in its place
removes it. -/
def setEntry (name : String) (new : Option FileTree) :
    List (String × FileTree) → List (String × FileTree)
  | [] => match new with
    | none => []
    | some t => [(name, t)]
  | (n, t) :: rest =>
    if n = name then
      match new with
      | none => rest
      | some t => (name, t) :: rest
    else (n, t) :: setEntry name new rest

/-- The tree with the place at the given plain segments changed; missing directories are made. -/
def update (new : Option FileTree) : List String → FileTree → FileTree
  | [], t => new.getD t
  | [name], t => .dir (setEntry name new t.entries)
  | name :: rest, t =>
    .dir (setEntry name (some (update new rest ((t.named? name).getD (.dir [])))) t.entries)

/-- The tree with a file at the given plain segments. -/
def write (segments : List String) (content : List UInt8) (t : FileTree) : FileTree :=
  update (some (.file content)) segments t

/-- The tree with an empty directory at the given plain segments, unless there is one. -/
def writeDir (segments : List String) (t : FileTree) : FileTree :=
  match find t segments with
  | .ok (.dir _) => t
  | _ => update (some (.dir [])) segments t

/-- The tree without what stands at the given plain segments. -/
def remove (segments : List String) (t : FileTree) : FileTree :=
  update none segments t

/-- The tree with one more directory, in a directory that is there. -/
def makeDir (segments : List String) (t : FileTree) : Except FileFaultKind FileTree :=
  match segments.getLast? with
  | none => .error .exists
  | some name =>
    match find t segments.dropLast, place t segments.dropLast with
    | .ok (.dir es), .ok above =>
      if name = ".." ∨ (es.lookup name).isSome then .error .exists
      else .ok (update (some (.dir [])) (above ++ [name]) t)
    | .ok (.file _), _ => .error .notDirectory
    | .error e, _ => .error e
    | _, .error e => .error e

/-- Whether segments lead to a directory. -/
def hasDir (segments : List String) (t : FileTree) : Bool :=
  match find t segments with
  | .ok (.dir _) => true
  | _ => false

/-- Why a directory cannot be made: the fault with the segments that it is about, and the tree with what was
made before. -/
structure Unmade where
  fault : FileFaultKind
  segments : List Wording
  tree : FileTree
  deriving Repr, Inhabited

/-- The tree with the directory that the first `count` segments lead to, and with those above it. -/
def makeDirs (segments : List Wording) : Nat → FileTree → Except Unmade FileTree
  | 0, t => .ok t
  | count + 1, t =>
    let these := segments.take (count + 1)
    let names := these.map Wording.fileName
    let settle (t : FileTree) (fault : FileFaultKind) : Except Unmade FileTree :=
      if hasDir names t then .ok t else .error ⟨fault, these, t⟩
    match makeDir names t with
    | .ok t => .ok t
    | .error .notFound =>
      match makeDirs segments count t with
      | .error e => .error e
      | .ok t =>
        match makeDir names t with
        | .ok t => .ok t
        | .error fault => settle t fault
    | .error fault => settle t fault

/-- The tree with bytes added at the end of a file, which is made if need be. -/
def append (segments : List String) (content : List UInt8) (t : FileTree) :
    Except FileFaultKind FileTree :=
  match find t segments with
  | .ok (.dir _) => .error .isDirectory
  | .ok (.file old) =>
    match place t segments with
    | .ok plain => .ok (write plain (old ++ content) t)
    | .error e => .error e
  | .error .notFound =>
    match find t segments.dropLast, place t segments.dropLast, segments.getLast? with
    | .ok (.dir _), .ok above, some name => .ok (write (above ++ [name]) content t)
    | .ok (.file _), _, _ => .error .notDirectory
    | _, _, _ => .error .notFound
  | .error e => .error e

end FileTree

/-! ## A place to work in -/

/-- A file tree with the directory that relative paths start from, the home directory, those of other users,
and the way in which bytes are read as text in an encoding that is asked for. Names in the tree have any
length and are written in UTF-8, other than those that the settings make there. -/
structure Site where
  tree : FileTree
  here : FilePath
  home : FilePath
  users : List (String × FilePath) := []
  decode : String → List UInt8 → Except Failure Wording := decodeText
  deriving Inhabited

namespace Site

/-- The segments from the root that a path stands for. -/
def segments (s : Site) (p : FilePath) : List String :=
  (s.here.join p).segments

/-- What a path leads to. -/
def find (s : Site) (p : FilePath) : Except FileFaultKind FileTree :=
  s.tree.find (s.segments p)

/-- Whether a path leads anywhere. -/
def pathExists (s : Site) (p : FilePath) : Bool :=
  (s.find p).toOption.isSome

/-- What a text leads to when every part of it counts: an empty part or a single point needs a directory
to stay in, and an empty text leads nowhere. -/
def lookUp (s : Site) (text : String) : Except FileFaultKind FileTree :=
  let parts := (splitText '/' text).map fun p => if p = "" then "." else p
  if text = "" then .error .notFound
  else if text.startsWith "/" then s.tree.find parts
  else s.tree.find (s.segments ⟨0, []⟩ ++ parts)

/-- Whether a path leads to a file. -/
def isFile (s : Site) (p : FilePath) : Bool :=
  match s.find p with
  | .ok (.file _) => true
  | _ => false

/-- Whether a path leads to a directory. -/
def isDir (s : Site) (p : FilePath) : Bool :=
  match s.find p with
  | .ok (.dir _) => true
  | _ => false

/-- The bytes of the file at a path. -/
def read (s : Site) (p : FilePath) : Except Failure (List UInt8) :=
  if FilePath.holdsNull p.toText then .error (.value .nullInPath)
  else
  match s.find p with
  | .ok (.file content) => .ok content
  | .ok (.dir _) => .error (.file ⟨.isDirectory, p.toText⟩)
  | .error e => .error (.file ⟨e, p.toText⟩)

/-- The normal form of a path, from the root. -/
def normalize (s : Site) (p : FilePath) : FilePath :=
  FilePath.normalize s.here p

/-- The home directory of a user, which is read from its text; that of whoever works here if no user is
named. A name that cannot be looked up is a fault of its own. -/
def homeOf (s : Site) (user : Wording) : Except Failure WordedPath :=
  match user.nameFault? with
  | some e => .error (.unencodable e)
  | none =>
    if user.signs.contains (.char (Char.ofNat 0)) then .error (.value .nullInPath)
    else
      match user.plain?.bind fun name => if name = "" then some s.home else s.users.lookup name with
      | none => .error .homeUnknown
      | some home =>
        if home.toText.startsWith "~" then .error .homeUnknown else .ok (.ofWording home.toText)

/-- A path with a tilde at its start, and perhaps the name of a user, replaced by the home directory. -/
def expandHome (s : Site) (p : WordedPath) : Except Failure WordedPath :=
  match p.slashes, p.segments with
  | 0, first :: rest =>
    match first.signs with
    | .char '~' :: user =>
      (s.homeOf (.ofSigns user)).map fun home => { home with segments := home.segments ++ rest }
    | _ => .ok p
  | _, _ => .ok p

end Site

end SolutionSurvey
