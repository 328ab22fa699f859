import SolutionSurvey.Command.Misuse
import SolutionSurvey.Files.Tree
import SolutionSurvey.Number.Whole
import SolutionSurvey.Text.Similar

/-!
# Reading the command line

Options and arguments are first told apart, then the values of the options are looked at in the order in
which the options were written, and the arguments last.

## Main definitions

* `Words` — the options found and the arguments left; `Words.read` tells them apart.
* `Job`, `CommandLine` — what is asked for.
* `CommandLine.read` — what a command line asks for, or how it is misused.
-/

namespace SolutionSurvey

/-! ## Options and arguments -/

/-- What a single word is. -/
inductive WordKind where
  /-- Two dashes, after which everything is an argument. -/
  | separator
  | argument
  /-- Options that need no further word. -/
  | options (found : List (OptionName × Option String))
  /-- An option whose value is the next word. -/
  | wanting (option : OptionName) (spelling : String)
  | misused (m : Misuse)
  deriving Repr, DecidableEq, Inhabited

/-- The options found, in order and with their values, and the arguments. -/
structure Words where
  options : List (OptionName × Option String) := []
  arguments : List String := []
  deriving Repr, DecidableEq, Inhabited

namespace Words

/-- The option of a spelling. -/
def spelled? (specs : List OptionSpec) (spelling : String) : Option OptionSpec :=
  specs.find? fun o => o.spellings.contains spelling

/-- Whether a spelling has two dashes. -/
def isLong (spelling : String) : Bool :=
  spelling.startsWith "--"

/-- All spellings with two dashes. -/
def longSpellings (specs : List OptionSpec) : List String :=
  (specs.flatMap OptionSpec.spellings).filter isLong

/-- A word cut at its first equals sign. -/
def splitEquals (word : String) : String × Option String :=
  let cs := word.toList
  let lead := cs.takeWhile (· != '=')
  match cs.drop lead.length with
  | [] => (word, none)
  | _ :: value => (String.ofList lead, some (String.ofList value))

/-- Options of one letter each. -/
def letters (specs : List OptionSpec) : List Char → Except Misuse (List (OptionName × Option String))
  | [] => .ok []
  | c :: rest =>
    let spelling := String.ofList ['-', c]
    match spelled? specs spelling with
    | some o => (letters specs rest).map ((o.name, none) :: ·)
    | none => .error (.unknownOption spelling [])

/-- What a word is. -/
def kindOf (specs : List OptionSpec) (word : String) : WordKind :=
  if word == "--" then .separator
  else if !word.startsWith "-" || word == "-" then .argument
  else
    let (spelling, value) := splitEquals word
    match (spelled? specs spelling).filter fun _ => isLong spelling with
    | some o =>
      match o.value, value with
      | some _, some v => .options [(o.name, some v)]
      | some _, none => .wanting o.name spelling
      | none, some _ => .misused (.valueRefused spelling)
      | none, none => .options [(o.name, none)]
    | none =>
      if isLong word then
        .misused (.unknownOption spelling (Text.similar spelling (longSpellings specs)))
      else
        match letters specs (word.toList.drop 1) with
        | .ok found => .options found
        | .error m => .misused m

/-- Tells options and arguments apart. Where options may not follow arguments, the first argument ends
the options. -/
def read (specs : List OptionSpec) (mixed : Bool) : List String → Except Misuse Words
  | [] => .ok {}
  | word :: rest =>
    match kindOf specs word with
    | .separator => .ok { arguments := rest }
    | .argument =>
      if mixed then (read specs mixed rest).map fun w => { w with arguments := word :: w.arguments }
      else .ok { arguments := word :: rest }
    | .options found => (read specs mixed rest).map fun w => { w with options := found ++ w.options }
    | .wanting o spelling =>
      match rest with
      | [] => .error (.valueMissing spelling)
      | value :: more =>
        (read specs mixed more).map fun w => { w with options := (o, some value) :: w.options }
    | .misused m => .error m

/-- Whether an option was found. -/
def has (w : Words) (o : OptionName) : Bool :=
  w.options.any fun f => f.1 == o

/-- The values of an option, in order. -/
def values (w : Words) (o : OptionName) : List String :=
  w.options.filterMap fun f => if f.1 == o then f.2 else none

/-- The value of an option that counts: the last one. -/
def value? (w : Words) (o : OptionName) : Option String :=
  (w.values o).getLast?

/-- The first option that asks for a text to be shown and nothing else. -/
def shows? (w : Words) : Option OptionName :=
  (w.options.map Prod.fst).find? fun o => o == .help || o == .version

end Words

/-! ## What is asked for -/

/-- What is asked for of the whole program. -/
structure General where
  verbose : Bool := false
  config : Option FilePath := none
  deriving Repr, DecidableEq, Inhabited

/-- What is asked for of a command. -/
inductive Job where
  | packages (path : FilePath) (json : Bool)
  | order (path : FilePath)
  | methods (path : FilePath) (projects : List String) (limit : Option Int)
  deriving Repr, DecidableEq, Inhabited

/-- What a command line asks for. -/
inductive CommandLine where
  /-- A text that was asked for. -/
  | show_ (text : String)
  /-- The help, for a command line without a word. -/
  | remind (text : String)
  | work (general : General) (job : Job)
  deriving Repr, DecidableEq, Inhabited

namespace CommandLine

/-- A misuse of what a synopsis tells of. -/
abbrev Outcome (α : Type) := Except (Synopsis × Misuse) α

/-- The text that an option asks for. -/
def shownText (s : Synopsis) (o : OptionName) : String :=
  if o == .version then programName ++ ", version " ++ programVersion ++ "\n" else s.help

/-- The file for settings, which may be missing, but not be a directory. -/
def config (site : Site) (w : Words) : Except Misuse (Option FilePath) :=
  match w.value? .config with
  | none => .ok none
  | some text =>
    if FilePath.holdsNull text then .error .nullInPath
    else
      match site.lookUp text with
      | .ok (.dir _) => .error (.directoryGiven "--config" text)
      | _ => .ok (some (.ofText text))

/-- The greatest number of declarations. -/
def limit (w : Words) : Except Misuse (Option Int) :=
  match w.value? .limit with
  | none => .ok none
  | some text =>
    match Whole.read 10 text.toList with
    | .ok n => .ok (some n)
    | .error _ => .error (.notInteger "--limit" text)

/-- The path among the arguments, or the current directory. -/
def path (site : Site) (w : Words) : Except Misuse FilePath :=
  let text := w.arguments.headD "."
  if FilePath.holdsNull text then .error .nullInPath
  else
    match site.lookUp text with
    | .ok _ => .ok (.ofText text)
    | .error _ => .error (.nowhere "[PATH]" text)

/-- The job of a command. -/
def job (site : Site) (c : CommandName) (w : Words) : Except Misuse Job := do
  let limit ← limit w
  let path ← path site w
  match w.arguments.drop 1 with
  | [] => pure ()
  | extra => throw (.extraArguments extra)
  match c with
  | .packages => pure (.packages path (w.has .json))
  | .order => pure (.order path)
  | .methods => pure (.methods path (w.values .project) limit)

/-- What the words after a command ask for. -/
def ofCommand (site : Site) (general : General) (c : CommandName) (args : List String) :
    Outcome CommandLine := do
  let fail := fun m => (c.synopsis, m)
  let w ← (Words.read c.options true args).mapError fail
  match w.shows? with
  | some o => pure (.show_ (shownText c.synopsis o))
  | none => pure (.work general (← (job site c w).mapError fail))

/-- What the words before a command ask for: a text, or the settings of the program with the words that
are left. -/
def ofLead (site : Site) (args : List String) : Outcome (String ⊕ General × List String) := do
  let fail := fun m => (program, m)
  let w ← (Words.read program.options false args).mapError fail
  match w.shows? with
  | some o => pure (.inl (shownText program o))
  | none => pure (.inr (⟨w.has .verbose, ← (config site w).mapError fail⟩, w.arguments))

/-- What a command line asks for. A word that is no command and looks like an option is read as
one before it is refused. -/
def read (site : Site) (args : List String) : Outcome CommandLine := do
  if args.isEmpty then pure (.remind program.help)
  else
    match ← ofLead site args with
    | .inl text => pure (.show_ text)
    | .inr (_, []) => throw (program, .commandMissing)
    | .inr (general, name :: rest) =>
      match CommandName.ofText? name with
      | some c => ofCommand site general c rest
      | none =>
        let refused := (program, Misuse.unknownCommand name
          (Text.similar name (CommandName.all.map CommandName.toText)))
        if name.startsWith "-" then
          match ← ofLead site (name :: rest) with
          | .inl text => pure (.show_ text)
          | .inr _ => throw refused
        else throw refused

end CommandLine

end SolutionSurvey
