import SolutionSurvey.Report

/-!
# Failures

Everything that can end an operation early: the library's own reports, faults of the file tree, bytes
that do not decode, texts that cannot be written, values that fail validation, and the few faults of
numbers and types that are let through to the caller.

## Main definitions

* `FileFault`, `DecodeFault`, `EncodeFault`, `Violation`, `ValueFault`, `TypeFault` — causes, by area.
* `Wording.written`, `Wording.nameFault?` — the text that can be written, and why a text is no name.
* `Failure` — their sum.
* `Failure.kind` — the name of the cause as logs write it.
* `Failure.message` — the sentence for the cause.
-/

namespace SolutionSurvey

/-! ## Faults of the file tree -/

/-- What can go wrong when a path is used. Names may have any length, so none is too long. -/
inductive FileFaultKind where
  | notFound
  | exists
  | notDirectory
  | isDirectory
  deriving Repr, DecidableEq, Inhabited

/-- A fault of the file tree, with the path as it was given. -/
structure FileFault where
  fault : FileFaultKind
  path : Wording
  deriving Repr, DecidableEq, Inhabited

namespace FileFaultKind

/-- The number of a fault. -/
def number : FileFaultKind → Nat
  | .notFound => 2
  | .exists => 17
  | .notDirectory => 20
  | .isDirectory => 21

/-- The text of a fault. -/
def text : FileFaultKind → String
  | .notFound => "No such file or directory"
  | .exists => "File exists"
  | .notDirectory => "Not a directory"
  | .isDirectory => "Is a directory"

/-- The name of a fault as logs write it. -/
def kind : FileFaultKind → String
  | .notFound => "FileNotFoundError"
  | .exists => "FileExistsError"
  | .notDirectory => "NotADirectoryError"
  | .isDirectory => "IsADirectoryError"

end FileFaultKind

/-- The sentence for a fault of the file tree. -/
def FileFault.message (f : FileFault) : String :=
  "[Errno " ++ toString f.fault.number ++ "] " ++ f.fault.text ++ ": " ++ f.path.quoted

/-! ## Bytes that do not decode -/

/-- The bytes from `start` up to `stop` that an encoding cannot read. -/
structure DecodeFault where
  encoding : String
  first : UInt8
  start : Nat
  stop : Nat
  reason : String
  deriving Repr, DecidableEq, Inhabited

/-- The sentence for bytes that do not decode; a run of several bytes is given by its two ends. -/
def DecodeFault.message (d : DecodeFault) : String :=
  "'" ++ d.encoding ++ "' codec can't decode " ++
    (if d.stop = d.start + 1 then
      "byte 0x" ++ Text.hex 2 d.first.toNat ++ " in position " ++ toString d.start
    else "bytes in position " ++ toString d.start ++ "-" ++ toString (d.stop - 1)) ++
    ": " ++ d.reason

/-! ## Texts that cannot be written -/

/-- The signs from `start` up to `stop` that an encoding cannot write, by the number of the first one. -/
structure EncodeFault where
  encoding : String
  first : Nat
  start : Nat
  stop : Nat
  reason : String
  deriving Repr, DecidableEq, Inhabited

/-- The sentence for signs that cannot be written; a run of several ones is given by its two ends. -/
def EncodeFault.message (e : EncodeFault) : String :=
  "'" ++ e.encoding ++ "' codec can't encode " ++
    (if e.stop = e.start + 1 then
      "character '" ++ Text.hexEscape e.first ++ "' in position " ++ toString e.start
    else "characters in position " ++ toString e.start ++ "-" ++ toString (e.stop - 1)) ++
    ": " ++ e.reason

/-- The characters of a text that can be written in UTF-8. -/
def Wording.written : Wording → Except EncodeFault String
  | .plain s => .ok s
  | .broken head half rest =>
    .error ⟨"utf-8", half.code, head.length, head.length + 1 + rest.leadingHalves, "surrogates not allowed"⟩

/-- Why a text cannot be written in UTF-8, if it has halves. -/
def Wording.fault? (w : Wording) : Option EncodeFault :=
  match w.written with
  | .ok _ => none
  | .error e => some e

/-- Why a text of some signs cannot be looked up as a name, where halves may stand for bytes; positions
count from `i`. -/
def nameFaultFrom (i : Nat) : List Sign → Option EncodeFault
  | [] => none
  | .char _ :: rest => nameFaultFrom (i + 1) rest
  | .half h :: rest =>
    if h.isByte then nameFaultFrom (i + 1) rest
    else some ⟨"utf-8", h.code, i, i + 1 + (rest.takeWhile fun s => s.char?.isNone).length,
      "surrogates not allowed"⟩

/-- Why a text cannot be looked up as a name. -/
def Wording.nameFault? (w : Wording) : Option EncodeFault :=
  nameFaultFrom 0 w.signs

/-! ## Values that fail validation -/

/-- A step on the way to a setting: the name of a field or the place in a list. -/
inductive Step where
  | field (name : String)
  | index (i : Nat)
  deriving Repr, DecidableEq, Inhabited

/-- The text of a step. -/
def Step.toText : Step → String
  | .field name => name
  | .index i => toString i

/-- One complaint of a validation: where, of which sort, in which words, and about which value. -/
structure Violation where
  loc : List Step
  sort : String
  message : String
  input : Value
  deriving Repr, Inhabited

/-- The same complaint about a part of a greater whole. -/
def Violation.inside (step : Step) (v : Violation) : Violation :=
  { v with loc := step :: v.loc }

/-! ## Faults of numbers and types -/

/-- A value of the right type that cannot be used. -/
inductive ValueFault where
  /-- A run of digits that is too long to be read as a number. -/
  | tooManyDigits (count : Nat)
  /-- A number that has too many digits to be written. -/
  | unwritable
  /-- A version component outside its range. -/
  | componentOutOfRange (name : String) (value : Int)
  /-- A version with a revision and no build. -/
  | revisionWithoutBuild
  /-- A text that should be a whole number in the given base. -/
  | notWhole (literal : Wording) (base : Nat)
  /-- A text that should be a decimal number. -/
  | notDecimal (literal : Wording)
  /-- A part of a date or time outside its range. -/
  | outOfCalendar (sentence : String)
  /-- An attribute whose reading fails. -/
  | unreadable
  /-- A path with a null character. -/
  | nullInPath
  /-- The name of an encoding with a null character. -/
  | nullInName
  /-- An encoding with several bytes for one character where one byte is needed. -/
  | multiByte
  /-- A code that no character has. -/
  | noCodePoint
  deriving Repr, DecidableEq, Inhabited

/-- The sentence for a value that cannot be used. -/
def ValueFault.message : ValueFault → String
  | .tooManyDigits count =>
    "Exceeds the limit (" ++ toString digitLimit ++ " digits) for integer string conversion: value has " ++
      toString count ++ " digits; use sys.set_int_max_str_digits() to increase the limit"
  | .unwritable =>
    "Exceeds the limit (" ++ toString digitLimit ++
      " digits) for integer string conversion; use sys.set_int_max_str_digits() to increase the limit"
  | .componentOutOfRange name value =>
    "Version component '" ++ name ++ "' out of range: " ++ toString value
  | .revisionWithoutBuild => "revision requires a build component"
  | .notWhole literal base =>
    "invalid literal for int() with base " ++ toString base ++ ": " ++ literal.quoted
  | .notDecimal literal => "could not convert string to float: " ++ literal.quoted
  | .outOfCalendar sentence => sentence
  | .unreadable => "unreadable"
  | .nullInPath => "embedded null byte"
  | .nullInName => "embedded null character"
  | .multiByte => "multi-byte encodings are not supported"
  | .noCodePoint => "chr() arg not in range(0x110000)"

/-- A value of the wrong type. -/
inductive TypeFault where
  /-- A setting whose name is not a text. -/
  | keywordNotText
  /-- An item that should be joined to a text and is not one. -/
  | notText (place : Nat) (typeName : String)
  /-- Two values without an order. -/
  | unordered (left right : String)
  /-- A value that should be walked and cannot be. -/
  | notIterable (typeName : String)
  /-- A value that cannot be looked up. -/
  | unhashable (typeName : String)
  /-- A value that is no text where a text is to be matched. -/
  | notMatched
  /-- A value that is no text where a text is to be continued. -/
  | notJoined (typeName : String)
  /-- An argument that is given both by its place and by its name. -/
  | givenTwice (callee argument : String)
  /-- An argument that is not given. -/
  | notGiven (callee argument : String)
  /-- A rank that is no whole number. -/
  | rankNotWhole
  deriving Repr, DecidableEq, Inhabited

/-- The sentence for a value of the wrong type. -/
def TypeFault.message : TypeFault → String
  | .keywordNotText => "keywords must be strings"
  | .notText place typeName =>
    "sequence item " ++ toString place ++ ": expected str instance, " ++ typeName ++ " found"
  | .unordered left right =>
    "'<' not supported between instances of '" ++ left ++ "' and '" ++ right ++ "'"
  | .notIterable typeName => "'" ++ typeName ++ "' object is not iterable"
  | .unhashable typeName => "unhashable type: '" ++ typeName ++ "'"
  | .notMatched => "expected string or bytes-like object, got 'list'"
  | .notJoined typeName => "can only concatenate str (not \"" ++ typeName ++ "\") to str"
  | .givenTwice callee argument =>
    callee ++ "() got multiple values for argument '" ++ argument ++ "'"
  | .notGiven callee argument =>
    callee ++ "() missing 1 required positional argument: '" ++ argument ++ "'"
  | .rankNotWhole => "level must be an integer"

/-- The values that walking a value gives: items, single characters or keys. -/
def Value.elements : Value → Except TypeFault (List Value)
  | .list items => .ok items
  | .set items => .ok items
  | .pair a b => .ok [a, b]
  | .text s => .ok (s.toList.map fun c => .text (.singleton c))
  | .broken head half rest =>
    .ok ((Wording.broken head half rest).signs.map fun sign => .ofWording (.ofSigns [sign]))
  | .bytes bs => .ok (bs.map fun b => .int (Int.ofNat b.toNat))
  | .map entries => .ok (entries.map Prod.fst)
  | v => .error (.notIterable v.typeName)

/-! ## The sum -/

/-- Everything that can end an operation early. -/
inductive Failure where
  | report (r : Report)
  | file (f : FileFault)
  | undecodable (d : DecodeFault)
  | unencodable (e : EncodeFault)
  /-- A sixteen-bit text that ends or starts wrongly. -/
  | malformedText (message : String)
  | unknownEncoding (name : String)
  /-- The name of a transformation that gives no text from bytes, and what else to do with it. -/
  | notTextEncoding (name otherUse : String)
  | invalid (violations : List Violation)
  /-- An environment variable that should hold a structured value and does not. -/
  | unreadableVariable (section_ : String)
  | homeUnknown
  | attributeMissing
  /-- A value that is none of those that may stand there. -/
  | unknownKey (key : Value)
  /-- A number without any character. -/
  | emptyNumber
  /-- A number that is too large for a machine word. -/
  | tooLarge
  /-- A whole number that is too large for a decimal number. -/
  | tooLargeForDouble
  /-- A nesting that has no end. Every other nesting can be followed, however deep it is. -/
  | endless
  | value (v : ValueFault)
  | type (t : TypeFault)
  /-- A command that cannot go on, with the sentence for its user. -/
  | command (message : String)
  deriving Repr, Inhabited

namespace Failure

/-- The name of the cause as logs write it. -/
def kind : Failure → String
  | .report r => r.kind
  | .file f => f.fault.kind
  | .undecodable _ => "UnicodeDecodeError"
  | .unencodable _ => "UnicodeEncodeError"
  | .malformedText _ => "UnicodeError"
  | .unknownEncoding _ => "LookupError"
  | .notTextEncoding .. => "LookupError"
  | .invalid _ => "ValidationError"
  | .unreadableVariable _ => "SettingsError"
  | .homeUnknown => "RuntimeError"
  | .attributeMissing => "AttributeError"
  | .unknownKey _ => "KeyError"
  | .emptyNumber => "IndexError"
  | .tooLarge | .tooLargeForDouble => "OverflowError"
  | .endless => "RecursionError"
  | .value _ => "ValueError"
  | .type _ => "TypeError"
  | .command _ => "ClickException"

/-- The sentence for the cause. -/
def message : Failure → String
  | .report r => r.toText
  | .file f => f.message
  | .undecodable d => d.message
  | .unencodable e => e.message
  | .malformedText m => m
  | .unknownEncoding name => "unknown encoding: " ++ name
  | .notTextEncoding name otherUse =>
    "'" ++ name ++ "' is not a text encoding; use " ++ otherUse ++ " to handle arbitrary codecs"
  | .invalid vs => toString vs.length ++ " validation errors"
  | .unreadableVariable name =>
    "error parsing value for field \"" ++ name ++ "\" from source \"EnvSettingsSource\""
  | .homeUnknown => "Could not determine home directory."
  | .attributeMissing => "attribute missing"
  | .unknownKey key => key.literal
  | .emptyNumber => "string index out of range"
  | .tooLarge => "Python int too large to convert to C int"
  | .tooLargeForDouble => "int too large to convert to float"
  | .endless => "maximum recursion depth exceeded"
  | .value v => v.message
  | .type t => t.message
  | .command m => m

/-- Whether a failure is about a value, so that a check of this value takes it for a complaint. -/
def isValueFault : Failure → Bool
  | .value _ | .unencodable _ => true
  | _ => false

/-- The failure for a required argument that is missing. -/
def missing (name : String) : Failure :=
  .report (.missingArgument (.text name))

end Failure

end SolutionSurvey
