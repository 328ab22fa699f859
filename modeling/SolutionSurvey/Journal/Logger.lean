import SolutionSurvey.Journal.Journal

/-!
# Loggers

A logger takes notes for whoever calls one of its methods. A call names its details; names that the
method has given a meaning already are refused. A method below the level of the journal takes no note.

## Main definitions

* `LogMethod` — the methods, with `LogMethod.ofName?`.
* `LogCall` — a call of a method by its name.
* `Journal.noteOf` — the note that a call takes, if it takes one.
* `Journal.call` — a call with all that it writes.
-/

namespace SolutionSurvey

/-- What calling a logger does. -/
inductive LogMethod where
  /-- Takes a note of a level. -/
  | level (l : Level)
  /-- Takes a note of an error and marks it as one of an exception. -/
  | exception
  /-- Takes a note of a level that is given by its number. -/
  | ranked
  deriving Repr, DecidableEq, Inhabited

/-- Other names of levels, for loggers only. -/
def LogMethod.aliases : List (String × LogMethod) :=
  [("warn", .level .warning), ("fatal", .level .critical), ("msg", .level .info),
    ("exception", .exception), ("log", .ranked)]

/-- The method of a name. -/
def LogMethod.ofName? (name : String) : Option LogMethod :=
  (Level.all.map fun l => (l.name, LogMethod.level l)).lookup name <|> aliases.lookup name

/-- A call of a method: who calls, what happened, and the details in order. -/
structure LogCall where
  method : String
  logger : Value
  event : Value
  fields : List (String × Value)
  deriving Repr, Inhabited

namespace LogCall

/-- Refuses details with the names of arguments that the callee has already. -/
def accept (callee : String) (taken : List String) (fields : List (String × Value)) :
    Except Failure Unit :=
  match fields.find? fun f => taken.contains f.1 with
  | some f => .error (.type (.givenTwice callee f.1))
  | none => .ok ()

/-- The names by which messages call the methods: one that takes notes, one below the level of the journal,
the one for exceptions, the one for ranks, and the part that all of them share. -/
def taking : String := "_make_filtering_bound_logger.<locals>.make_method.<locals>.meth"

@[inherit_doc taking]
def ignoring : String := "_nop"

@[inherit_doc taking]
def exceptional : String := "exception"

@[inherit_doc taking]
def ranking : String := "_make_filtering_bound_logger.<locals>.log"

@[inherit_doc taking]
def shared : String := "BoundLoggerBase._proxy_to_logger"

end LogCall

namespace Journal

/-- The number below which a logger takes no notes. Before the journal is set up it takes all. -/
def leastRank (j : Journal) : Nat :=
  (j.level.map Level.number).getD 0

/-- The note of a level, with the name of the method left for the part that all methods share. -/
def takeNote (c : LogCall) (l : Level) (event : Value) (fields : List (String × Value)) :
    Except Failure (Option Note) := do
  LogCall.accept LogCall.shared ["method_name"] fields
  pure (some (.make c.logger l event fields))

/-- The note of a method for one level. -/
def noteAt (j : Journal) (c : LogCall) (l : Level) (fields : List (String × Value)) :
    Except Failure (Option Note) := do
  if l.number < j.leastRank then
    LogCall.accept LogCall.ignoring ["self", "event"] fields
    pure none
  else
    LogCall.accept LogCall.taking ["self", "event"] fields
    takeNote c l c.event fields

/-- The note of the method that is given a rank first and then what happened. -/
def noteRanked (j : Journal) (c : LogCall) : Except Failure (Option Note) := do
  LogCall.accept LogCall.ranking ["self", "level"] c.fields
  match c.fields.lookup "event" with
  | none => .error (.type (.notGiven LogCall.ranking "event"))
  | some event =>
    match c.event.keyNumber? with
    | none => .error (.type (.unordered c.event.typeName "int"))
    | some (.double _) => .error (.unknownKey c.event)
    | some (.whole rank) =>
      if rank < Int.ofNat j.leastRank then pure none
      else
        match Level.ofNumber? rank.toNat with
        | some l => takeNote c l event (c.fields.filter fun f => f.1 != "event")
        | none => .error (if rank = 0 then .attributeMissing else .unknownKey c.event)

/-- The note that a call takes. -/
def noteOf (j : Journal) (c : LogCall) : Except Failure (Option Note) :=
  match LogMethod.ofName? c.method with
  | none => .error .attributeMissing
  | some (.level l) => j.noteAt c l c.fields
  | some .ranked => j.noteRanked c
  | some .exception => do
    LogCall.accept LogCall.exceptional ["self", "event"] c.fields
    let marked := (c.fields.lookup "exc_info").isSome
    j.noteAt c .error (if marked then c.fields else c.fields ++ [("exc_info", .bool true)])

/-- A call with all that it writes. -/
def call (j : Journal) (stamp : String) (c : LogCall) (o : Outlets) : Except Failure Outlets := do
  match ← j.noteOf c with
  | none => pure o
  | some n => j.write stamp n o

end Journal

end SolutionSurvey
