import SolutionSurvey.Text.Blank

/-!
# Texts with halves

A text is made of characters, but an escape or an encoding may also write one half of a surrogate pair by
itself. A half is no character: it can be kept, compared and taken apart with the rest of a text, but such a
text cannot be written in UTF-8.

## Main definitions

* `Half`, `Sign` — halves, and what texts are made of.
* `Wording` — the texts, as runs of characters with halves between them.
* `Wording.signs`, `Wording.ofSigns` — a text sign by sign.
* `Wording.plain?` — a text without halves.
* `Wording.mapRuns` — a text changed between its halves; `Wording.trimmed` — one without blanks at its ends.
-/

namespace SolutionSurvey

/-- Half of a surrogate pair, by its place among all halves. -/
structure Half where
  place : Fin 0x800
  deriving Repr, DecidableEq, Inhabited

namespace Half

/-- The number of a half. -/
def code (h : Half) : Nat :=
  0xD800 + h.place

/-- The half with a number. -/
def ofCode? (n : Nat) : Option Half :=
  if h : 0xD800 ≤ n ∧ n < 0xE000 then some ⟨n - 0xD800, by omega⟩ else none

/-- Whether a half stands for a byte of a name that is not written in UTF-8. -/
def isByte (h : Half) : Bool :=
  0xDC80 ≤ h.code && h.code ≤ 0xDCFF

end Half

/-- What texts are made of. -/
inductive Sign where
  | char (c : Char)
  | half (h : Half)
  deriving Repr, DecidableEq, Inhabited

namespace Sign

/-- The number of a sign. -/
def code : Sign → Nat
  | .char c => c.toNat
  | .half h => h.code

/-- The sign with a number, which must be below that of the last character. -/
def ofCode (n : Nat) : Sign :=
  match Half.ofCode? n with
  | some h => .half h
  | none => .char (Char.ofNat n)

/-- The character that a sign is. -/
def char? : Sign → Option Char
  | .char c => some c
  | .half _ => none

end Sign

/-- A text: characters, and after them perhaps a half and then another text. -/
inductive Wording where
  | plain (s : String)
  | broken (head : String) (half : Half) (rest : Wording)
  deriving Repr, DecidableEq, Inhabited

namespace Wording

instance : Coe String Wording := ⟨.plain⟩

/-- The text itself if it has no halves. -/
def plain? : Wording → Option String
  | .plain s => some s
  | .broken .. => none

/-- The signs of a text. -/
def signs : Wording → List Sign
  | .plain s => s.toList.map .char
  | .broken head half rest => head.toList.map .char ++ .half half :: rest.signs

/-- The text of some signs after a run of characters, which is listed last first. -/
def ofSignsAfter (run : List Char) : List Sign → Wording
  | [] => .plain (String.ofList run.reverse)
  | .char c :: rest => ofSignsAfter (c :: run) rest
  | .half h :: rest => .broken (String.ofList run.reverse) h (ofSignsAfter [] rest)

/-- The text of some signs. -/
def ofSigns (signs : List Sign) : Wording :=
  ofSignsAfter [] signs

/-- A text with each run of characters changed. -/
def mapRuns (f : String → String) : Wording → Wording
  | .plain s => .plain (f s)
  | .broken head half rest => .broken (f head) half (rest.mapRuns f)

/-- The characters that a text starts with. -/
def firstRun : Wording → String
  | .plain s => s
  | .broken head _ _ => head

/-- A text after some more characters. -/
def prepend (s : String) : Wording → Wording
  | .plain t => .plain (s ++ t)
  | .broken head half rest => .broken (s ++ head) half rest

/-- A text after another one. -/
protected def append : Wording → Wording → Wording
  | .plain s, w => w.prepend s
  | .broken head half rest, w => .broken head half (rest.append w)

instance : Append Wording := ⟨Wording.append⟩

/-- Some texts one after the other, with a separator between them. -/
def joined (separator : String) : List Wording → Wording
  | [] => .plain ""
  | [w] => w
  | w :: rest => w ++ (joined separator rest).prepend separator

/-- A text without the blanks at its end. -/
def trimmedEnd : Wording → Wording
  | .plain s => .plain (String.ofList (Text.trimRight s.toList))
  | .broken head half rest => .broken head half rest.trimmedEnd

/-- A text without the blanks at its two ends. -/
def trimmed : Wording → Wording
  | .plain s => .plain (Text.trim s)
  | .broken head half rest => .broken (String.ofList (Text.trimLeft head.toList)) half rest.trimmedEnd

/-- A text in which something else stands for each half. -/
def spelled (spell : Half → String) : Wording → String
  | .plain s => s
  | .broken head half rest => head ++ spell half ++ rest.spelled spell

/-- The number of halves that a text starts with. -/
def leadingHalves : Wording → Nat
  | .plain _ => 0
  | .broken head _ rest => if head = "" then rest.leadingHalves + 1 else 0

theorem ofSignsAfter_append (run cs : List Char) (signs : List Sign) :
    ofSignsAfter run (cs.map .char ++ signs) = ofSignsAfter (cs.reverse ++ run) signs := by
  induction cs generalizing run with
  | nil => rfl
  | cons c cs ih =>
      rw [List.map_cons, List.cons_append, ofSignsAfter, ih, List.reverse_cons, List.append_assoc]
      rfl

/-- Characters alone make a text without halves. -/
theorem ofSigns_map_char (cs : List Char) : ofSigns (cs.map .char) = .plain (String.ofList cs) := by
  have happend := ofSignsAfter_append [] cs []
  rw [List.append_nil, List.append_nil] at happend
  rw [ofSigns, happend, ofSignsAfter, List.reverse_reverse]

theorem ofSignsAfter_signs (run : List Char) (w : Wording) :
    ofSignsAfter run w.signs = match w with
      | .plain s => .plain (String.ofList run.reverse ++ s)
      | .broken head half rest => .broken (String.ofList run.reverse ++ head) half rest := by
  have hrun (s : String) :
      String.ofList (s.toList.reverse ++ run).reverse = String.ofList run.reverse ++ s := by
    rw [List.reverse_append, List.reverse_reverse, String.ofList_append, String.ofList_toList]
  induction w generalizing run with
  | plain s =>
      have happend := ofSignsAfter_append run s.toList []
      rw [List.append_nil] at happend
      rw [signs, happend, ofSignsAfter, hrun]
  | broken head half rest ih =>
      have hrest : ofSignsAfter [] rest.signs = rest := by
        rw [ih [] fun s => by simp]
        cases rest <;> simp
      rw [signs, ofSignsAfter_append, ofSignsAfter, hrun, hrest]

/-- A text is the text of its signs. -/
@[simp] theorem ofSigns_signs (w : Wording) : ofSigns w.signs = w := by
  rw [ofSigns, ofSignsAfter_signs]
  cases w <;> simp

theorem signs_ofSignsAfter (run : List Char) (signs : List Sign) :
    (ofSignsAfter run signs).signs = run.reverse.map .char ++ signs := by
  induction signs generalizing run with
  | nil => simp [ofSignsAfter, Wording.signs]
  | cons sign rest ih =>
      cases sign with
      | char c => simp [ofSignsAfter, ih]
      | half h => simp [ofSignsAfter, Wording.signs, ih]

/-- The text of some signs has these signs. -/
@[simp] theorem signs_ofSigns (signs : List Sign) : (ofSigns signs).signs = signs := by
  rw [ofSigns, signs_ofSignsAfter]
  rfl

end Wording

end SolutionSurvey
