import SolutionSurvey.Proofs.Text.Newline
import SolutionSurvey.Solution.Listing
import Mathlib.Data.List.Basic
import Mathlib.Data.List.Infix
import Mathlib.Data.List.TakeWhile

/-!
# Reading what a solution file lists

A solution file writes each project on a line of its own, among other text. No part of an entry can end
early or late, since each of them stops at a mark that it does not hold, and no other text can be taken
for an entry, since it nowhere has the word that starts one. So the entries of a layout are read back,
each once and in order, whatever their parts hold between the marks.

## Main definitions

* `Entry.line` — an entry as it is written; `Entry.Writable` — the parts do not hold their end marks.
* `Silent` — text without the word that starts an entry.
* `Layout` — entries on lines of their own among silent text, with `Layout.text`.
* `Layout.entriesFrom_text` — reading a layout gives its entries.
-/

namespace SolutionSurvey.Listing

/-! ## Writing an entry -/

/-- The characters of a part: at least one, and none of them the end mark or a carriage return. -/
structure Fits (stop : Char) (part : String) : Prop where
  ne_empty : part ≠ ""
  stop_not_mem : stop ∉ part.toList
  return_not_mem : '\r' ∉ part.toList

instance (stop : Char) (part : String) : Decidable (Fits stop part) :=
  decidable_of_iff (part ≠ "" ∧ stop ∉ part.toList ∧ '\r' ∉ part.toList)
    ⟨fun ⟨h₁, h₂, h₃⟩ => ⟨h₁, h₂, h₃⟩, fun ⟨h₁, h₂, h₃⟩ => ⟨h₁, h₂, h₃⟩⟩

namespace Entry

/-- No part of an entry is empty or holds its own end mark or a carriage return. Line ends and the marks
of other parts may stand in it. -/
structure Writable (e : Entry) : Prop where
  kind : Fits '}' e.kind
  name : Fits '"' e.name
  path : Fits '"' e.path
  guid : Fits '}' e.guid

instance (e : Entry) : Decidable e.Writable :=
  decidable_of_iff (Fits '}' e.kind ∧ Fits '"' e.name ∧ Fits '"' e.path ∧ Fits '}' e.guid)
    ⟨fun ⟨h₁, h₂, h₃, h₄⟩ => ⟨h₁, h₂, h₃, h₄⟩, fun ⟨h₁, h₂, h₃, h₄⟩ => ⟨h₁, h₂, h₃, h₄⟩⟩

/-- An entry as solution files write it. -/
def line (e : Entry) : List Char :=
  opening ++ ['"', '{'] ++ e.kind.toList ++ ['}', '"', ')', ' ', '=', ' ', '"'] ++ e.name.toList ++
    ['"', ',', ' ', '"'] ++ e.path.toList ++ ['"', ',', ' ', '"', '{'] ++ e.guid.toList ++ ['}', '"']

end Entry

/-! ## Reading an entry -/

theorem expect_eq_some_iff {ps cs rest : List Char} : expect ps cs = some rest ↔ cs = ps ++ rest := by
  induction ps generalizing cs with
  | nil => simp [expect]
  | cons p ps ih =>
      cases cs with
      | nil => simp [expect]
      | cons c cs =>
          rw [expect, List.cons_append, List.cons.injEq]
          split
          · next h => rw [ih, h]; simp
          · next h => simp [Ne.symm h]

theorem expect_append (ps rest : List Char) : expect ps (ps ++ rest) = some rest :=
  expect_eq_some_iff.mpr rfl

/-- A part is read up to its end mark. -/
theorem upTo_append {stop : Char} {part : String} (h : Fits stop part) (rest : List Char) :
    upTo stop (part.toList ++ stop :: rest) = some (part, stop :: rest) := by
  have hrun : ∀ c ∈ part.toList, (c != stop) = true := by
    intro c hc
    rw [bne_iff_ne]
    rintro rfl
    exact h.stop_not_mem hc
  have htake : (part.toList ++ stop :: rest).takeWhile (· != stop) = part.toList := by
    rw [List.takeWhile_append_of_pos hrun, List.takeWhile_cons_of_neg (by simp), List.append_nil]
  have hdrop : (part.toList ++ stop :: rest).dropWhile (· != stop) = stop :: rest := by
    rw [List.dropWhile_append_of_pos hrun, List.dropWhile_cons_of_neg (by simp)]
  unfold upTo
  rw [htake, hdrop]
  split
  · next hnil => exact absurd (String.toList_eq_nil_iff.mp hnil) h.ne_empty
  · rw [String.ofList_toList]

theorem braced_append {part : String} (h : Fits '}' part) (rest : List Char) :
    braced (['"', '{'] ++ part.toList ++ ['}', '"'] ++ rest) = some (part, rest) := by
  have hstart := expect_append ['"', '{'] (part.toList ++ '}' :: '"' :: rest)
  have hstop := expect_append ['}', '"'] rest
  simp only [List.append_assoc, List.cons_append, List.nil_append] at hstart hstop ⊢
  simp only [braced, hstart, upTo_append h, hstop, Option.bind_eq_bind, Option.bind_some, Option.pure_def]

theorem quotedPart_append {part : String} (h : Fits '"' part) (rest : List Char) :
    quotedPart (['"'] ++ part.toList ++ ['"'] ++ rest) = some (part, rest) := by
  have hstart := expect_append ['"'] (part.toList ++ '"' :: rest)
  have hstop := expect_append ['"'] rest
  simp only [List.append_assoc, List.cons_append, List.nil_append] at hstart hstop ⊢
  simp only [quotedPart, hstart, upTo_append h, hstop, Option.bind_eq_bind, Option.bind_some,
    Option.pure_def]

/-- Blanks are passed over up to the first other character. -/
theorem skipBlanks_append {blanks : List Char} (h : ∀ c ∈ blanks, Text.isBlank c) (rest : List Char) :
    skipBlanks (blanks ++ rest) = skipBlanks rest := by
  rw [skipBlanks, List.dropWhile_append_of_pos h, skipBlanks]

/-- **A written entry is read back**, and nothing after it is taken along. -/
theorem readEntry_line {e : Entry} (h : e.Writable) {blanks : List Char}
    (hblanks : ∀ c ∈ blanks, Text.isBlank c) (rest : List Char) :
    readEntry (blanks ++ e.line ++ rest) = some (e, rest) := by
  -- What is left after each part.
  let afterPath := [',', ' '] ++ (['"', '{'] ++ e.guid.toList ++ ['}', '"'] ++ rest)
  let afterName := [',', ' '] ++ (['"'] ++ e.path.toList ++ ['"'] ++ afterPath)
  let afterEquals := [' '] ++ (['"'] ++ e.name.toList ++ ['"'] ++ afterName)
  have hopening : expect opening (skipBlanks (blanks ++ e.line ++ rest)) =
      some (['"', '{'] ++ e.kind.toList ++ ['}', '"'] ++ ([')', ' ', '='] ++ afterEquals)) := by
    rw [List.append_assoc, skipBlanks_append hblanks, expect_eq_some_iff]
    simp only [Entry.line, List.append_assoc, List.cons_append, List.nil_append, afterEquals, afterName,
      afterPath]
    rfl
  have hbracket : expect [')'] ([')', ' ', '='] ++ afterEquals) = some ([' ', '='] ++ afterEquals) := rfl
  have hequals : expect ['='] (skipBlanks ([' ', '='] ++ afterEquals)) = some afterEquals := rfl
  have hspace : skipBlanks afterEquals = ['"'] ++ e.name.toList ++ ['"'] ++ afterName := rfl
  have hfirst : comma afterName = some (['"'] ++ e.path.toList ++ ['"'] ++ afterPath) := rfl
  have hsecond : comma afterPath = some (['"', '{'] ++ e.guid.toList ++ ['}', '"'] ++ rest) := rfl
  simp only [readEntry, Option.bind_eq_bind, Option.pure_def, Option.bind_some, hopening,
    braced_append h.kind, hbracket, hequals, hspace, quotedPart_append h.name, hfirst,
    quotedPart_append h.path, hsecond, braced_append h.guid]

/-! ## Text without entries -/

/-- Nowhere in a text is the word that starts an entry. As this word has no line end in it, no line of the
text has it either. -/
def Silent (cs : List Char) : Prop :=
  ¬ opening <:+: cs

instance (cs : List Char) : Decidable (Silent cs) :=
  inferInstanceAs (Decidable (¬ opening <:+: cs))

/-- Only after the word that starts an entry there is one to read. -/
theorem opening_prefix_of_readEntry {cs : List Char} {r : Entry × List Char}
    (h : readEntry cs = some r) : opening <+: skipBlanks cs := by
  simp only [readEntry, Option.bind_eq_bind, Option.bind_eq_some_iff] at h
  obtain ⟨rest, hopening, -⟩ := h
  rw [expect_eq_some_iff.mp hopening]
  exact List.prefix_append opening rest

theorem readEntry_of_silent {cs : List Char} (h : Silent cs) : readEntry cs = none := by
  rw [← Option.not_isSome_iff_eq_none]
  intro hsome
  obtain ⟨r, hr⟩ := Option.isSome_iff_exists.mp hsome
  have hsuffix : skipBlanks cs <:+ cs := List.dropWhile_suffix _
  exact h ((opening_prefix_of_readEntry hr).isInfix.trans hsuffix.isInfix)

/-- In a text of whole lines that are not all blank no entry starts, whatever comes after them. -/
theorem readEntry_of_whole_lines {gap : List Char} (h : Silent gap) (hend : gap.getLast? = some '\n')
    (hnot : ¬ ∀ c ∈ gap, Text.isBlank c) (rest : List Char) : readEntry (gap ++ rest) = none := by
  rw [← Option.not_isSome_iff_eq_none]
  intro hsome
  obtain ⟨r, hr⟩ := Option.isSome_iff_exists.mp hsome
  have hopening := opening_prefix_of_readEntry hr
  have hleft : skipBlanks gap ≠ [] := mt List.dropWhile_eq_nil_iff.mp hnot
  have hsuffix : skipBlanks gap <:+ gap := List.dropWhile_suffix _
  have hskip : skipBlanks (gap ++ rest) = skipBlanks gap ++ rest := by
    rw [skipBlanks, List.dropWhile_append, if_neg (by simpa [skipBlanks] using hleft), skipBlanks]
  rw [hskip] at hopening
  -- The word would have to begin in the lines and to go on over the last line end.
  rcases List.prefix_or_prefix_of_prefix hopening (List.prefix_append _ _) with hin | hover
  · exact h (hin.isInfix.trans hsuffix.isInfix)
  · obtain ⟨front, hfront⟩ := hsuffix
    have hlast : (front ++ skipBlanks gap).getLast? = some '\n' := by rw [hfront, hend]
    rw [List.getLast?_append_of_ne_nil _ hleft] at hlast
    exact absurd (hover.subset (List.mem_of_getLast? hlast)) (by decide)

/-! ## Reading on -/

theorem entriesFrom_of_readEntry {cs rest : List Char} {e : Entry} (h : readEntry cs = some (e, rest)) :
    entriesFrom true cs = e :: entriesFrom false rest := by
  rw [entriesFrom]
  split
  · next heq =>
      rw [if_pos rfl, h] at heq
      cases heq
      rfl
  · next heq => simp [h] at heq

theorem entriesFrom_cons_of_none {atLineStart : Bool} {c : Char} {cs : List Char}
    (h : atLineStart = true → readEntry (c :: cs) = none) :
    entriesFrom atLineStart (c :: cs) = entriesFrom (c == '\n') cs := by
  rw [entriesFrom]
  split
  · next heq =>
      cases atLineStart with
      | true => simp [h rfl] at heq
      | false => simp at heq
  · rfl

theorem entriesFrom_of_silent {cs : List Char} (h : Silent cs) (atLineStart : Bool) :
    entriesFrom atLineStart cs = [] := by
  induction cs generalizing atLineStart with
  | nil =>
      rw [entriesFrom]
      split
      · next heq => cases atLineStart <;> simp [readEntry_of_silent h] at heq
      · rfl
  | cons c cs ih =>
      rw [entriesFrom_cons_of_none fun _ => readEntry_of_silent h]
      exact ih (mt (fun hopen => hopen.trans (List.suffix_cons c cs).isInfix) h) _

/-- Whether a line starts after some text, which may itself start in the middle of a line. -/
def startsLine (atLineStart : Bool) (gap : List Char) : Bool :=
  gap.getLast?.elim atLineStart (· == '\n')

theorem startsLine_cons (atLineStart : Bool) (c : Char) (cs : List Char) :
    startsLine atLineStart (c :: cs) = startsLine (c == '\n') cs := by
  cases cs with
  | nil => rfl
  | cons d cs => rw [startsLine, startsLine, List.getLast?_cons_cons, List.getLast?_cons, Option.elim_some,
      Option.elim_some]

/-- **The first entry of a text is the one that is written first**, after silent text, at the start of a
line. It may be read from an earlier line on if there are only blanks between. -/
theorem entriesFrom_line {e : Entry} (h : e.Writable) {indent : List Char}
    (hindent : ∀ c ∈ indent, Text.isBlank c) {gap : List Char} (hsilent : Silent gap)
    {atLineStart : Bool} (hstart : startsLine atLineStart gap = true) (rest : List Char) :
    entriesFrom atLineStart (gap ++ (indent ++ e.line ++ rest)) = e :: entriesFrom false rest := by
  induction gap generalizing atLineStart with
  | nil =>
      obtain rfl : atLineStart = true := hstart
      exact entriesFrom_of_readEntry (readEntry_line h hindent rest)
  | cons c gap ih =>
      have hrest : Silent gap := mt (fun hopen => hopen.trans (List.suffix_cons c gap).isInfix) hsilent
      rw [startsLine_cons] at hstart
      have hstep : (atLineStart = true → readEntry (c :: (gap ++ (indent ++ e.line ++ rest))) = none) →
          entriesFrom atLineStart (c :: (gap ++ (indent ++ e.line ++ rest))) =
            e :: entriesFrom false rest := by
        intro hnone
        rw [entriesFrom_cons_of_none hnone]
        exact ih hrest hstart
      cases atLineStart with
      | false => exact hstep fun hfalse => absurd hfalse Bool.false_ne_true
      | true =>
          by_cases hall : ∀ d ∈ c :: gap, Text.isBlank d
          · have hread := readEntry_line h (List.forall_mem_append.mpr ⟨hall, hindent⟩) rest
            rw [← List.append_assoc, ← List.append_assoc]
            exact entriesFrom_of_readEntry hread
          · have hend : (c :: gap).getLast? = some '\n' := by
              rw [← startsLine_cons true] at hstart
              obtain ⟨d, hd⟩ := Option.isSome_iff_exists.mp (List.getLast?_isSome.mpr (List.cons_ne_nil c gap))
              simpa [startsLine, hd] using hstart
            exact hstep fun _ => readEntry_of_whole_lines hsilent hend hall _

/-! ## Layouts -/

/-- An entry in its place: the text since the entry before, whole lines, and the blanks before it in its
own line. Other text may follow it in that line; it is the text before the next entry. -/
structure Block where
  before : List Char
  indent : List Char
  entry : Entry

namespace Block

/-- The text of a block. -/
def text (b : Block) : List Char :=
  b.before ++ (b.indent ++ b.entry.line)

/-- The text before an entry is silent and ends with a line, and the entry is written on a line of its
own. -/
structure Placed (b : Block) : Prop where
  silent : Silent b.before
  whole : ∀ c ∈ b.before.getLast?, IsLineEnd c
  blank : ∀ c ∈ b.indent, Text.isBlank c ∧ ¬ IsLineEnd c
  writable : b.entry.Writable

instance (b : Block) : Decidable b.Placed :=
  decidable_of_iff (Silent b.before ∧ b.before.getLast?.all (IsLineEnd ·) = true ∧
      b.indent.all (fun c => Text.isBlank c && !decide (IsLineEnd c)) = true ∧ b.entry.Writable) <| by
    simp only [Option.all_eq_true, List.all_eq_true, Bool.and_eq_true, Bool.not_eq_true',
      decide_eq_true_eq, decide_eq_false_iff_not]
    exact ⟨fun ⟨h₁, h₂, h₃, h₄⟩ => ⟨h₁, h₂, h₃, h₄⟩, fun ⟨h₁, h₂, h₃, h₄⟩ => ⟨h₁, h₂, h₃, h₄⟩⟩

/-- The line of an entry has no carriage returns in it. -/
theorem Placed.return_not_mem {b : Block} (h : b.Placed) : '\r' ∉ b.indent ++ b.entry.line := by
  obtain ⟨-, -, hblank, hkind, hname, hpath, hguid⟩ := h
  have hindent : '\r' ∉ b.indent := fun hmem => (hblank _ hmem).2 (.inr rfl)
  have hopening : '\r' ∉ opening := by decide
  simp [Entry.line, hopening, hindent, hkind.return_not_mem, hname.return_not_mem, hpath.return_not_mem,
    hguid.return_not_mem]

/-- The line of an entry begins with a blank or with the entry. -/
theorem Placed.head?_ne {b : Block} (h : b.Placed) (rest : List Char) :
    (b.indent ++ b.entry.line ++ rest).head? ≠ some '\n' := by
  rcases hindent : b.indent with _ | ⟨c, indent⟩
  · have hhead : (b.entry.line ++ rest).head? = some 'P' := rfl
    simp [hhead]
  · have hc := (h.blank c (hindent ▸ List.mem_cons_self)).2
    rintro heq
    exact hc (.inl (Option.some.inj heq))

end Block

/-- A text that lists entries: blocks one after another, then silent text. Line ends may be line feeds,
carriage returns or both. The text between two entries holds at least the line end of the first one; in
solution files it holds `EndProject` too. -/
structure Layout where
  blocks : List Block
  tail : List Char
  placed : ∀ b ∈ blocks, b.Placed
  apart : ∀ b ∈ blocks.tail, b.before ≠ []
  silent : Silent tail

namespace Layout

/-- The characters of a layout. -/
def text (l : Layout) : List Char :=
  l.blocks.flatMap Block.text ++ l.tail

/-- The entries of a layout, in order. -/
def entries (l : Layout) : List Entry :=
  l.blocks.map Block.entry

end Layout

/-- A silent text stays silent when its line ends are unified. -/
theorem Silent.unifyNewlines {cs : List Char} (h : Silent cs) : Silent (unifyNewlines cs) :=
  mt ((unifies_unifyNewlines cs).isInfix (by decide)) h

/-- The first block of some text is read as its entry. -/
theorem entriesFrom_block {b : Block} (h : b.Placed) {atLineStart : Bool}
    (hstart : b.before = [] → atLineStart = true) (rest : List Char) :
    entriesFrom atLineStart (unifyNewlines (b.text ++ rest)) =
      b.entry :: entriesFrom false (unifyNewlines rest) := by
  have hunifies := unifies_unifyNewlines b.before
  have hline : unifyNewlines (b.text ++ rest) =
      unifyNewlines b.before ++ (b.indent ++ b.entry.line ++ unifyNewlines rest) := by
    rw [Block.text, List.append_assoc, unifyNewlines_append _ (h.head?_ne rest),
      unifyNewlines_append_of_no_return h.return_not_mem]
  have hwhole := hunifies.eq_of_mem_getLast? h.whole
  have hstarts : startsLine atLineStart (unifyNewlines b.before) = true := by
    rcases hlast : (unifyNewlines b.before).getLast? with _ | d
    · have hnil := hunifies.eq_nil_of_eq_nil (List.getLast?_eq_none_iff.mp hlast)
      simpa [startsLine, hlast] using hstart hnil
    · simpa [startsLine, hlast] using hwhole d hlast
  rw [hline]
  exact entriesFrom_line h.writable (fun c hc => (h.blank c hc).1) h.silent.unifyNewlines hstarts _

/-- Blocks in the middle of a text are read as their entries. -/
theorem entriesFrom_blocks {blocks : List Block} (hplaced : ∀ b ∈ blocks, b.Placed)
    (hapart : ∀ b ∈ blocks, b.before ≠ []) {tail : List Char} (hsilent : Silent tail) :
    entriesFrom false (unifyNewlines (blocks.flatMap Block.text ++ tail)) = blocks.map Block.entry := by
  induction blocks with
  | nil => exact entriesFrom_of_silent hsilent.unifyNewlines false
  | cons b blocks ih =>
      rw [List.forall_mem_cons] at hplaced hapart
      rw [List.flatMap_cons, List.append_assoc,
        entriesFrom_block hplaced.1 (fun hnil => absurd hnil hapart.1), ih hplaced.2 hapart.2,
        List.map_cons]

/-- **A layout is read as the entries that it writes**, in order and without any others. -/
theorem Layout.entriesFrom_text (l : Layout) :
    entriesFrom true (unifyNewlines l.text) = l.entries := by
  obtain ⟨blocks, tail, hplaced, hapart, hsilent⟩ := l
  cases blocks with
  | nil => exact entriesFrom_of_silent hsilent.unifyNewlines true
  | cons b blocks =>
      rw [List.forall_mem_cons] at hplaced
      rw [text, List.flatMap_cons, List.append_assoc, entriesFrom_block hplaced.1 (fun _ => rfl),
        entriesFrom_blocks hplaced.2 hapart hsilent]
      rfl

end SolutionSurvey.Listing
