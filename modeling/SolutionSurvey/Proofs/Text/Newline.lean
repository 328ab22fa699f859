import SolutionSurvey.Proofs.Outcome
import SolutionSurvey.Text.Encoding
import Mathlib.Data.List.Basic
import Mathlib.Data.List.Infix

/-!
# Line ends as one line feed

Reading a file turns every line end into a line feed. This goes on part by part, as long as no part ends
between a carriage return and its line feed. It leaves a text alone that has no carriage returns, and it
makes no words: what stands between line ends stood there before.

## Main definitions

* `IsLineEnd` — the characters that end lines.
* `unifyNewlines_append`, `unifyNewlines_append_of_no_return` — part by part.
* `Unifies` — each line end is one line feed, and other characters stay.
* `Unifies.eq_of_mem_getLast?` — whole lines stay whole.
* `Unifies.isInfix` — no words are made.
* `decodeFile_utf8Signed` — the text of a file in UTF-8.
-/

namespace SolutionSurvey

/-- Whether a character ends a line. -/
def IsLineEnd (c : Char) : Prop :=
  c = '\n' ∨ c = '\r'

instance : DecidablePred IsLineEnd :=
  fun c => inferInstanceAs (Decidable (c = '\n' ∨ c = '\r'))

theorem unifyNewlines_return {rest : List Char} (h : rest.head? ≠ some '\n') :
    unifyNewlines ('\r' :: rest) = '\n' :: unifyNewlines rest := by
  rw [unifyNewlines]
  rintro rest' rfl
  exact h rfl

theorem unifyNewlines_cons {c : Char} (h : c ≠ '\r') (rest : List Char) :
    unifyNewlines (c :: rest) = c :: unifyNewlines rest := by
  rw [unifyNewlines]
  · rintro rest' rfl
    exact absurd rfl h
  · exact h

/-- Text without carriage returns is left as it is. -/
theorem unifyNewlines_append_of_no_return {xs : List Char} (h : '\r' ∉ xs) (ys : List Char) :
    unifyNewlines (xs ++ ys) = xs ++ unifyNewlines ys := by
  induction xs with
  | nil => rfl
  | cons x xs ih =>
      rw [List.mem_cons, not_or] at h
      rw [List.cons_append, unifyNewlines_cons (Ne.symm h.1), ih h.2, List.cons_append]

/-- Line ends are unified part by part, if the second part does not begin with a line feed. -/
theorem unifyNewlines_append (xs : List Char) {ys : List Char} (h : ys.head? ≠ some '\n') :
    unifyNewlines (xs ++ ys) = unifyNewlines xs ++ unifyNewlines ys := by
  induction xs using unifyNewlines.induct with
  | case1 => rfl
  | case2 rest ih =>
      simp only [List.cons_append, unifyNewlines, ih]
  | case3 rest hnot ih =>
      have hhead : rest.head? ≠ some '\n' := by
        cases rest with
        | nil => simp
        | cons d rest =>
            intro hd
            exact hnot rest (by rw [Option.some.inj hd])
      have hhead' : (rest ++ ys).head? ≠ some '\n' := by
        cases rest with
        | nil => exact h
        | cons d rest => exact hhead
      rw [List.cons_append, unifyNewlines_return hhead', unifyNewlines_return hhead, ih,
        List.cons_append]
  | case4 c rest _ hc ih =>
      rw [List.cons_append, unifyNewlines_cons hc, unifyNewlines_cons hc, ih, List.cons_append]

/-! ## Line ends and other characters -/

/-- The second text is the first one with a line feed for each line end, which may have several
characters. -/
inductive Unifies : List Char → List Char → Prop
  | nil : Unifies [] []
  | lineEnd {ending rest out : List Char} : (∀ c ∈ ending, IsLineEnd c) → Unifies rest out →
      Unifies (ending ++ rest) ('\n' :: out)
  | other {c : Char} {rest out : List Char} : ¬ IsLineEnd c → Unifies rest out →
      Unifies (c :: rest) (c :: out)

theorem unifies_unifyNewlines (cs : List Char) : Unifies cs (unifyNewlines cs) := by
  have single : ∀ {c : Char}, IsLineEnd c → ∀ d ∈ [c], IsLineEnd d := by simp
  induction cs using unifyNewlines.induct with
  | case1 => exact .nil
  | case2 rest ih =>
      have hboth : ∀ c ∈ ['\r', '\n'], IsLineEnd c := by simp [IsLineEnd]
      exact .lineEnd hboth ih
  | case3 rest hnot ih =>
      rw [unifyNewlines.eq_3 rest hnot]
      exact .lineEnd (single (.inr rfl)) ih
  | case4 c rest _ hc ih =>
      rw [unifyNewlines_cons hc]
      by_cases hfeed : c = '\n'
      · rw [hfeed]
        exact .lineEnd (single (.inl rfl)) ih
      · exact .other (not_or.mpr ⟨hfeed, hc⟩) ih

namespace Unifies

variable {cs out word : List Char}

/-- Only from nothing there is nothing afterwards. -/
theorem eq_nil_of_eq_nil (h : Unifies cs out) (hout : out = []) : cs = [] := by
  cases h with
  | nil => rfl
  | lineEnd => cases hout
  | other => cases hout

/-- A text of whole lines is one afterwards. -/
theorem eq_of_mem_getLast? (h : Unifies cs out) (hend : ∀ c ∈ cs.getLast?, IsLineEnd c) :
    ∀ d ∈ out.getLast?, d = '\n' := by
  induction h with
  | nil => simp
  | @lineEnd ending rest out _ _ ih =>
      have hrest : ∀ c ∈ rest.getLast?, IsLineEnd c := by
        intro c hc
        refine hend c ?_
        rw [List.getLast?_append]
        simp [Option.mem_def.mp hc]
      simp only [List.getLast?_cons, Option.mem_some_iff, forall_eq']
      rcases hlast : out.getLast? with _ | d
      · rfl
      · exact ih hrest d hlast
  | @other c rest out hc hrest ih =>
      simp only [List.getLast?_cons, Option.mem_some_iff, forall_eq'] at hend ⊢
      rcases hlast : rest.getLast? with _ | d
      · simp [hlast, hc] at hend
      · have hrestEnd : ∀ e ∈ rest.getLast?, IsLineEnd e := by
          simpa [hlast] using hend
        rcases hlast' : out.getLast? with _ | d'
        · have hnil := hrest.eq_nil_of_eq_nil (List.getLast?_eq_none_iff.mp hlast')
          simp [hnil] at hlast
        · exact ih hrestEnd d' hlast'

/-- A word without line feeds that a text begins with afterwards was there before. -/
theorem isPrefix (h : Unifies cs out) (hword : '\n' ∉ word) (hfront : word <+: out) :
    word <+: cs := by
  induction h generalizing word with
  | nil => exact hfront
  | lineEnd _ _ _ =>
      cases word with
      | nil => exact List.nil_prefix
      | cons d word =>
          rw [List.cons_prefix_cons] at hfront
          simp [hfront.1] at hword
  | other _ _ ih =>
      cases word with
      | nil => exact List.nil_prefix
      | cons d word =>
          rw [List.mem_cons, not_or] at hword
          rw [List.cons_prefix_cons] at hfront ⊢
          exact ⟨hfront.1, ih hword.2 hfront.2⟩

/-- A word without line feeds that is in a text afterwards was there before. -/
theorem isInfix (h : Unifies cs out) (hword : '\n' ∉ word) (hinside : word <:+: out) :
    word <:+: cs := by
  induction h with
  | nil => exact hinside
  | @lineEnd ending rest out hending hrest ih =>
      rcases List.infix_cons_iff.mp hinside with hfront | hinside
      · exact ((Unifies.lineEnd hending hrest).isPrefix hword hfront).isInfix
      · exact (ih hinside).trans (List.suffix_append ending rest).isInfix
  | @other c rest out hc hrest ih =>
      rcases List.infix_cons_iff.mp hinside with hfront | hinside
      · exact ((Unifies.other hc hrest).isPrefix hword hfront).isInfix
      · exact (ih hinside).trans (List.suffix_cons c rest).isInfix

end Unifies

/-- The text of a file in UTF-8, which may start with a mark. -/
theorem decodeFile_utf8Signed (bytes : List UInt8) :
    decodeFile "utf-8-sig" bytes =
      ((Encoding.decodeUtf8Signed bytes).mapError .undecodable).map fun cs => String.ofList (unifyNewlines cs) := by
  have hfind : Encoding.ofFile "utf-8-sig" = .ok .utf8Signed :=
    eq_ok_of_toOption (by decide +kernel)
  have htext : decodeText "utf-8-sig" bytes = (Encoding.utf8Signed.decode bytes).map (Wording.mapRuns fun run =>
      String.ofList (unifyNewlines run.toList)) := by
    rw [decodeText, hfind]
    change (Encoding.utf8Signed.decode bytes >>= fun text => pure _) = _
    cases Encoding.utf8Signed.decode bytes <;> rfl
  rw [decodeFile, htext, Encoding.decode, Encoding.decodeSigns]
  cases Encoding.decodeUtf8Signed bytes with
  | error fault => rfl
  | ok cs =>
      have hplain : (Wording.ofSigns (cs.map .char)).mapRuns (fun run => String.ofList (unifyNewlines run.toList)) =
          .plain (String.ofList (unifyNewlines cs)) := by
        rw [Wording.ofSigns_map_char, Wording.mapRuns, String.toList_ofList]
      exact congrArg (fun w : Wording => w.written.mapError Failure.unencodable) hplain

end SolutionSurvey
