import SolutionSurvey.Files.Tree
import SolutionSurvey.Proofs.Files.Place

/-!
# Paths that texts write

A path that was read from a text is read from its own text too, and so is a path below a home directory. The
normal form of a path consists of names.

## Main definitions

* `WordedPath.IsWritten`, `WordedPath.IsText` — segments and paths that texts write.
* `WordedPath.IsText.ofWording_toWording` — reading the text of such a path.
* `Site.isText_expandHome` — paths below a home directory.
* `WordedPath.isName_of_mem_normalize` — normal forms in a file tree.
-/

namespace SolutionSurvey

namespace WordedPath

/-! ## Reading the text of a path -/

/-- A segment that stands for itself in a text. -/
def IsWritten (segment : Wording) : Prop :=
  segment ≠ .plain "" ∧ segment ≠ .plain "." ∧ .char '/' ∉ segment.signs

/-- A path with at most two slashes at its start, and with segments that stand for themselves. -/
structure IsText (p : WordedPath) : Prop where
  slashes_le : p.slashes ≤ 2
  written : ∀ n ∈ p.segments, IsWritten n

/-- Segments that signs hold stand for themselves. -/
theorem isWritten_segmentsOf (signs : List Sign) : ∀ n ∈ segmentsOf signs, IsWritten n := by
  intro n hn
  obtain ⟨hcut, hkept⟩ := List.mem_filter.mp hn
  obtain ⟨piece, hpiece, rfl⟩ := List.mem_map.mp hcut
  have hne : Wording.ofSigns piece ≠ .plain "" ∧ Wording.ofSigns piece ≠ .plain "." := by simpa using hkept
  rw [List.splitOn_eq_splitOnP] at hpiece
  refine ⟨hne.1, hne.2, fun hslash => ?_⟩
  rw [Wording.signs_ofSigns] at hslash
  exact absurd (mem_of_mem_splitOnP hpiece hslash).2 (by decide)

theorem isText_ofWording (w : Wording) : (ofWording w).IsText where
  slashes_le := by
    rw [ofWording]
    dsimp only
    split <;> omega
  written := isWritten_segmentsOf w.signs

/-- Slashes at the start make no segments. -/
theorem segmentsOf_slashes (count : ℕ) (signs : List Sign) :
    segmentsOf (List.replicate count (.char '/') ++ signs) = segmentsOf signs := by
  have hskip (signs : List Sign) : segmentsOf (.char '/' :: signs) = segmentsOf signs := by
    rw [segmentsOf, List.splitOn_eq_splitOnP, List.splitOnP_cons_eq_if_modifyHead, if_pos (by simp),
      List.map_cons, List.filter_cons_of_neg (by simp [Wording.ofSigns, Wording.ofSignsAfter]), segmentsOf,
      List.splitOn_eq_splitOnP]
  induction count with
  | zero => rw [List.replicate_zero, List.nil_append]
  | succ count ih => rw [List.replicate_succ, List.cons_append, hskip, ih]

/-- The signs of segments are read as these segments. -/
theorem segmentsOf_intercalate {names : List Wording} (h : ∀ n ∈ names, IsWritten n) :
    segmentsOf ([.char '/'].intercalate (names.map Wording.signs)) = names := by
  have hkeep : (names.filter fun p => p != .plain "" && p != .plain ".") = names :=
    List.filter_eq_self.mpr fun n hn => by simpa using ⟨(h n hn).1, (h n hn).2.1⟩
  by_cases hnil : names = []
  · subst hnil
    rfl
  · have hcut : ([.char '/'].intercalate (names.map Wording.signs)).splitOn (.char '/') =
        names.map Wording.signs :=
      List.splitOn_intercalate _ (List.forall_mem_map.mpr fun n hn => (h n hn).2.2) (by simpa using hnil)
    have hback : (names.map Wording.signs).map Wording.ofSigns = names := by simp [Function.comp_def]
    rw [segmentsOf, hcut, hback, hkeep]

/-- The signs of segments start with no slash. -/
theorem takeWhile_intercalate {names : List Wording} (h : ∀ n ∈ names, IsWritten n) :
    ([.char '/'].intercalate (names.map Wording.signs)).takeWhile (· == .char '/') = [] := by
  cases names with
  | nil => rfl
  | cons n rest =>
      obtain ⟨hne, -, hslash⟩ := h n List.mem_cons_self
      have hstart : ∃ tail, [.char '/'].intercalate ((n :: rest).map Wording.signs) = n.signs ++ tail := by
        cases rest with
        | nil => exact ⟨[], by simp⟩
        | cons m rest =>
            rw [List.map_cons, List.map_cons, List.intercalate_cons_cons, List.append_assoc]
            exact ⟨_, rfl⟩
      obtain ⟨tail, htail⟩ := hstart
      have hsigns : n.signs ≠ [] := fun hnil => hne (by rw [← Wording.ofSigns_signs n, hnil]; rfl)
      obtain ⟨c, cs, hcs⟩ := List.exists_cons_of_ne_nil hsigns
      have hc : c ≠ .char '/' := by
        rintro rfl
        exact hslash (hcs ▸ List.mem_cons_self)
      rw [htail, hcs, List.cons_append, List.takeWhile_cons_of_neg (by simpa using hc)]

/-- **A path that a text writes is read from its own text.** -/
theorem IsText.ofWording_toWording {p : WordedPath} (h : p.IsText) : ofWording p.toWording = p := by
  obtain ⟨slashes, segments⟩ := p
  obtain ⟨hslashes, hwritten⟩ := h
  dsimp only at hslashes hwritten
  rw [toWording]
  split
  · next hempty =>
    obtain ⟨rfl, rfl⟩ := hempty
    rfl
  · have hlead : ((List.replicate slashes (Sign.char '/') ++
        [Sign.char '/'].intercalate (segments.map Wording.signs)).takeWhile (· == .char '/')).length = slashes := by
      rw [List.takeWhile_append_of_pos (by simp), takeWhile_intercalate hwritten, List.append_nil,
        List.length_replicate]
    rw [ofWording, Wording.signs_ofSigns, hlead, segmentsOf_slashes, segmentsOf_intercalate hwritten]
    have hcount : (if slashes = 2 then 2 else min slashes 1) = slashes := by
      split <;> omega
    rw [hcount]

/-! ## Normal forms -/

theorem ne_of_mem_foldl_dotStep {done : List Wording}
    (hdone : ∀ n ∈ done, n ≠ .plain "" ∧ n ≠ .plain "." ∧ n ≠ .plain "..") (segments : List Wording) :
    ∀ n ∈ segments.foldl dotStep done, n ≠ .plain "" ∧ n ≠ .plain "." ∧ n ≠ .plain ".." := by
  induction segments generalizing done with
  | nil => exact hdone
  | cons segment rest ih =>
      rw [List.foldl_cons]
      apply ih
      rw [dotStep]
      split
      · exact hdone
      · next hplain =>
        split
        · exact fun n hn => hdone n (List.mem_of_mem_tail hn)
        · next hup =>
          obtain ⟨hempty, hpoint⟩ := not_or.mp hplain
          exact List.forall_mem_cons.mpr ⟨⟨hempty, hpoint, hup⟩, hdone⟩

/-- A name in a file tree that has no slash is the text that stands for it. -/
theorem eq_plain_of_fileName {w : Wording} {name : String} (h : w.fileName = name) (hname : '/' ∉ name.toList) :
    w = .plain name := by
  cases w with
  | plain s => exact congrArg _ h
  | broken head half rest =>
      subst h
      simp [Wording.fileName, Wording.spelled] at hname

/-- All segments of a normal form in a file tree are names. -/
theorem isName_of_mem_normalize {here : FilePath} {p : WordedPath} {n : String}
    (hn : n ∈ (p.normalize here).inTree.segments) : IsName n := by
  obtain ⟨w, hw, rfl⟩ := List.mem_map.mp hn
  obtain ⟨hempty, hpoint, hup⟩ := ne_of_mem_foldl_dotStep (List.forall_mem_nil _) _ _ (List.mem_reverse.mp hw)
  refine ⟨fun h => hempty (eq_plain_of_fileName h ?_), fun h => hpoint (eq_plain_of_fileName h ?_),
    fun h => hup (eq_plain_of_fileName h ?_)⟩
  all_goals decide

end WordedPath

/-! ## Home directories -/

namespace Site

variable {s : Site} {p q : WordedPath}

/-- A home directory is read from its text. -/
theorem isText_homeOf {user : Wording} (h : s.homeOf user = .ok p) : p.IsText := by
  rw [homeOf] at h
  split at h
  · cases h
  · split at h
    · cases h
    · split at h
      · cases h
      · split at h
        · cases h
        · cases h
          exact WordedPath.isText_ofWording _

/-- A path that a text writes is expanded to such a path. -/
theorem isText_expandHome (hp : p.IsText) (h : s.expandHome p = .ok q) : q.IsText := by
  rw [expandHome] at h
  split at h
  · next first rest hslashes hsegments =>
    split at h
    · obtain ⟨home, hhome, rfl⟩ := map_eq_ok.mp h
      have htext := isText_homeOf hhome
      refine ⟨htext.slashes_le, List.forall_mem_append.mpr ⟨htext.written, fun n hn => ?_⟩⟩
      exact hp.written n (hsegments ▸ List.mem_cons_of_mem first hn)
    · cases h
      exact hp
  · cases h
    exact hp

/-- An absolute path has no home directory to be replaced. -/
theorem expandHome_of_isAbsolute (h : p.isAbsolute) : s.expandHome p = .ok p := by
  rw [expandHome]
  split
  · next hslashes _ =>
    rw [WordedPath.isAbsolute, hslashes] at h
    cases h
  · rfl

end Site

end SolutionSurvey
