import SolutionSurvey.Proofs.Project.Sources
import SolutionSurvey.Proofs.Text.Trim

/-!
# Which projects a project refers to

A written target is followed part by part from the directory of the manifest, where two points lead one
directory up, and the project that is known at the path it leads to is referred to. So a target may be spelled
in many ways: with other separators, with blanks around it, with parts that lead nowhere, and with detours.
An empty target is none, and it stays the only one that may not be spelled otherwise: with blanks in its place
it is the directory itself.

## Main definitions

* `Manifest.walk`, `Manifest.targetPath` — where a written target leads.
* `Manifest.IsRelative` — the targets that do not start at the root.
* `Manifest.Respelling`, `Manifest.Respelled` — other spellings of a target.
* `Manifest.references_eq` — the references of a manifest.
* `Project.load_references` — the references of a project, however they are spelled, with
  `Project.not_load_references` for an empty target.
-/

namespace SolutionSurvey

namespace Manifest

/-! ## Where a target leads -/

/-- Whether a character separates the parts of a target. -/
def isSeparator (c : Char) : Bool :=
  c == '/' || c == '\\'

/-- The parts of a target. -/
def targetParts (cs : List Char) : List String :=
  (cs.splitOnP isSeparator).map String.ofList

/-- Where parts lead from a place: empty ones and single points lead nowhere, and two points lead one
directory up, unless the place is the root. -/
def walk : List String → List String → List String
  | place, [] => place
  | place, part :: rest =>
    if part = "" ∨ part = "." then walk place rest
    else if part = ".." then walk place.dropLast rest
    else walk (place ++ [part]) rest

/-- Where the characters of a target lead from a place. -/
def lead (place : List String) (cs : List Char) : List String :=
  walk place (targetParts cs)

/-- The path that a written target leads to from a directory. -/
def targetPath (directory : FilePath) (target : String) : FilePath :=
  { directory with segments := lead directory.segments (Text.trimChars target.toList) }

/-- A text does not start with a separator. -/
def StartsInside (cs : List Char) : Prop :=
  ∀ c ∈ cs.head?, isSeparator c = false

/-- A written target is relative. -/
def IsRelative (target : String) : Prop :=
  StartsInside (Text.trimChars target.toList)

/-- The targets that the references of a manifest write, the empty ones among them. -/
def includes (root : Xml.Element) : List String :=
  (projectReferences root).filterMap fun e => e.attribute? "Include"

theorem targets_eq (root : Xml.Element) : targets root = (includes root).filter (· != "") := by
  rfl

/-- A character with slashes for backslashes. -/
def slash (c : Char) : Char :=
  if c = '\\' then '/' else c

theorem slash_of_isSeparator {c : Char} (h : isSeparator c = true) : slash c = '/' := by
  simp only [isSeparator, Bool.or_eq_true, beq_iff_eq] at h
  obtain rfl | rfl := h <;> rfl

theorem slash_of_not_isSeparator {c : Char} (h : isSeparator c = false) : slash c = c := by
  simp only [isSeparator, Bool.or_eq_false_iff, beq_eq_false_iff_ne] at h
  rw [slash, if_neg h.2]

theorem toList_slashed (target : String) :
    (slashed target).toList = (Text.trimChars target.toList).map slash := by
  rw [slashed, String.toList_ofList]
  rfl

/-- Cutting at slashes, after backslashes became slashes, is cutting at both. -/
theorem splitOn_map_slash (cs : List Char) : (cs.map slash).splitOn '/' = cs.splitOnP isSeparator := by
  rw [List.splitOn_eq_splitOnP]
  induction cs with
  | nil => rfl
  | cons c rest ih =>
      rw [List.map_cons, List.splitOnP_cons_eq_if_modifyHead, List.splitOnP_cons_eq_if_modifyHead, ih]
      cases hc : isSeparator c with
      | true => simp [slash_of_isSeparator hc]
      | false =>
          have hne : c ≠ '/' := by
            rintro rfl
            cases hc
          simp [slash_of_not_isSeparator hc, hne]

/-- A walk is what normalization does step by step. -/
theorem walk_eq_foldl (place parts : List String) :
    walk place parts = (parts.foldl FilePath.dotStep place.reverse).reverse := by
  induction parts generalizing place with
  | nil => simp [walk]
  | cons part rest ih =>
      rw [walk, List.foldl_cons, FilePath.dotStep]
      split
      · exact ih place
      · split
        · rw [ih, List.tail_reverse]
        · rw [ih, List.reverse_append]
          rfl

/-- Parts that lead nowhere may be left out before. -/
theorem foldl_dotStep_filter (parts done : List String) :
    (parts.filter fun p => p != "" && p != ".").foldl FilePath.dotStep done =
      parts.foldl FilePath.dotStep done := by
  induction parts generalizing done with
  | nil => rfl
  | cons part rest ih =>
      by_cases hpart : part = "" ∨ part = "."
      · have hstep : FilePath.dotStep done part = done := if_pos hpart
        rw [List.filter_cons_of_neg (by obtain rfl | rfl := hpart <;> decide), List.foldl_cons, hstep, ih]
      · have hkeep : (fun p => p != "" && p != ".") part = true := by simpa using not_or.mp hpart
        rw [List.filter_cons_of_pos (p := fun p => p != "" && p != ".") hkeep, List.foldl_cons,
          List.foldl_cons, ih]

section Resolve

variable {s : Site} {known : KnownProjects} {directory : FilePath} {target : String}

theorem segments_ofText_slashed (target : String) :
    (FilePath.ofText (slashed target)).segments =
      (targetParts (Text.trimChars target.toList)).filter fun p => p != "" && p != "." := by
  rw [FilePath.ofText, FilePath.segmentsOf, splitText, splitChars, toList_slashed, splitOn_map_slash,
    targetParts]

theorem slashes_ofText_slashed (h : IsRelative target) : (FilePath.ofText (slashed target)).slashes = 0 := by
  have hnone : ((slashed target).toList.takeWhile (· == '/')).length = 0 := by
    rw [toList_slashed]
    cases hcs : Text.trimChars target.toList with
    | nil => rfl
    | cons c rest =>
        have hc : isSeparator c = false := h c (by rw [hcs]; rfl)
        have hne : c ≠ '/' := by
          rintro rfl
          cases hc
        rw [List.map_cons, slash_of_not_isSeparator hc, List.takeWhile_cons_of_neg (by simpa using hne)]
        rfl
  simp only [FilePath.ofText, hnone]
  rfl

/-- The normal form of a relative target, read from a directory, is where it leads. -/
theorem normalize_target (habsolute : directory.isAbsolute) (hnames : ∀ n ∈ directory.segments, IsName n)
    (h : IsRelative target) :
    s.normalize (directory.join (.ofText (slashed target))) = targetPath directory target := by
  have hjoin : directory.join (.ofText (slashed target)) =
      { directory with segments := directory.segments ++ (FilePath.ofText (slashed target)).segments } := by
    simp [FilePath.join, FilePath.isAbsolute, slashes_ofText_slashed h]
  have hwhole : s.here.join (directory.join (.ofText (slashed target))) =
      directory.join (.ofText (slashed target)) := if_pos (by rw [hjoin]; exact habsolute)
  rw [Site.normalize, FilePath.normalize, hwhole, hjoin]
  simp only [targetPath, lead, FilePath.resolveDots, List.foldl_append, foldl_dotStep_names hnames,
    List.append_nil, segments_ofText_slashed, foldl_dotStep_filter, walk_eq_foldl]

end Resolve

/-- What one written target contributes. -/
def referenceOf? (known : KnownProjects) (directory : FilePath) (target : String) : Option ProjectId :=
  if target = "" then none else known.find? (targetPath directory target)

/-- **The references of a manifest** are the projects that are known where its targets lead, each once and
where it first comes; unknown targets and empty ones count for nothing. -/
theorem references_eq {s : Site} {directory : FilePath} {root : Xml.Element} (known : KnownProjects)
    (habsolute : directory.isAbsolute) (hnames : ∀ n ∈ directory.segments, IsName n)
    (hrelative : ∀ t ∈ includes root, IsRelative t) :
    references s known directory root = ((includes root).filterMap (referenceOf? known directory)).eraseDups := by
  rw [references, targets_eq, List.filterMap_filter]
  congr 1
  refine List.filterMap_congr fun t ht => ?_
  rw [referenceOf?, resolve, normalize_target habsolute hnames (hrelative t ht)]
  by_cases hempty : t = "" <;> simp [hempty]

/-! ## Other spellings -/

/-- A part of a text begins after some characters: they are none, or a separator comes last. -/
def PartBegins (before : List Char) : Prop :=
  before = [] ∨ ∃ above c, isSeparator c = true ∧ before = above ++ [c]

/-- A name for a directory to enter and leave again. -/
structure IsDetour (x : List Char) : Prop where
  ne_nil : x ≠ []
  plain : ∀ c ∈ x, isSeparator c = false ∧ Text.isBlank c = false
  not_point : x ≠ ['.']
  not_points : x ≠ ['.', '.']

/-- Another spelling of a relative target without blanks around it. -/
inductive Respelling : List Char → List Char → Prop
  /-- A separator is exchanged for one of the other kind. -/
  | exchange {before after : List Char} {c d : Char} (hc : isSeparator c = true) (hd : isSeparator d = true)
      (h : StartsInside (before ++ c :: after)) : Respelling (before ++ c :: after) (before ++ d :: after)
  /-- A single point is put in front of a part. -/
  | point {before after : List Char} {c : Char} (hbefore : PartBegins before) (hc : isSeparator c = true)
      (h : StartsInside (before ++ after)) : Respelling (before ++ after) (before ++ '.' :: c :: after)
  /-- A single point is put behind the last part. -/
  | lastPoint {cs : List Char} {c : Char} (hne : cs ≠ []) (hc : isSeparator c = true) (h : StartsInside cs) :
      Respelling cs (cs ++ [c, '.'])
  /-- A separator is doubled. -/
  | double {before after : List Char} {c d : Char} (hc : isSeparator c = true) (hd : isSeparator d = true)
      (h : StartsInside (before ++ c :: after)) : Respelling (before ++ c :: after) (before ++ c :: d :: after)
  /-- A name and two points are put in front of a part. -/
  | detour {before after x : List Char} {c d : Char} (hbefore : PartBegins before) (hx : IsDetour x)
      (hc : isSeparator c = true) (hd : isSeparator d = true) (h : StartsInside (before ++ after)) :
      Respelling (before ++ after) (before ++ x ++ c :: '.' :: '.' :: d :: after)

/-- Another spelling of a target. -/
inductive Respelled : String → String → Prop
  /-- Blanks are put around it. -/
  | pad {lead trail : List Char} (t : String) (hlead : ∀ c ∈ lead, Text.isBlank c)
      (htrail : ∀ c ∈ trail, Text.isBlank c) : Respelled t (String.ofList (lead ++ t.toList ++ trail))
  /-- What is left without the blanks around it is spelled otherwise. -/
  | step {t : String} {cs : List Char} (h : Respelling (Text.trimChars t.toList) cs) :
      Respelled t (String.ofList cs)

section Lead

variable {place : List String} {before after : List Char}

theorem walk_append (place parts parts' : List String) :
    walk place (parts ++ parts') = walk (walk place parts) parts' := by
  rw [walk_eq_foldl, walk_eq_foldl, walk_eq_foldl, List.foldl_append, List.reverse_reverse]

/-- What comes after a separator is followed from where the characters before it lead. -/
theorem lead_append_cons (place : List String) (before after : List Char) {c : Char}
    (hc : isSeparator c = true) : lead place (before ++ c :: after) = lead (lead place before) after := by
  rw [lead, targetParts, List.splitOnP_append_cons _ _ hc, List.map_append, walk_append]
  rfl

@[simp] theorem lead_nil (place : List String) : lead place [] = place := by
  rfl

@[simp] theorem lead_point (place : List String) : lead place ['.'] = place := by
  rfl

@[simp] theorem lead_points (place : List String) : lead place ['.', '.'] = place.dropLast := by
  rfl

theorem lead_cons (place : List String) (after : List Char) {c : Char} (hc : isSeparator c = true) :
    lead place (c :: after) = lead place after := by
  have hcut := lead_append_cons place [] after hc
  rwa [List.nil_append, lead_nil] at hcut

/-- A detour leads one directory down. -/
theorem lead_detour {x : List Char} (hx : IsDetour x) (place : List String) :
    lead place x = place ++ [String.ofList x] := by
  have hone : x.splitOnP isSeparator = [x] := List.splitOnP_eq_singleton fun c hc => (hx.plain c hc).1
  have hempty : String.ofList x ≠ "" := by simpa [← String.toList_inj] using hx.ne_nil
  have hpoint : String.ofList x ≠ "." := by simpa [← String.toList_inj] using hx.not_point
  have hpoints : String.ofList x ≠ ".." := by simpa [← String.toList_inj] using hx.not_points
  rw [lead, targetParts, hone, List.map_singleton, walk, if_neg (not_or.mpr ⟨hempty, hpoint⟩), if_neg hpoints,
    walk]

/-- A part is followed from where the characters before it lead. -/
theorem PartBegins.lead_append (h : PartBegins before) (place : List String) (after : List Char) :
    lead place (before ++ after) = lead (lead place before) after := by
  obtain rfl | ⟨above, c, hc, rfl⟩ := h
  · rw [List.nil_append, lead_nil]
  · have habove : lead place (above ++ [c]) = lead place above := by
      rw [lead_append_cons place above [] hc, lead_nil]
    rw [List.append_assoc, List.singleton_append, lead_append_cons place above after hc, habove]

end Lead

/-- **Another spelling leads to the same path.** -/
theorem Respelling.lead_eq {cs ds : List Char} (h : Respelling cs ds) (place : List String) :
    lead place ds = lead place cs := by
  cases h with
  | exchange hc hd => rw [lead_append_cons _ _ _ hc, lead_append_cons _ _ _ hd]
  | @point before after c hbefore hc =>
      have hpoint := lead_append_cons (lead place before) ['.'] after hc
      rw [lead_point] at hpoint
      rw [hbefore.lead_append, hbefore.lead_append]
      exact hpoint
  | lastPoint _ hc => rw [lead_append_cons _ _ _ hc, lead_point]
  | double hc hd => rw [lead_append_cons _ _ _ hc, lead_append_cons _ _ _ hc, lead_cons _ _ hd]
  | @detour before after x c d hbefore hx hc hd =>
      have hback := lead_append_cons (lead place before ++ [String.ofList x]) ['.', '.'] after hd
      rw [lead_points, List.dropLast_concat] at hback
      rw [List.append_assoc, hbefore.lead_append, hbefore.lead_append, lead_append_cons _ _ _ hc,
        lead_detour hx]
      exact hback

/-! ## What a spelling keeps -/

section Ends

variable {P : Char → Prop}

/-- What is said of the first character holds of it whatever comes after it. -/
theorem forall_head_append {before after after' : List Char} (h : ∀ c ∈ (before ++ after).head?, P c)
    (hnil : before = [] → ∀ c ∈ after'.head?, P c) : ∀ c ∈ (before ++ after').head?, P c := by
  cases before with
  | nil => exact hnil rfl
  | cons b before => exact h

/-- What is said of the last character holds of that of an end. -/
theorem forall_last_of_append {before after : List Char} (h : ∀ c ∈ (before ++ after).getLast?, P c) :
    ∀ c ∈ after.getLast?, P c := by
  intro c hc
  refine h c ?_
  rw [List.getLast?_append]
  simp only [Option.mem_def] at hc
  simp [hc]

theorem forall_last_of_append_cons {before after : List Char} {d : Char}
    (h : ∀ c ∈ (before ++ d :: after).getLast?, P c) : ∀ c ∈ after.getLast?, P c := by
  have hcut : before ++ d :: after = (before ++ [d]) ++ after := by simp
  rw [hcut] at h
  exact forall_last_of_append h

/-- The last character stands in the end or right before it. -/
theorem forall_last_append_cons {after : List Char} {d : Char} (h : ∀ c ∈ after.getLast?, P c) (hd : P d)
    (before : List Char) : ∀ c ∈ (before ++ d :: after).getLast?, P c := by
  rw [List.getLast?_append_cons]
  cases hlast : after.getLast? with
  | none => simpa [List.getLast?_cons, hlast] using hd
  | some e => simpa [List.getLast?_cons, hlast] using h e hlast

end Ends

theorem isBlank_of_isSeparator {c : Char} (h : isSeparator c = true) : Text.isBlank c = false := by
  simp only [isSeparator, Bool.or_eq_true, beq_iff_eq] at h
  obtain rfl | rfl := h <;> decide

/-- A text that does not start with a separator has something before one. -/
theorem StartsInside.ne_nil {before after : List Char} {c : Char} (h : StartsInside (before ++ c :: after))
    (hc : isSeparator c = true) : before ≠ [] := by
  rintro rfl
  exact absurd hc (by simp [h c rfl])

theorem IsDetour.head {x : List Char} (hx : IsDetour x) (rest : List Char) :
    ∀ c ∈ (x ++ rest).head?, isSeparator c = false ∧ Text.isBlank c = false := by
  obtain ⟨first, others, rfl⟩ := List.exists_cons_of_ne_nil hx.ne_nil
  intro c hc
  obtain rfl : first = c := by simpa using hc
  exact hx.plain first List.mem_cons_self

/-- Another spelling does not start with a separator either. -/
theorem Respelling.startsInside {cs ds : List Char} (h : Respelling cs ds) :
    StartsInside cs ∧ StartsInside ds := by
  cases h with
  | exchange hc _ h => exact ⟨h, forall_head_append h fun hnil => absurd hnil (h.ne_nil hc)⟩
  | point _ _ h => exact ⟨h, forall_head_append h fun _ => by simp [isSeparator]⟩
  | lastPoint hne _ h =>
      have hkeep : StartsInside (cs ++ []) := by rwa [List.append_nil]
      exact ⟨h, forall_head_append hkeep fun hnil => absurd hnil hne⟩
  | double hc _ h => exact ⟨h, forall_head_append h fun hnil => absurd hnil (h.ne_nil hc)⟩
  | detour _ hx _ _ h =>
      refine ⟨h, ?_⟩
      rw [List.append_assoc]
      exact forall_head_append h fun _ c hc => (hx.head _ c hc).1

/-- Another spelling has no blanks around it either. -/
theorem Respelling.isTrimmed {cs ds : List Char} (h : Respelling cs ds) (htrimmed : Text.IsTrimmed cs) :
    Text.IsTrimmed ds := by
  have hhead := htrimmed.head
  have hlast := htrimmed.last
  cases h with
  | exchange hc hd h =>
      exact ⟨forall_head_append hhead fun hnil => absurd hnil (h.ne_nil hc),
        forall_last_append_cons (forall_last_of_append_cons hlast) (isBlank_of_isSeparator hd) _⟩
  | @point before after c _ hc =>
      have hcut : before ++ '.' :: c :: after = (before ++ ['.']) ++ c :: after := by simp
      refine ⟨forall_head_append hhead fun _ => by simp [Text.isBlank], ?_⟩
      rw [hcut]
      exact forall_last_append_cons (forall_last_of_append hlast) (isBlank_of_isSeparator hc) _
  | lastPoint hne hc =>
      have hkeep : ∀ c ∈ (cs ++ []).head?, Text.isBlank c = false := by rwa [List.append_nil]
      have hpoint : ∀ c ∈ ['.'].getLast?, Text.isBlank c = false := by simp [Text.isBlank]
      exact ⟨forall_head_append hkeep fun hnil => absurd hnil hne,
        forall_last_append_cons hpoint (isBlank_of_isSeparator hc) _⟩
  | @double before after c d hc hd h =>
      have hcut : before ++ c :: d :: after = (before ++ [c]) ++ d :: after := by simp
      refine ⟨forall_head_append hhead fun hnil => absurd hnil (h.ne_nil hc), ?_⟩
      rw [hcut]
      exact forall_last_append_cons (forall_last_of_append_cons hlast) (isBlank_of_isSeparator hd) _
  | @detour before after x c d _ hx _ hd =>
      have hcut : before ++ x ++ c :: '.' :: '.' :: d :: after =
          (before ++ x ++ [c, '.', '.']) ++ d :: after := by simp
      refine ⟨?_, ?_⟩
      · rw [List.append_assoc]
        exact forall_head_append hhead fun _ c hc => (hx.head _ c hc).2
      · rw [hcut]
        exact forall_last_append_cons (forall_last_of_append hlast) (isBlank_of_isSeparator hd) _

/-- What is left of another spelling, without the blanks around it, is what was left before or a step from
that. -/
theorem Respelled.trimmed {t u : String} (h : Respelled t u) :
    Text.trimChars u.toList = Text.trimChars t.toList ∨
      Respelling (Text.trimChars t.toList) (Text.trimChars u.toList) := by
  cases h with
  | pad _ hlead htrail =>
      rw [String.toList_ofList]
      exact .inl (Text.trimChars_pad hlead htrail _)
  | step hstep =>
      rw [String.toList_ofList, Text.trimChars_of_isTrimmed (hstep.isTrimmed (Text.isTrimmed_trimChars _))]
      exact .inr hstep

/-- **Other spellings of a target are relative as it is, and lead to the same path.** -/
theorem same_of_respelled {t u : String} (h : Relation.EqvGen Respelled t u) :
    (IsRelative t ↔ IsRelative u) ∧ ∀ directory, targetPath directory u = targetPath directory t := by
  induction h with
  | rel t u hstep =>
      obtain hsame | hstep := hstep.trimmed
      · exact ⟨by rw [IsRelative, IsRelative, hsame], fun d => by rw [targetPath, targetPath, hsame]⟩
      · obtain ⟨ht, hu⟩ := hstep.startsInside
        exact ⟨iff_of_true ht hu, fun d => by rw [targetPath, targetPath, hstep.lead_eq]⟩
  | refl => exact ⟨Iff.rfl, fun _ => rfl⟩
  | symm _ _ _ ih => exact ⟨ih.1.symm, fun d => (ih.2 d).symm⟩
  | trans _ _ _ _ _ ih ih' => exact ⟨ih.1.trans ih'.1, fun d => (ih'.2 d).trans (ih.2 d)⟩

/-- A target is spelled otherwise, and is not empty unless it was: where a project is known at the directory
itself, an empty target is no spelling of that. -/
def SameTarget (known : KnownProjects) (directory : FilePath) (t u : String) : Prop :=
  Relation.EqvGen Respelled t u ∧ ((t = "" ↔ u = "") ∨ known.find? directory = none)

theorem targetPath_empty (directory : FilePath) : targetPath directory "" = directory := by
  rfl

/-- Another spelling contributes the same. -/
theorem SameTarget.referenceOf?_eq {known : KnownProjects} {directory : FilePath} {t u : String}
    (h : SameTarget known directory t u) :
    referenceOf? known directory u = referenceOf? known directory t := by
  obtain ⟨hspelled, hempty⟩ := h
  have hpath := (same_of_respelled hspelled).2 directory
  rw [referenceOf?, referenceOf?, hpath]
  by_cases ht : t = ""
  · by_cases hu : u = ""
    · rw [if_pos ht, if_pos hu]
    · have hnone := hempty.resolve_left fun hiff => hu (hiff.mp ht)
      rw [if_pos ht, if_neg hu, ht, targetPath_empty, hnone]
  · by_cases hu : u = ""
    · have hnone := hempty.resolve_left fun hiff => ht (hiff.mpr hu)
      rw [if_neg ht, if_pos hu, ← hpath, hu, targetPath_empty, hnone]
    · rw [if_neg ht, if_neg hu]

/-- Targets that are spelled otherwise contribute the same, one by one. -/
theorem filterMap_of_sameTarget {known : KnownProjects} {directory : FilePath} {ts us : List String}
    (h : List.Forall₂ (SameTarget known directory) ts us) :
    us.filterMap (referenceOf? known directory) = ts.filterMap (referenceOf? known directory) := by
  induction h with
  | nil => rfl
  | cons htu _ ih => rw [List.filterMap_cons, List.filterMap_cons, htu.referenceOf?_eq, ih]

theorem isRelative_of_sameTarget {known : KnownProjects} {directory : FilePath} {ts us : List String}
    (h : List.Forall₂ (SameTarget known directory) ts us) (hts : ∀ t ∈ ts, IsRelative t) :
    ∀ u ∈ us, IsRelative u := by
  induction h with
  | nil => exact nofun
  | cons htu _ ih =>
      obtain ⟨ht, hrest⟩ := List.forall_mem_cons.mp hts
      exact List.forall_mem_cons.mpr ⟨(same_of_respelled htu.1).1.mp ht, ih hrest⟩

end Manifest

/-! ## The references of a project -/

namespace Project

open Manifest

variable {s : Site} {q : ProjectRequest} {root : Xml.Element}

theorem load_outcome (rule : ScanRule) {path : FilePath} (hpath : s.normalize q.path = path)
    (hroot : Manifest.load s path = .ok root) : (load s rule q).outcome = .ok (ofManifest s rule q path root) := by
  simp only [load, hpath, hroot]

/-- **The references of a project** are the projects that are known where the targets of its manifest lead,
each once and in the order in which they first come. A manifest at the same path that spells its targets
otherwise leads to the same references, if none of its targets is empty in one of the manifests only or no
project is known at the directory itself. -/
theorem load_references (rule : ScanRule) (hhere : s.here.isAbsolute)
    (hroot : Manifest.load s (s.normalize q.path) = .ok root) (hrelative : ∀ t ∈ includes root, IsRelative t) :
    ∃ p, (load s rule q).outcome = .ok p ∧
      p.references = ((includes root).filterMap (referenceOf? q.known (s.normalize q.path).parent)).eraseDups ∧
      p.references.Nodup ∧
      ∀ (s' : Site) (rule' : ScanRule) (q' : ProjectRequest) (root' : Xml.Element),
        s'.normalize q'.path = s.normalize q.path → q'.known = q.known →
        Manifest.load s' (s.normalize q.path) = .ok root' →
        List.Forall₂ (SameTarget q.known (s.normalize q.path).parent) (includes root) (includes root') →
        ∃ p', (load s' rule' q').outcome = .ok p' ∧ p'.references = p.references := by
  have habsolute : (s.normalize q.path).parent.isAbsolute := FilePath.isAbsolute_normalize hhere q.path
  have hnames : ∀ n ∈ (s.normalize q.path).parent.segments, IsName n := fun _ => FilePath.isName_of_mem_parent
  have hreferences : Manifest.references s q.known (s.normalize q.path).parent root = _ :=
    references_eq q.known habsolute hnames hrelative
  refine ⟨_, load_outcome rule rfl hroot, hreferences, ?_, ?_⟩
  · exact nodup_eraseDups _
  · intro s' rule' q' root' hpath hknown hroot' hspelled
    refine ⟨_, load_outcome rule' hpath hroot', ?_⟩
    have hrelative' := isRelative_of_sameTarget hspelled hrelative
    change Manifest.references s' q'.known _ root' = Manifest.references s q.known _ root
    rw [hknown, hreferences, references_eq q.known habsolute hnames hrelative', filterMap_of_sameTarget hspelled]

/-! ## Spellings of two targets -/

/-- A manifest that refers to two projects, by written targets. -/
def referringManifest (first second : String) : String :=
  "<P><ProjectReference Include='" ++ first ++ "' /><ProjectReference Include='" ++ second ++ "' /></P>"

/-- A directory with that manifest. -/
def referringSite (first second : String) : Site where
  tree := .dir [("w", .dir [("App",
    .dir [("App.csproj", .file (referringManifest first second).toUTF8.toList)])])]
  here := ⟨1, ["w"]⟩
  home := ⟨1, ["w"]⟩

/-- The request to open it, where projects are known at a manifest and at the directory itself. -/
def referringRequest : ProjectRequest :=
  ⟨⟨0, ["App", "App.csproj"]⟩, none, none,
    [(⟨1, ["w", "Core", "A"]⟩, ⟨"C"⟩), (⟨1, ["w", "App"]⟩, ⟨"X"⟩)]⟩

theorem load_referringSite (first second : String)
    (h : (Xml.parse (referringManifest first second).toUTF8.toList).toOption.isSome) :
    Manifest.load (referringSite first second) ⟨1, ["w", "App", "App.csproj"]⟩ =
      .ok (rootOf (referringManifest first second)) :=
  load_rootOf rfl h

theorem respelled_of_respelling {t u : String} {cs ds : List Char} (h : Respelling cs ds)
    (ht : Text.trimChars t.toList = cs) (hu : String.ofList ds = u) : Respelled t u :=
  hu ▸ .step (ht ▸ h)

theorem startsInside_cons {c : Char} (hc : isSeparator c = false) (rest : List Char) :
    StartsInside (c :: rest) := by
  intro d hd
  obtain rfl : c = d := by simpa using hd
  exact hc

/-- A target with a detour, with another separator, and with a blank before it. -/
theorem respelled_core : Relation.EqvGen Respelled "..\\Core\\A" " ..\\x\\..\\Core/A" := by
  have hdetour : Respelling (['.', '.', '\\'] ++ ['C', 'o', 'r', 'e', '\\', 'A'])
      (['.', '.', '\\'] ++ ['x'] ++ '\\' :: '.' :: '.' :: '\\' :: ['C', 'o', 'r', 'e', '\\', 'A']) :=
    .detour (.inr ⟨['.', '.'], '\\', rfl, rfl⟩) ⟨by decide, List.forall_mem_singleton.mpr ⟨rfl, rfl⟩, by decide, by decide⟩ rfl rfl
      (startsInside_cons rfl _)
  have hexchange : Respelling (['.', '.', '\\', 'x', '\\', '.', '.', '\\', 'C', 'o', 'r', 'e'] ++ '\\' :: ['A'])
      (['.', '.', '\\', 'x', '\\', '.', '.', '\\', 'C', 'o', 'r', 'e'] ++ '/' :: ['A']) :=
    .exchange rfl rfl (startsInside_cons rfl _)
  have hfirst : Respelled "..\\Core\\A" "..\\x\\..\\Core\\A" :=
    respelled_of_respelling hdetour (by decide) (by decide)
  have hsecond : Respelled "..\\x\\..\\Core\\A" "..\\x\\..\\Core/A" :=
    respelled_of_respelling hexchange (by decide) (by decide)
  have hblank : ∀ c ∈ [' '], Text.isBlank c := List.forall_mem_singleton.mpr rfl
  have hthird : Respelled "..\\x\\..\\Core/A" " ..\\x\\..\\Core/A" := .pad _ hblank nofun
  exact .trans _ _ _ (.rel _ _ hfirst) (.trans _ _ _ (.rel _ _ hsecond) (.rel _ _ hthird))

/-- The first target is spelled otherwise, and the second one is empty in both manifests. -/
theorem load_references_respelled :
    (referringSite "..\\Core\\A" "").here.isAbsolute ∧
      Manifest.load (referringSite "..\\Core\\A" "") ⟨1, ["w", "App", "App.csproj"]⟩ =
        .ok (rootOf (referringManifest "..\\Core\\A" "")) ∧
      (∀ t ∈ includes (rootOf (referringManifest "..\\Core\\A" "")), IsRelative t) ∧
      ∃ p p', (load (referringSite "..\\Core\\A" "") ⟨[], []⟩ referringRequest).outcome = .ok p ∧
        (load (referringSite " ..\\x\\..\\Core/A" "") ⟨[], []⟩ referringRequest).outcome = .ok p' ∧
        p.references = [⟨"C"⟩] ∧ p'.references = p.references := by
  have hwritten : includes (rootOf (referringManifest "..\\Core\\A" "")) = ["..\\Core\\A", ""] := by
    decide +kernel
  have hspelled : includes (rootOf (referringManifest " ..\\x\\..\\Core/A" "")) =
      [" ..\\x\\..\\Core/A", ""] := by
    decide +kernel
  have hpath : (referringSite "..\\Core\\A" "").normalize referringRequest.path =
      ⟨1, ["w", "App", "App.csproj"]⟩ := by decide +kernel
  have hroot := load_referringSite "..\\Core\\A" "" (by decide +kernel)
  have hroot' := load_referringSite " ..\\x\\..\\Core/A" "" (by decide +kernel)
  have hrelative : ∀ t ∈ includes (rootOf (referringManifest "..\\Core\\A" "")), IsRelative t := by
    rw [hwritten]
    have hfirst : IsRelative "..\\Core\\A" :=
      startsInside_cons (c := '.') rfl ['.', '\\', 'C', 'o', 'r', 'e', '\\', 'A']
    exact List.forall_mem_cons.mpr ⟨hfirst, List.forall_mem_singleton.mpr nofun⟩
  obtain ⟨p, hload, hreferences, -, hspell⟩ :=
    load_references ⟨[], []⟩ (by decide : (referringSite "..\\Core\\A" "").here.isAbsolute)
      (hpath ▸ hroot) hrelative
  rw [hpath] at hspell
  have hsame : ∀ directory, List.Forall₂ (SameTarget referringRequest.known directory)
      (includes (rootOf (referringManifest "..\\Core\\A" "")))
      (includes (rootOf (referringManifest " ..\\x\\..\\Core/A" ""))) := by
    intro directory
    rw [hwritten, hspelled]
    exact .cons ⟨respelled_core, .inl (by decide)⟩ (.cons ⟨.refl _, .inl Iff.rfl⟩ .nil)
  obtain ⟨p', hload', heq⟩ :=
    hspell (referringSite " ..\\x\\..\\Core/A" "") ⟨[], []⟩ referringRequest _ (by decide +kernel) rfl
      hroot' (hsame _)
  refine ⟨by decide, hroot, hrelative, p, p', hload, hload', ?_, heq⟩
  rw [hreferences, hpath, hwritten]
  decide +kernel

/-- An empty target with a blank put in its place leads to the directory itself. -/
theorem not_load_references :
    ¬ ∀ (s s' : Site) (rule : ScanRule) (q : ProjectRequest) (path : FilePath) (root root' : Xml.Element),
      s.here.isAbsolute → s.normalize q.path = path → s'.normalize q.path = path →
      Manifest.load s path = .ok root → Manifest.load s' path = .ok root' →
      (∀ t ∈ includes root, IsRelative t) →
      List.Forall₂ (Relation.EqvGen Respelled) (includes root) (includes root') →
      ∀ p p', (load s rule q).outcome = .ok p → (load s' rule q).outcome = .ok p' →
        p'.references = p.references := by
  intro hall
  have hempty : includes (rootOf (referringManifest "" "")) = ["", ""] := by decide +kernel
  have hblank : includes (rootOf (referringManifest " " "")) = [" ", ""] := by decide +kernel
  have hpath : (referringSite "" "").normalize referringRequest.path = ⟨1, ["w", "App", "App.csproj"]⟩ := by
    decide +kernel
  have hpath' : (referringSite " " "").normalize referringRequest.path = ⟨1, ["w", "App", "App.csproj"]⟩ := by
    decide +kernel
  have hroot := load_referringSite "" "" (by decide +kernel)
  have hroot' := load_referringSite " " "" (by decide +kernel)
  have hrelative : ∀ t ∈ includes (rootOf (referringManifest "" "")), IsRelative t := by
    rw [hempty]
    exact List.forall_mem_cons.mpr ⟨nofun, List.forall_mem_singleton.mpr nofun⟩
  have hspelled : List.Forall₂ (Relation.EqvGen Respelled) (includes (rootOf (referringManifest "" "")))
      (includes (rootOf (referringManifest " " ""))) := by
    rw [hempty, hblank]
    have hblank : ∀ c ∈ [' '], Text.isBlank c := List.forall_mem_singleton.mpr rfl
    exact .cons (.rel _ _ (.pad "" hblank nofun)) (.cons (.refl _) .nil)
  have hsame := hall _ _ ⟨[], []⟩ referringRequest _ _ _ (by decide) hpath hpath' hroot hroot' hrelative hspelled
    _ _ (load_outcome _ hpath hroot) (load_outcome _ hpath' hroot')
  exact absurd hsame (by decide +kernel)

end Project

end SolutionSurvey
