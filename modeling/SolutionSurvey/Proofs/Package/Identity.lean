import SolutionSurvey.Package.Identity
import SolutionSurvey.Proofs.Package.Version

/-!
# The identity of a free-form version

The groups of a span are small enough to be the components of a version, so the text of the best span is
always read as the version that its groups write, and what stands before and after it is kept.

## Main definitions

* `Version.tryParse_groups` — the text of groups is the version of what the groups write.
* `PackageIdentity.versionText` — the text in which a span is looked for.
* `PackageIdentity.parse_span` — what is made of free-form version text.
-/

namespace SolutionSurvey

/-! ## The version of a span -/

namespace Version

/-- A group has at most nine digits, and so has what it writes. -/
theorem decimal_lt {g : List Char} (hg : IsGroup g) : decimal g < 10 ^ 9 := by
  have hlt : decimal g < 10 ^ g.length := by
    have hdigits : ∀ d ∈ g.reverse.map (fun c => c.toNat - '0'.toNat), d < 10 := by
      simp only [List.mem_map, List.mem_reverse]
      rintro _ ⟨c, hc, rfl⟩
      have hc := Char.isDigit_iff_toNat.mp (hg.digits c hc)
      have hzero : '0'.toNat = 48 := rfl
      have hnine : '9'.toNat = 57 := rfl
      omega
    simpa [decimal] using Nat.ofDigits_lt_base_pow_length (by omega) hdigits
  exact hlt.trans_le (Nat.pow_le_pow_right (by omega) hg.length_le)

/-- A group is small enough for a component. -/
theorem decimal_le {g : List Char} (hg : IsGroup g) : decimal g ≤ componentMax := by
  have hmax : 10 ^ 9 ≤ componentMax := by decide
  exact (decimal_lt hg).le.trans hmax

theorem isGrouped_intercalate {gs : List (List Char)} (hgroups : ∀ g ∈ gs, IsGroup g)
    (htwo : 2 ≤ gs.length) (hfour : gs.length ≤ 4) : IsGrouped (['.'].intercalate gs) gs :=
  ⟨rfl, fun g hg => ⟨(hgroups g hg).ne_nil, (hgroups g hg).digits⟩, htwo, hfour⟩

/-- The text of groups is the version of what the groups write. -/
theorem tryParse_groups {gs : List (List Char)} (hgroups : ∀ g ∈ gs, IsGroup g)
    (htwo : 2 ≤ gs.length) (hfour : gs.length ≤ 4) :
    tryParse (String.ofList (['.'].intercalate gs)) = .ok (ofComponents? (gs.map decimal)) := by
  have hgrouped : IsGrouped (Text.trimChars (String.ofList (['.'].intercalate gs)).toList) gs := by
    have hjoined := isGrouped_intercalate hgroups htwo hfour
    rwa [String.toList_ofList, Text.trimChars_eq_self hjoined.not_blank]
  have hshort : ∀ g ∈ gs, g.length ≤ digitLimit := by
    intro g hg
    have hnine : 9 ≤ digitLimit := by decide
    exact (hgroups g hg).length_le.trans hnine
  rw [tryParse_of_isGrouped hgrouped hshort, if_pos fun g hg => decimal_le (hgroups g hg)]

end Version

/-! ## The identity of a free-form version -/

namespace PackageIdentity

/-- The text in which a span is looked for: it has no surrounding blanks, and is empty if it is missing. -/
def versionText (raw : Option String) : List Char :=
  Text.trimChars (raw.getD "").toList

theorem make_of_not_blank {name : String} (hname : Text.isBlankText name = false) (version : Version)
    (versionPrefix versionSuffix : String) :
    make (some name) version versionPrefix versionSuffix =
      .ok { name := Text.trim name, version, versionPrefix, versionSuffix } := by
  simp [make, Text.trim_ne_empty_iff.mpr hname]

/-- Nothing is looked for in a text that is missing or blank. -/
theorem versionText_eq_nil {raw : Option String}
    (h : raw = none ∨ ∃ text, raw = some text ∧ Text.isBlankText text = true) :
    versionText raw = [] := by
  rcases h with rfl | ⟨text, rfl, hblank⟩
  · rfl
  · exact Text.trimChars_eq_nil_iff.mpr (List.all_eq_true.mp hblank)

theorem parse_of_no_span {name : String} (hname : Text.isBlankText name = false) {raw : Option String}
    (h : ∀ i j gs, ¬ IsSpan (versionText raw) i j gs) :
    parse (some name) raw =
      .ok { name := Text.trim name, version := .zero, versionPrefix := "", versionSuffix := "" } := by
  have hbest := Span.best?_eq_none_iff.mpr h
  rw [versionText] at hbest
  simp [parse, hbest, make_of_not_blank hname]

theorem parse_of_best {name : String} (hname : Text.isBlankText name = false) {raw : Option String}
    {s : Span} (h : Span.best? (versionText raw) = some s) {v : Version}
    (hv : Version.tryParse (String.ofList (['.'].intercalate s.groups)) = .ok (some v)) :
    parse (some name) raw =
      .ok { name := Text.trim name, version := v,
            versionPrefix := String.ofList ((versionText raw).take s.start),
            versionSuffix := String.ofList ((versionText raw).drop s.stop) } := by
  have htext := (Span.best?_eq_some h).span.text
  rw [versionText] at h htext
  simp [parse, h, versionOf, htext, hv, make_of_not_blank hname, versionText]

/-- **Free-form version text keeps its best span as the version.** A text that is missing, blank or
without a span gives the zero version with nothing around it. Any other text is cut into what stands
before its best span, the span, and what follows it; the version has the numbers of the groups. -/
theorem parse_span (name : String) (hname : Text.isBlankText name = false) (raw : Option String) :
    ((raw = none ∨ (∃ text, raw = some text ∧ Text.isBlankText text = true) ∨
          ∀ i j gs, ¬ IsSpan (versionText raw) i j gs) →
        parse (some name) raw =
          .ok { name := Text.trim name, version := .zero, versionPrefix := "", versionSuffix := "" }) ∧
      ((∃ i j gs, IsSpan (versionText raw) i j gs) →
        ∃ i j gs p, IsBestSpan (versionText raw) i j gs ∧ parse (some name) raw = .ok p ∧
          p.name = Text.trim name ∧
          Version.tryParse (String.ofList (['.'].intercalate gs)) = .ok (some p.version) ∧
          Version.ofComponents? (gs.map Version.decimal) = some p.version ∧
          p.version.components = gs.map Version.decimal ∧
          p.versionPrefix.toList = (versionText raw).take i ∧
          p.versionSuffix.toList = (versionText raw).drop j ∧
          p.versionPrefix.toList ++ ['.'].intercalate gs ++ p.versionSuffix.toList = versionText raw) := by
  constructor
  · intro h
    apply parse_of_no_span hname
    rcases or_assoc.mpr h with hnil | hnone
    · rw [versionText_eq_nil hnil]
      exact Span.best?_eq_none_iff.mp rfl
    · exact hnone
  · rintro ⟨i, j, gs, hspan⟩
    rcases hbest : Span.best? (versionText raw) with _ | s
    · exact absurd hspan (Span.best?_eq_none_iff.mp hbest i j gs)
    · have hs := Span.best?_eq_some hbest
      have htwo : 2 ≤ (s.groups.map Version.decimal).length := by simpa using hs.span.two_le
      have hfour : (s.groups.map Version.decimal).length ≤ 4 := by simpa using hs.span.le_four
      obtain ⟨v, hv, hcomponents⟩ := Version.ofComponents?_of_length htwo hfour
      have hparse := Version.tryParse_groups hs.span.groups hs.span.two_le hs.span.le_four
      rw [hv] at hparse
      refine ⟨s.start, s.stop, s.groups, _, hs, parse_of_best hname hbest hparse, rfl, hparse, hv,
        hcomponents, String.toList_ofList, String.toList_ofList, ?_⟩
      rw [String.toList_ofList, String.toList_ofList]
      exact Span.split_eq hs.span

theorem parse_span_five_groups :
    Text.isBlankText " mylib" = false ∧
      IsSpan (versionText (some "v1.2.3.4.5+6 ")) 3 10 [['2'], ['3'], ['4'], ['5']] ∧
      ∃ i j gs p, IsBestSpan (versionText (some "v1.2.3.4.5+6 ")) i j gs ∧
        parse (some " mylib") (some "v1.2.3.4.5+6 ") = .ok p ∧
        Version.ofComponents? (gs.map Version.decimal) = some p.version := by
  have hname : Text.isBlankText " mylib" = false := by decide
  have hfound : (⟨3, [['2'], ['3'], ['4'], ['5']]⟩ : Span) ∈
      Span.all (versionText (some "v1.2.3.4.5+6 ")) := by decide +kernel
  have hspan := (Span.mem_all_iff.mp hfound).1
  obtain ⟨i, j, gs, p, hbest, hparse, -, -, hversion, -⟩ :=
    (parse_span " mylib" hname (some "v1.2.3.4.5+6 ")).2 ⟨_, _, _, hspan⟩
  exact ⟨hname, hspan, i, j, gs, p, hbest, hparse, hversion⟩

/-- Five groups are one too many: the first of them stays before the version. -/
example :
    (parse (some " mylib") (some "v1.2.3.4.5+6 ")).toOption =
      some { name := "mylib",
             version := { major := some 2, minor := some 3, build := some 4, revision := some 5 },
             versionPrefix := "v1.", versionSuffix := "+6" } := by
  decide +kernel

end PackageIdentity

end SolutionSurvey
