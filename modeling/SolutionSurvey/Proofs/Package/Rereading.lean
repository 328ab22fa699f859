import SolutionSurvey.Proofs.Package.Identity
import SolutionSurvey.Proofs.Package.Surroundings

/-!
# Reading what was read

The version of an identity is written without leading zeros, which may make its groups shorter but not fewer.
What stands around them makes them the best span again, so that prefix, version and suffix written one after the
other are read as the same identity. A text that is a version as a whole is its own best span, so that it gives the
same identity whether it is read as a version or as free-form text.

## Main definitions

* `Version.isGroup_numerals` — the components of a span are written as groups.
* `PackageIdentity.parse_reread` — an identity is read back from what it was cut into.
* `PackageIdentity.parse_eq_ofVersion` — a plain version gives one identity in both ways.
-/

namespace SolutionSurvey

namespace Version

theorem IsGrouped.isGroup {cs : List Char} {gs : List (List Char)} (h : IsGrouped cs gs)
    (hnine : ∀ g ∈ gs, g.length ≤ 9) : ∀ g ∈ gs, IsGroup g :=
  fun g hg => ⟨(h.digits g hg).1, hnine g hg, (h.digits g hg).2⟩

theorem isGroup_toString {n : Nat} (h : n < 10 ^ 9) : IsGroup (toString n).toList :=
  ⟨(digits_toString n).1, length_toString_le (by decide) h, (digits_toString n).2⟩

/-- The components that groups write are written as groups again. -/
theorem isGroup_numerals {v : Version} {gs : List (List Char)} (hgroups : ∀ g ∈ gs, IsGroup g)
    (hv : v.components = gs.map decimal) : ∀ g ∈ v.numerals, IsGroup g := by
  rw [numerals, hv, List.map_map]
  exact List.forall_mem_map.mpr fun g hg => isGroup_toString (decimal_lt (hgroups g hg))

theorem length_numerals {v : Version} {gs : List (List Char)} (hv : v.components = gs.map decimal) :
    v.numerals.length = gs.length := by
  rw [numerals, hv, List.length_map, List.length_map]

/-- Where no run of digits has more than nine, a version is read exactly from groups. -/
theorem tryParse_eq_some_iff_of_runsWithin {text : String} {v : Version} (hruns : RunsWithin 9 text.toList) :
    tryParse text = .ok (some v) ↔
      ∃ gs, IsGrouped (Text.trimChars text.toList) gs ∧ (∀ g ∈ gs, IsGroup g) ∧
        ofComponents? (gs.map decimal) = some v := by
  constructor
  · intro h
    obtain ⟨hproper, gs, hgs, -, hcomponents⟩ := tryParse_eq_some_iff.mp h
    refine ⟨gs, hgs.grouped, hgs.grouped.isGroup (hruns.length_le hgs.grouped), ?_⟩
    rw [← hcomponents, ofComponents?_components hproper]
  · rintro ⟨gs, hgrouped, hgroups, hv⟩
    have hnine : 9 ≤ digitLimit := by decide
    have hshort : ∀ g ∈ gs, g.length ≤ digitLimit := fun g hg => (hgroups g hg).length_le.trans hnine
    rw [tryParse_of_isGrouped hgrouped hshort, if_pos fun g hg => decimal_le (hgroups g hg), hv]

end Version

namespace PackageIdentity

/-! ## Settled groups -/

/-- Groups that are settled by what stands around them are the version, and what stands around them is the prefix
and the suffix. -/
theorem parse_of_settles {name : String} (hname : Text.isBlankText name = false) {raw : Option String}
    {lead trail : List Char} {gs : List (List Char)} {v : Version}
    (htext : versionText raw = lead ++ ['.'].intercalate gs ++ trail) (hfits : Span.Fits lead gs trail)
    (hsettles : Span.Settles lead trail gs.length) (hv : Version.ofComponents? (gs.map Version.decimal) = some v) :
    parse (some name) raw =
      .ok { name := Text.trim name, version := v, versionPrefix := String.ofList lead,
            versionSuffix := String.ofList trail } := by
  have hbest : Span.best? (versionText raw) = some ⟨lead.length, gs⟩ := by
    rw [htext]
    exact Span.best?_of_settles hfits hsettles
  have hread := Version.tryParse_groups hfits.groups hfits.two_le hfits.le_four
  rw [hv] at hread
  have hlead : (versionText raw).take lead.length = lead := by
    rw [htext, List.append_assoc, List.take_left]
  have htrail : (versionText raw).drop (Span.stop ⟨lead.length, gs⟩) = trail := by
    rw [htext, Span.stop_mk, ← List.length_append, List.drop_left]
  rw [parse_of_best hname hbest hread, hlead, htrail]

/-- The version that is written between the prefix and the suffix has the text of its groups in its place. -/
theorem versionText_written {lead trail : List Char} {gs : List (List Char)} {v : Version}
    (htrimmed : Text.IsTrimmed (lead ++ ['.'].intercalate gs ++ trail)) (hv : v.Proper) :
    versionText (some (String.ofList lead ++ v.toText ++ String.ofList trail)) =
      lead ++ ['.'].intercalate v.numerals ++ trail := by
  have hgrouped := Version.isGrouped_toText hv
  have hwritten := htrimmed.replace hgrouped.ne_nil hgrouped.not_blank
  rw [Version.toList_toText] at hwritten
  rw [versionText, Option.getD_some, String.toList_append, String.toList_append, String.toList_ofList,
    String.toList_ofList, Version.toList_toText, Text.trimChars_of_isTrimmed hwritten]

/-- **An identity is read back from what it was cut into.** Prefix, version and suffix, written one after the
other, are read as the identity that they belong to, whatever text it was read from. -/
theorem parse_reread (name : String) (hname : Text.isBlankText name = false) (raw : Option String) :
    ∃ p, parse (some name) raw = .ok p ∧
      parse (some p.name) (some (p.versionPrefix ++ p.version.toText ++ p.versionSuffix)) = .ok p := by
  have hagain := Text.isBlankText_trim hname
  cases hbest : Span.best? (versionText raw) with
  | none =>
      refine ⟨_, parse_of_no_span hname (Span.best?_eq_none_iff.mp hbest), ?_⟩
      have hgroup : IsGroup ['0'] := ⟨by decide, by decide, by simp⟩
      have hfits : Span.Fits [] [['0'], ['0']] [] := ⟨by simp [hgroup], by simp, by simp, rfl, rfl⟩
      have htext : versionText (some ("" ++ Version.zero.toText ++ "")) =
          [] ++ ['.'].intercalate [['0'], ['0']] ++ [] := by decide
      have hread := parse_of_settles hagain htext hfits (Span.settles_nil 2) rfl
      rwa [Text.trim_trim] at hread
  | some s =>
      obtain ⟨lead, trail, htext, hfits, hsettles⟩ := Span.exists_settles hbest
      obtain ⟨v, hv⟩ :=
        (Version.isGrouped_intercalate hfits.groups hfits.two_le hfits.le_four).exists_version
      obtain ⟨hproper, hcomponents⟩ := Version.proper_of_ofComponents? hv
        (List.forall_mem_map.mpr fun g hg => Version.decimal_le (hfits.groups g hg))
      refine ⟨_, parse_of_settles hname htext hfits hsettles hv, ?_⟩
      have hlength := Version.length_numerals hcomponents
      have htrimmed : Text.IsTrimmed (lead ++ ['.'].intercalate s.groups ++ trail) :=
        htext ▸ Text.isTrimmed_trimChars _
      have hfits' : Span.Fits lead v.numerals trail :=
        ⟨Version.isGroup_numerals hfits.groups hcomponents, hlength ▸ hfits.two_le, hlength ▸ hfits.le_four,
          hfits.before, hfits.after⟩
      have hv' : Version.ofComponents? (v.numerals.map Version.decimal) = some v := by
        rw [Version.map_decimal_numerals, Version.ofComponents?_components hproper]
      rw [parse_of_settles hagain (versionText_written htrimmed hproper) hfits' (hlength ▸ hsettles) hv',
        Text.trim_trim]

theorem parse_reread_leadingZeros :
    Text.isBlankText " mylib" = false ∧
      ∃ p, parse (some " mylib") (some " v1234567890.007.08-x.9. ") = .ok p ∧
        parse (some p.name) (some (p.versionPrefix ++ p.version.toText ++ p.versionSuffix)) = .ok p := by
  have hname : Text.isBlankText " mylib" = false := by decide
  exact ⟨hname, parse_reread " mylib" hname (some " v1234567890.007.08-x.9. ")⟩

/-- A run of ten digits is no group, and neither is a group between letters and a point a span. -/
example :
    (parse (some " mylib") (some " v1234567890.007.08-x.9. ")).toOption =
      some { name := "mylib", version := { major := some 7, minor := some 8 },
             versionPrefix := "v1234567890.", versionSuffix := "-x.9." } := by
  decide +kernel

/-! ## Plain versions -/

/-- The best span is the whole text exactly if the text is groups. -/
theorem best?_whole_iff {cs : List Char} :
    (∃ s, Span.best? cs = some s ∧ s.start = 0 ∧ s.stop = cs.length) ↔
      ∃ gs, Version.IsGrouped cs gs ∧ ∀ g ∈ gs, IsGroup g := by
  constructor
  · rintro ⟨s, hbest, hstart, hstop⟩
    have hspan := (Span.best?_eq_some hbest).span
    have htext := hspan.text
    rw [hstart, hstop, Nat.sub_zero, List.drop_zero, List.take_length] at htext
    have hgrouped := Version.isGrouped_intercalate hspan.groups hspan.two_le hspan.le_four
    exact ⟨s.groups, htext ▸ hgrouped, hspan.groups⟩
  · rintro ⟨gs, hgrouped, hgroups⟩
    have hfits : Span.Fits [] gs [] := ⟨hgroups, hgrouped.two_le, hgrouped.le_four, rfl, rfl⟩
    have hbest := Span.best?_of_settles hfits (Span.settles_nil gs.length)
    rw [List.nil_append, List.append_nil, ← hgrouped.text] at hbest
    refine ⟨_, hbest, rfl, ?_⟩
    rw [Span.stop_mk, ← hgrouped.text]
    exact Nat.zero_add _

/-- **A plain version gives one identity in both ways.** Where no run of digits has more than nine, a text is read
as a version exactly if the span found in it is the whole text without the blanks around it; then the identity that
is read from the text is the one that is made from the version, with nothing around it. Any other text gives no
version, without a fault. -/
theorem parse_eq_ofVersion (name : String) (hname : Text.isBlankText name = false) (text : String)
    (hruns : Version.RunsWithin 9 text.toList) :
    ((∃ v, Version.tryParse text = .ok (some v)) ↔
        ∃ s, Span.best? (versionText (some text)) = some s ∧ s.start = 0 ∧
          s.stop = (versionText (some text)).length) ∧
      (∀ v, Version.tryParse text = .ok (some v) →
        parse (some name) (some text) =
            .ok { name := Text.trim name, version := v, versionPrefix := "", versionSuffix := "" } ∧
          ofVersion (some name) (some v) =
            .ok { name := Text.trim name, version := v, versionPrefix := "", versionSuffix := "" }) ∧
      ((¬ ∃ v, Version.tryParse text = .ok (some v)) → Version.tryParse text = .ok none) := by
  have hread {v : Version} := Version.tryParse_eq_some_iff_of_runsWithin (v := v) hruns
  have hwhole : (∃ v, Version.tryParse text = .ok (some v)) ↔
      ∃ gs, Version.IsGrouped (versionText (some text)) gs ∧ ∀ g ∈ gs, IsGroup g := by
    constructor
    · rintro ⟨v, hv⟩
      obtain ⟨gs, hgrouped, hgroups, -⟩ := hread.mp hv
      exact ⟨gs, hgrouped, hgroups⟩
    · rintro ⟨gs, hgrouped, hgroups⟩
      obtain ⟨v, hv⟩ := hgrouped.exists_version
      exact ⟨v, hread.mpr ⟨gs, hgrouped, hgroups, hv⟩⟩
  refine ⟨hwhole.trans best?_whole_iff.symm, fun v hv => ⟨?_, make_of_not_blank hname v "" ""⟩, fun hnone => ?_⟩
  · obtain ⟨gs, hgrouped, hgroups, hversion⟩ := hread.mp hv
    have htext : versionText (some text) = [] ++ ['.'].intercalate gs ++ [] := by
      rw [List.nil_append, List.append_nil]
      exact hgrouped.text
    have hfits : Span.Fits [] gs [] := ⟨hgroups, hgrouped.two_le, hgrouped.le_four, rfl, rfl⟩
    exact parse_of_settles hname htext hfits (Span.settles_nil gs.length) hversion
  · refine Version.tryParse_of_not_isGrouped fun gs hgrouped => hnone (hwhole.mpr ⟨gs, hgrouped, ?_⟩)
    exact hgrouped.isGroup (hruns.length_le hgrouped)

theorem parse_eq_ofVersion_padded :
    Text.isBlankText " Dapper" = false ∧ Version.RunsWithin 9 "\t1.020.3\n".toList ∧
      ∃ v, Version.tryParse "\t1.020.3\n" = .ok (some v) ∧
        parse (some " Dapper") (some "\t1.020.3\n") =
          .ok { name := "Dapper", version := v, versionPrefix := "", versionSuffix := "" } ∧
        ofVersion (some " Dapper") (some v) =
          .ok { name := "Dapper", version := v, versionPrefix := "", versionSuffix := "" } := by
  have hname : Text.isBlankText " Dapper" = false := by decide
  have hruns : Version.RunsWithin 9 "\t1.020.3\n".toList := by
    intro run hrun _
    have hlength : "\t1.020.3\n".toList.length ≤ 9 := by decide
    exact hrun.length_le.trans hlength
  obtain ⟨hiff, hboth, -⟩ := parse_eq_ofVersion " Dapper" hname "\t1.020.3\n" hruns
  obtain ⟨v, hv⟩ := hiff.mpr ⟨⟨0, [['1'], ['0', '2', '0'], ['3']]⟩, by decide +kernel, rfl, by decide +kernel⟩
  exact ⟨hname, hruns, v, hv, hboth v hv⟩

/-- One more digit makes the difference: the text still is a version, but no span is in it. -/
example :
    (Version.tryParse "1.0000000002").toOption = some (some { major := some 1, minor := some 2 }) ∧
      (parse (some "Dapper") (some "1.0000000002")).toOption = some { name := "Dapper" } := by
  decide +kernel

end PackageIdentity

end SolutionSurvey
