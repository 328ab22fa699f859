import SolutionSurvey.Proofs.Config.Leaf
import SolutionSurvey.Proofs.Yaml.Sound

/-!
# Settings given by single variables

Where every variable of the program gives one key of a section, the environment says about a key what its
variable holds, and nothing about the keys without a variable.

## Main definitions

* `Leaf.variable_` — the name of the variable that gives a key; `Leaf.given` — what its text gives.
* `Environment.OnlyLeaves` — every variable of the program gives one key.
* `Environment.leaf?` — what the variable of a key holds.
* `Environment.keys_spec` — what such variables say about a section.
* `Environment.entries_spec` — what they say about all sections.
-/

namespace SolutionSurvey

open Value (Distinct)

namespace Leaf

/-- Whether a key has a list. -/
def isList : Leaf → Bool
  | .level | .encoding => false
  | _ => true

/-- The name of the variable that gives a key, in lower case. -/
def variable_ (l : Leaf) : String :=
  Environment.lead ++ l.sectionName ++ "__" ++ l.key

/-- What a variable with a text gives for a key: a list is written as JSON, and anything else as it is. -/
def given (l : Leaf) (text : Wording) : Option Value :=
  if l.isList && text != .plain "" then Json.read? text else some (.ofWording text)

theorem variable_inj {l m : Leaf} (h : l.variable_ = m.variable_) : l = m := by
  have hall : ∀ l ∈ all, ∀ m ∈ all, l.variable_ = m.variable_ → l = m := by decide +kernel
  exact hall l l.mem_all m m.mem_all h

/-- The variables of a section are those that start with its name. -/
theorem prefix_variable_iff {l : Leaf} {s : String × List (String × Shape)} (hs : s ∈ sections) :
    (Environment.lead ++ s.1 ++ "__").toList.isPrefixOf l.variable_.toList ↔ l.sectionName = s.1 := by
  have hall : ∀ l ∈ all, ∀ s ∈ sections.map Prod.fst,
      (Environment.lead ++ s ++ "__").toList.isPrefixOf l.variable_.toList ↔ l.sectionName = s := by
    decide +kernel
  exact hall l l.mem_all s.1 (List.mem_map_of_mem hs)

/-- The rest of the name of a variable is the key. -/
theorem partsOf_variable (l : Leaf) :
    Environment.partsOf [] (l.variable_.toList.drop (Environment.lead ++ l.sectionName ++ "__").length) =
      [l.key] := by
  have hall : ∀ l ∈ all, Environment.partsOf []
      (l.variable_.toList.drop (Environment.lead ++ l.sectionName ++ "__").length) = [l.key] := by
    decide +kernel
  exact hall l l.mem_all

/-- No variable of a key gives a whole section. -/
theorem variable_ne_section {l : Leaf} {s : String × List (String × Shape)} (hs : s ∈ sections) :
    l.variable_ ≠ Environment.lead ++ s.1 := by
  have hall : ∀ l ∈ all, ∀ s ∈ sections.map Prod.fst, l.variable_ ≠ Environment.lead ++ s := by
    decide +kernel
  exact hall l l.mem_all s.1 (List.mem_map_of_mem hs)

/-- The keys of a section and what its variables show about their values. -/
theorem valueOf_lookup {l : Leaf} {s : String × List (String × Shape)} (hs : s ∈ sections)
    (h : l.sectionName = s.1) (text : Wording) :
    Environment.valueOf (s.2.lookup l.key) text = l.given text := by
  simp only [sections, List.mem_cons, List.not_mem_nil, or_false] at hs
  rcases hs with rfl | rfl | rfl <;> cases l <;>
    first | rfl | exact absurd h (by decide)

/-- The keys of a section are found whatever their case, and are spelled in lower case. -/
theorem find?_key {l : Leaf} {s : String × List (String × Shape)} (hs : s ∈ sections)
    (h : l.sectionName = s.1) :
    (s.2.find? fun f => f.1 == Text.lower l.key).map Prod.fst = some l.key := by
  simp only [sections, List.mem_cons, List.not_mem_nil, or_false] at hs
  rcases hs with rfl | rfl | rfl <;> cases l <;>
    first | exact absurd h (by decide) | decide +kernel

end Leaf

namespace Environment

/-! ## Names in lower case -/

/-- One more variable, under its name in lower case. -/
def putLowered (done : Environment) (e : String × Wording) : Environment :=
  if done.any fun d => d.1 == Text.lower e.1 then
    done.map fun d => if d.1 == Text.lower e.1 then (Text.lower e.1, e.2) else d
  else done ++ [(Text.lower e.1, e.2)]

theorem lowered_eq (env : Environment) : env.lowered = env.foldl putLowered [] := rfl

theorem map_fst_putLowered (done : Environment) (e : String × Wording) :
    (putLowered done e).map Prod.fst =
      if Text.lower e.1 ∈ done.map Prod.fst then done.map Prod.fst
      else done.map Prod.fst ++ [Text.lower e.1] := by
  have hany : (done.any fun d => d.1 == Text.lower e.1) = decide (Text.lower e.1 ∈ done.map Prod.fst) := by
    rw [Bool.eq_iff_iff, List.any_eq_true, decide_eq_true_iff, List.mem_map]
    simp only [beq_iff_eq]
  rw [putLowered, hany]
  split
  · next h =>
    rw [if_pos (of_decide_eq_true h), List.map_map]
    refine List.map_congr_left fun d _ => ?_
    rw [Function.comp_apply]
    split
    · next hd => exact (eq_of_beq hd).symm
    · rfl
  · next h =>
    rw [if_neg (fun hmem => h (decide_eq_true hmem)), List.map_append, List.map_singleton]

theorem lookup_cons_eq (e : String × Wording) (rest : Environment) (name : String) :
    List.lookup name (e :: rest) = if e.1 = name then some e.2 else rest.lookup name := by
  rw [List.lookup_cons]
  by_cases he : e.1 = name
  · simp [he]
  · simp [he, beq_false_of_ne (Ne.symm he)]

/-- A new text for the variables of a name is all that changes. -/
theorem lookup_replaced (done : Environment) (known : String) (text : Wording) (name : String) :
    (done.map fun d => if d.1 == known then (known, text) else d).lookup name =
      if known = name then (done.lookup name).map fun _ => text else done.lookup name := by
  induction done with
  | nil => simp
  | cons d rest ih =>
      rw [List.map_cons, lookup_cons_eq, lookup_cons_eq, ih]
      by_cases hd : d.1 = known
      · by_cases hname : known = name <;> simp [hd, hname]
      · by_cases hname : known = name
        · subst hname
          simp [hd]
        · simp [hd, hname]

theorem lookup_putLowered (done : Environment) (e : String × Wording) (name : String) :
    (putLowered done e).lookup name =
      if Text.lower e.1 = name then some e.2 else done.lookup name := by
  rw [putLowered]
  split
  · next hany =>
    rw [lookup_replaced]
    by_cases hname : Text.lower e.1 = name
    · obtain ⟨d, hd, hkey⟩ := List.any_eq_true.mp hany
      have hsome : (done.lookup name).isSome := by
        rw [List.lookup_isSome_iff]
        exact ⟨d, hd, by rw [← hname, eq_of_beq hkey, beq_self_eq_true]⟩
      obtain ⟨text, htext⟩ := Option.isSome_iff_exists.mp hsome
      simp [hname, htext]
    · simp [hname]
  · next hnew =>
    rw [List.lookup_append, lookup_cons_eq]
    by_cases hname : Text.lower e.1 = name
    · have hnone : done.lookup name = none := by
        rw [List.lookup_eq_none_iff]
        intro d hd
        rw [bne_iff_ne]
        exact fun h => hnew (List.any_eq_true.mpr ⟨d, hd, by simp [hname, h]⟩)
      simp [hname, hnone]
    · simp [hname]

/-- The text of the last variable with a name, whatever its case. -/
def named (env : Environment) (name : String) : Option Wording :=
  (env.reverse.find? fun e => Text.lower e.1 == name).map Prod.snd

theorem lookup_lowered (env : Environment) (name : String) : env.lowered.lookup name = env.named name := by
  suffices ∀ done, (env.foldl putLowered done).lookup name = (env.named name).or (done.lookup name) by
    simpa [lowered_eq] using this []
  induction env with
  | nil => exact fun done => rfl
  | cons e rest ih =>
      intro done
      rw [List.foldl_cons, ih, lookup_putLowered, named, named, List.reverse_cons, List.find?_append,
        Option.map_or, Option.or_assoc]
      by_cases he : Text.lower e.1 = name <;> simp [he]

theorem nodup_lowered (env : Environment) : (env.lowered.map Prod.fst).Nodup := by
  suffices ∀ done : Environment, (done.map Prod.fst).Nodup →
      ((env.foldl putLowered done).map Prod.fst).Nodup from this [] List.nodup_nil
  induction env with
  | nil => exact fun done h => h
  | cons e rest ih =>
      intro done h
      refine ih _ ?_
      rw [map_fst_putLowered]
      split
      · exact h
      · next hnew =>
        refine List.nodup_append.mpr ⟨h, List.pairwise_singleton _ _, ?_⟩
        rintro _ ha _ hb rfl
        exact hnew (List.mem_singleton.mp hb ▸ ha)

/-- The names are those of the variables, in lower case. -/
theorem mem_lowered {env : Environment} {name : String} (h : name ∈ env.lowered.map Prod.fst) :
    ∃ e ∈ env, Text.lower e.1 = name := by
  suffices ∀ done : Environment, name ∈ (env.foldl putLowered done).map Prod.fst →
      name ∈ done.map Prod.fst ∨ ∃ e ∈ env, Text.lower e.1 = name from (this [] h).resolve_left (by simp)
  clear h
  induction env with
  | nil => exact fun done h => .inl h
  | cons e rest ih =>
      intro done h
      rcases ih _ h with hput | ⟨d, hd, hname⟩
      · rw [map_fst_putLowered] at hput
        split at hput
        · exact .inl hput
        · rcases List.mem_append.mp hput with hdone | hnew
          · exact .inl hdone
          · exact .inr ⟨e, List.mem_cons_self, (List.mem_singleton.mp hnew).symm⟩
      · exact .inr ⟨d, List.mem_cons_of_mem _ hd, hname⟩

/-! ## Keys of a section -/

/-- What one more variable says about the keys of a section. -/
def addKey (name : String) (fields : List (String × Shape)) (done : Entries) (e : String × Wording) :
    Except Failure Entries :=
  if (lead ++ name ++ "__").toList.isPrefixOf e.1.toList then
    let parts := partsOf [] (e.1.toList.drop (lead ++ name ++ "__").length)
    match valueOf (shapeAt fields parts) e.2 with
    | some v => .ok (putAt v parts done)
    | none => .error (.unreadableVariable name)
  else .ok done

theorem keys_eq (env : Environment) (name : String) (fields : List (String × Shape)) :
    keys env name fields = env.foldlM (addKey name fields) [] := rfl

/-- A variable of a key says something about the section that has the key. -/
theorem addKey_variable {s : String × List (String × Shape)} (hs : s ∈ sections) (l : Leaf) (done : Entries)
    (text : Wording) :
    addKey s.1 s.2 done (l.variable_, text) =
      if l.sectionName = s.1 then
        match l.given text with
        | some v => .ok (Value.put (.text l.key) v done)
        | none => .error (.unreadableVariable s.1)
      else .ok done := by
  rw [addKey]
  by_cases hsection : l.sectionName = s.1
  · rw [if_pos ((Leaf.prefix_variable_iff hs).mpr hsection), if_pos hsection, ← hsection]
    dsimp only
    rw [l.partsOf_variable, shapeAt, Leaf.valueOf_lookup hs hsection]
    rfl
  · rw [if_neg fun h => hsection ((Leaf.prefix_variable_iff hs).mp h), if_neg hsection]

/-- A name that starts with a section starts as the names of the program do. -/
theorem startsWith_lead {name : String} (rest : String) (h : (lead ++ rest).toList.isPrefixOf name.toList) :
    lead.toList.isPrefixOf name.toList := by
  rw [List.isPrefixOf_iff_prefix] at h ⊢
  rw [String.toList_append] at h
  exact (List.prefix_append _ _).trans h

/-- Every variable of the program gives one key. -/
def OnlyLeaves (env : Environment) : Prop :=
  ∀ e ∈ env, lead.toList.isPrefixOf (Text.lower e.1).toList → ∃ l : Leaf, Text.lower e.1 = l.variable_

/-- What the variable of a key holds; of several ones that differ in case only, the last. -/
def leaf? (env : Environment) (l : Leaf) : Option Value :=
  (env.named l.variable_).bind l.given

/-- Entries for keys of a section, without repetition. -/
def Keys (name : String) (entries : Entries) : Prop :=
  Distinct entries ∧ ∀ k ∈ entries.map Prod.fst, ∃ l : Leaf, l.sectionName = name ∧ k = .text l.key

theorem Keys.put {name : String} {entries : Entries} (h : Keys name entries) {l : Leaf}
    (hl : l.sectionName = name) (v : Value) : Keys name (Value.put (.text l.key) v entries) := by
  refine ⟨Value.distinct_put h.1 _ _, ?_⟩
  rw [Value.map_fst_put]
  split
  · exact h.2
  · intro k hk
    rcases List.mem_append.mp hk with hold | hnew
    · exact h.2 k hold
    · exact ⟨l, hl, List.mem_singleton.mp hnew⟩

/-- One more variable gives a key of the section, or says nothing about it. -/
theorem addKey_cases {s : String × List (String × Shape)} (hs : s ∈ sections) {e : String × Wording}
    (honly : lead.toList.isPrefixOf e.1.toList → ∃ l : Leaf, e.1 = l.variable_) {done next : Entries}
    (h : addKey s.1 s.2 done e = .ok next) :
    (∃ (l : Leaf) (v : Value), l.sectionName = s.1 ∧ e.1 = l.variable_ ∧ l.given e.2 = some v ∧
        next = Value.put (.text l.key) v done) ∨
      ((∀ l : Leaf, l.sectionName = s.1 → e.1 ≠ l.variable_) ∧ next = done) := by
  by_cases hsection : ∃ l : Leaf, l.sectionName = s.1 ∧ e.1 = l.variable_
  · obtain ⟨l, hl, he⟩ := hsection
    change addKey s.1 s.2 done (e.1, e.2) = .ok next at h
    rw [he, addKey_variable hs, if_pos hl] at h
    split at h
    · next v hv => exact .inl ⟨l, v, hl, he, hv, (Except.ok.inj h).symm⟩
    · cases h
  · have hnone : ∀ l : Leaf, l.sectionName = s.1 → e.1 ≠ l.variable_ := fun l hl he => hsection ⟨l, hl, he⟩
    refine .inr ⟨hnone, ?_⟩
    rw [addKey] at h
    split at h
    · next hprefix =>
      obtain ⟨l, hl⟩ := honly (startsWith_lead _ (by rwa [String.append_assoc] at hprefix))
      rw [hl, Leaf.prefix_variable_iff hs] at hprefix
      exact absurd hl (hnone l hprefix)
    · exact (Except.ok.inj h).symm

/-- **Variables of single keys give a section these keys**, each with what its variable holds. -/
theorem keys_spec {env : Environment} {s : String × List (String × Shape)} {done ks : Entries}
    (hs : s ∈ sections) (hnames : (env.map Prod.fst).Nodup)
    (honly : ∀ e ∈ env, lead.toList.isPrefixOf e.1.toList → ∃ l : Leaf, e.1 = l.variable_)
    (hdone : Keys s.1 done) (h : env.foldlM (addKey s.1 s.2) done = .ok ks) :
    Keys s.1 ks ∧ ∀ l : Leaf, l.sectionName = s.1 →
      Value.get? (.text l.key) ks =
        ((env.lookup l.variable_).bind l.given).or (Value.get? (.text l.key) done) := by
  induction env generalizing done with
  | nil =>
      cases h
      exact ⟨hdone, fun l _ => rfl⟩
  | cons e rest ih =>
      obtain ⟨hnew, hrest⟩ := List.nodup_cons.mp hnames
      obtain ⟨hfirst, honly⟩ := List.forall_mem_cons.mp honly
      obtain ⟨next, hnext, hlater⟩ := bind_eq_ok.mp h
      rcases addKey_cases hs hfirst hnext with ⟨m, v, hm, he, hv, rfl⟩ | ⟨hnone, rfl⟩
      · obtain ⟨hkeys, hget⟩ := ih hrest honly (hdone.put hm v) hlater
        refine ⟨hkeys, fun l hl => ?_⟩
        rw [hget l hl, Value.get?_put, lookup_cons_eq, he]
        by_cases hlm : m = l
        · subst hlm
          have hlater : rest.lookup m.variable_ = none := by
            rw [List.lookup_eq_none_iff]
            intro d hd
            rw [bne_iff_ne, ← he]
            exact fun heq => hnew (heq ▸ List.mem_map_of_mem hd)
          simp [hlater, hv]
        · have hkey : m.key ≠ l.key := fun h => hlm (Leaf.key_inj (hm.trans hl.symm) h)
          have hname : m.variable_ ≠ l.variable_ := fun h => hlm (Leaf.variable_inj h)
          simp [hkey, hname]
      · obtain ⟨hkeys, hget⟩ := ih hrest honly hdone hlater
        refine ⟨hkeys, fun l hl => ?_⟩
        rw [hget l hl, lookup_cons_eq, if_neg (hnone l hl)]

/-- Keys of a section are spelled as its fields are. -/
theorem Keys.respell_eq {s : String × List (String × Shape)} (hs : s ∈ sections) {entries : Entries}
    (h : Keys s.1 entries) : respell s.2 entries = entries := by
  rw [respell, List.map_congr_left (g := id), List.map_id]
  · exact Value.ofWrites_of_distinct h.1
  · intro e he
    obtain ⟨l, hl, hkey⟩ := h.2 e.1 (List.mem_map_of_mem he)
    obtain ⟨f, hf, hname⟩ := Option.map_eq_some_iff.mp (Leaf.find?_key hs hl)
    simp [hkey, Value.text?, hf, hname, Prod.ext_iff]

/-! ## The environment as a layer -/

/-- What variables of single keys, with names in lower case, say about a section. -/
theorem section?_spec {env : Environment} {s : String × List (String × Shape)} {v : Option Value}
    (hs : s ∈ sections) (hnames : (env.map Prod.fst).Nodup)
    (honly : ∀ e ∈ env, lead.toList.isPrefixOf e.1.toList → ∃ l : Leaf, e.1 = l.variable_)
    (h : section? env s.1 s.2 = .ok v) :
    ∃ ks, v = (if ks.isEmpty then none else some (.map ks)) ∧ Distinct ks ∧
      ∀ l : Leaf, l.sectionName = s.1 →
        Value.get? (.text l.key) ks = (env.lookup l.variable_).bind l.given := by
  have hwhole : env.lookup (lead ++ s.1) = none := by
    rw [List.lookup_eq_none_iff]
    intro e he
    rw [bne_iff_ne]
    intro heq
    obtain ⟨l, hl⟩ := honly e he (startsWith_lead s.1 (by simp [← heq]))
    exact Leaf.variable_ne_section hs (hl.symm.trans heq.symm)
  rw [section?, hwhole] at h
  obtain ⟨ks, hks, hv⟩ := bind_eq_ok.mp h
  obtain ⟨hkeys, hget⟩ := keys_spec hs hnames honly ⟨Value.distinct_nil, by simp⟩ hks
  refine ⟨ks, ?_, hkeys.1, fun l hl => by simpa [Value.get?] using hget l hl⟩
  rw [hkeys.respell_eq hs] at hv
  exact (Except.ok.inj hv).symm

/-- What is said about each section by its name is found at the name. -/
theorem get?_found {ss : List (String × List (String × Shape))} {found : List (Option (Value × Value))}
    {say : String × List (String × Shape) → Except Failure (Option Value)}
    (hnames : (ss.map Prod.fst).Nodup)
    (h : (ss.mapM fun s => do pure ((← say s).map fun v => (Value.text s.1, v))) = .ok found) :
    Distinct (found.filterMap id) ∧
      (∀ e ∈ found.filterMap id, ∃ s ∈ ss, e.1 = .text s.1) ∧
      ∀ s ∈ ss, say s = .ok (Value.get? (.text s.1) (found.filterMap id)) := by
  induction ss generalizing found with
  | nil =>
      cases h
      exact ⟨Value.distinct_nil, nofun, nofun⟩
  | cons s rest ih =>
      obtain ⟨hnew, hrest⟩ := List.nodup_cons.mp hnames
      rw [List.mapM_cons] at h
      obtain ⟨first, hfirst, h⟩ := bind_eq_ok.mp h
      obtain ⟨later, hlater, h⟩ := bind_eq_ok.mp h
      obtain ⟨v, hv, hfirst⟩ := bind_eq_ok.mp hfirst
      cases hfirst
      cases h
      obtain ⟨hdistinct, hkeys, hsay⟩ := ih hrest hlater
      have hnone : Value.get? (.text s.1) (later.filterMap id) = none := by
        rw [Value.get?_eq_none_iff]
        intro e he
        obtain ⟨t, ht, hkey⟩ := hkeys e he
        rw [hkey, Value.sameKey_text, beq_eq_false_iff_ne]
        exact fun heq => hnew (heq ▸ List.mem_map_of_mem ht)
      rcases v with _ | v
      · refine ⟨hdistinct, fun e he => ?_, List.forall_mem_cons.mpr ⟨?_, hsay⟩⟩
        · obtain ⟨t, ht, hkey⟩ := hkeys e he
          exact ⟨t, List.mem_cons_of_mem _ ht, hkey⟩
        · rw [hv]
          exact congrArg _ hnone.symm
      · refine ⟨Value.distinct_cons.mpr ⟨hnone, hdistinct⟩, fun e he => ?_,
          List.forall_mem_cons.mpr ⟨?_, ?_⟩⟩
        · rcases List.mem_cons.mp he with rfl | he
          · exact ⟨s, List.mem_cons_self, rfl⟩
          · obtain ⟨t, ht, hkey⟩ := hkeys e he
            exact ⟨t, List.mem_cons_of_mem _ ht, hkey⟩
        · simp [hv, Value.get?]
        · intro t ht
          have hne : s.1 ≠ t.1 := fun heq => hnew (heq ▸ List.mem_map_of_mem ht)
          simp [hsay t ht, Value.get?, hne]

/-- **Variables of single keys make up a mapping of sections** that holds for each key what its variable
does. -/
theorem entries_spec {env : Environment} (honly : env.OnlyLeaves) {es : Entries}
    (h : env.entries = .ok es) :
    Value.Sectioned es ∧ ∀ l : Leaf, Value.setting? l es = env.leaf? l := by
  have honly : ∀ e ∈ env.lowered, lead.toList.isPrefixOf e.1.toList → ∃ l : Leaf, e.1 = l.variable_ := by
    intro e he hlead
    obtain ⟨d, hd, hname⟩ := mem_lowered (List.mem_map_of_mem he)
    rw [← hname] at hlead ⊢
    exact honly d hd hlead
  obtain ⟨found, hfound, h⟩ := bind_eq_ok.mp h
  cases h
  obtain ⟨hdistinct, -, hsay⟩ := get?_found (by decide) hfound
  refine ⟨⟨hdistinct, fun s hs v hv => ?_⟩, fun l => ?_⟩
  · obtain ⟨ks, hks, hdistinct, -⟩ := section?_spec hs env.nodup_lowered honly (hsay s hs)
    rw [hv] at hks
    split at hks
    · cases hks
    · obtain rfl := Option.some.inj hks
      exact ⟨ks, rfl, hdistinct⟩
  · obtain ⟨s, hs, hname⟩ := l.section_mem
    obtain ⟨ks, hks, -, hget⟩ := section?_spec hs env.nodup_lowered honly (hsay s hs)
    rw [Value.setting?, ← hname, hks, leaf?, ← lookup_lowered, ← hget l hname.symm]
    split
    · next hempty => simp [List.isEmpty_iff.mp hempty, Value.get?]
    · rfl

end Environment

end SolutionSurvey
