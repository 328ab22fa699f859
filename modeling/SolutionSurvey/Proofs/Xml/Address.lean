import SolutionSurvey.Xml.Element
import Mathlib.Data.List.TakeWhile

/-!
# Addresses of elements

An element below another one has an address: the numbers of the children on the way down to it. The
elements below an element in document order are those at its addresses in lexicographic order, so that an
element comes before those inside it, and those before the elements after it.

## Main definitions

* `Xml.Element.at?` — the element at an address.
* `Xml.Element.addresses` — the addresses below an element, with `Xml.Element.pairwise_addresses` and
  `Xml.Element.mem_addresses`.
* `Xml.Element.IsNamed` — the elements of a local name, in a namespace or in none.
* `Xml.Element.descendantsNamed_addresses` — the elements of a local name are those at their addresses.
-/

namespace SolutionSurvey.Xml.Element

/-! ## Addresses -/

/-- The element at an address. -/
def at? : List ℕ → Element → Option Element
  | [], e => some e
  | i :: rest, e => e.children[i]?.bind (at? rest)

mutual

/-- The addresses of the elements below an element, in document order. -/
def addresses : Element → List (List ℕ)
  | mk _ _ _ _ cs => addressesFrom 0 cs

/-- The addresses of children, the first of which has a number, and of the elements below them. -/
def addressesFrom (i : ℕ) : List Element → List (List ℕ)
  | [] => []
  | c :: rest => ([i] :: (addresses c).map (i :: ·)) ++ addressesFrom (i + 1) rest

end

theorem addresses_eq (e : Element) : e.addresses = addressesFrom 0 e.children := by
  obtain ⟨tag, attributes, text, tail, cs⟩ := e
  rw [addresses, children]

/-- An address among children is that of a child or leads below it. -/
theorem mem_addressesFrom {i : ℕ} {cs : List Element} {p : List ℕ} :
    p ∈ addressesFrom i cs ↔
      ∃ k c rest, p = (i + k) :: rest ∧ cs[k]? = some c ∧ (rest = [] ∨ rest ∈ c.addresses) := by
  induction cs generalizing i with
  | nil => simp [addressesFrom]
  | cons c cs ih =>
      rw [addressesFrom, List.mem_append, ih]
      constructor
      · rintro (hfirst | ⟨k, c', rest, rfl, hc', hrest⟩)
        · obtain rfl | hbelow := List.mem_cons.mp hfirst
          · exact ⟨0, c, [], rfl, rfl, .inl rfl⟩
          · obtain ⟨rest, hrest, rfl⟩ := List.mem_map.mp hbelow
            exact ⟨0, c, rest, rfl, rfl, .inr hrest⟩
        · exact ⟨k + 1, c', rest, by rw [Nat.add_right_comm, Nat.add_assoc], hc', hrest⟩
      · rintro ⟨k, c', rest, rfl, hc', hrest⟩
        cases k with
        | zero =>
            obtain rfl : c = c' := by simpa using hc'
            refine .inl ?_
            obtain rfl | hrest := hrest
            · exact List.mem_cons_self
            · exact List.mem_cons_of_mem _ (List.mem_map_of_mem hrest)
        | succ k => exact .inr ⟨k, c', rest, by rw [Nat.add_right_comm, Nat.add_assoc], hc', hrest⟩

/-- The addresses below an element are those that lead to an element other than itself. -/
theorem mem_addresses {e : Element} {p : List ℕ} : p ∈ e.addresses ↔ p ≠ [] ∧ (e.at? p).isSome := by
  induction p generalizing e with
  | nil =>
      refine iff_of_false (fun h => ?_) fun h => h.1 rfl
      rw [addresses_eq, mem_addressesFrom] at h
      obtain ⟨k, c, rest, hp, -⟩ := h
      cases hp
  | cons i p ih =>
      rw [addresses_eq, mem_addressesFrom]
      constructor
      · rintro ⟨k, c, rest, hp, hc, hrest⟩
        obtain ⟨rfl, rfl⟩ := List.cons.inj hp
        rw [Nat.zero_add, at?, hc, Option.bind_some]
        refine ⟨List.cons_ne_nil _ _, ?_⟩
        obtain rfl | hrest := hrest
        · rfl
        · exact (ih.mp hrest).2
      · rintro ⟨-, hsome⟩
        obtain ⟨c, hc⟩ := Option.isSome_iff_exists.mp (Option.isSome_of_isSome_bind hsome)
        rw [at?, hc, Option.bind_some] at hsome
        refine ⟨i, c, p, by rw [Nat.zero_add], hc, ?_⟩
        by_cases hp : p = []
        · exact .inl hp
        · exact .inr (ih.mpr ⟨hp, hsome⟩)

mutual

/-- Addresses come in lexicographic order. -/
theorem pairwise_addresses : (e : Element) → e.addresses.Pairwise (· < ·)
  | mk _ _ _ _ cs => pairwise_addressesFrom 0 cs

theorem pairwise_addressesFrom (i : ℕ) : (cs : List Element) → (addressesFrom i cs).Pairwise (· < ·)
  | [] => List.Pairwise.nil
  | c :: rest => by
      have hbelow := pairwise_addresses c
      have hrest := pairwise_addressesFrom (i + 1) rest
      rw [addressesFrom]
      refine List.pairwise_append.mpr ⟨List.pairwise_cons.mpr ⟨?_, ?_⟩, hrest, ?_⟩
      · intro p hp
        obtain ⟨q, hq, rfl⟩ := List.mem_map.mp hp
        cases q with
        | nil => exact absurd rfl (mem_addresses.mp hq).1
        | cons k q => exact List.cons_lt_cons_self.mpr (List.nil_lt_cons k q)
      · refine List.pairwise_map.mpr (hbelow.imp fun h => ?_)
        exact List.cons_lt_cons_self.mpr h
      · intro p hp q hq
        obtain ⟨k, -, below, rfl, -⟩ := mem_addressesFrom.mp hq
        have hhead : ∃ above, p = i :: above := by
          obtain rfl | hp := List.mem_cons.mp hp
          · exact ⟨[], rfl⟩
          · obtain ⟨above, -, rfl⟩ := List.mem_map.mp hp
            exact ⟨above, rfl⟩
        obtain ⟨above, rfl⟩ := hhead
        exact List.cons_lt_cons_iff.mpr (.inl (by omega))

end

/-- The element at an address among children. -/
def atFrom? (i : ℕ) (cs : List Element) : List ℕ → Option Element
  | [] => none
  | k :: rest => cs[k - i]?.bind (at? rest)

mutual

/-- The elements below an element are those at its addresses. -/
theorem map_at?_addresses : (e : Element) → (e.addresses.map fun p => e.at? p) = e.descendants.map some
  | mk tag attributes text tail cs => by
      have hchildren := map_atFrom?_addressesFrom 0 cs
      rw [addresses, descendants, ← hchildren]
      refine List.map_congr_left fun p hp => ?_
      obtain ⟨k, c, rest, rfl, -⟩ := mem_addressesFrom.mp hp
      rfl

theorem map_atFrom?_addressesFrom (i : ℕ) :
    (cs : List Element) → (addressesFrom i cs).map (atFrom? i cs) = (descendantsOfList cs).map some
  | [] => rfl
  | c :: rest => by
      have hfirst : ([i] :: c.addresses.map (i :: ·)).map (atFrom? i (c :: rest)) =
          (c :: c.descendants).map some := by
        have hbelow := map_at?_addresses c
        rw [List.map_cons, List.map_cons, ← hbelow, List.map_map]
        simp [atFrom?, at?, Function.comp_def]
      have hrest : (addressesFrom (i + 1) rest).map (atFrom? i (c :: rest)) =
          (descendantsOfList rest).map some := by
        rw [← map_atFrom?_addressesFrom (i + 1) rest]
        refine List.map_congr_left fun p hp => ?_
        obtain ⟨k, c', below, rfl, -⟩ := mem_addressesFrom.mp hp
        have hnumber : i + 1 + k - i = k + 1 := by omega
        have hnumber' : i + 1 + k - (i + 1) = k := by omega
        simp [atFrom?, hnumber, hnumber']
      rw [addressesFrom, descendantsOfList, List.map_append, List.map_append, hfirst, hrest]

end

/-! ## Names -/

/-- An element has a local name: its name is that one, or that one in a namespace. -/
def IsNamed (name : String) (e : Element) : Prop :=
  e.tag = name ∨ ∃ space : String, '}' ∉ space.toList ∧ e.tag = "\x7b" ++ space ++ "\x7d" ++ name

theorem localName_of_brace {e : Element} {rest : List Char} (h : e.tag.toList = '{' :: rest) :
    e.localName = String.ofList ((rest.dropWhile (· != '}')).drop 1) := by
  simp only [localName, h]

theorem localName_of_plain {e : Element} (h : e.tag.toList.head? ≠ some '{') : e.localName = e.tag := by
  rw [localName]
  split
  · next hbrace => exact absurd (by rw [hbrace]; rfl) h
  · rfl

/-- A name in a namespace is what follows the first closing brace. -/
theorem drop_dropWhile_eq_iff {rest name : List Char} (hname : name ≠ []) :
    (rest.dropWhile (· != '}')).drop 1 = name ↔ ∃ space, '}' ∉ space ∧ rest = space ++ '}' :: name := by
  constructor
  · rintro rfl
    cases hdrop : rest.dropWhile (· != '}') with
    | nil => rw [hdrop] at hname; exact absurd rfl hname
    | cons c after =>
        obtain rfl : c = '}' := by
          have hhead := List.head?_dropWhile_not (· != '}') rest
          rw [hdrop] at hhead
          simpa using hhead
        refine ⟨rest.takeWhile (· != '}'), fun hmem => ?_, ?_⟩
        · exact absurd (List.mem_takeWhile_imp hmem) (by decide)
        · rw [List.drop_one, List.tail_cons, ← hdrop, List.takeWhile_append_dropWhile]
  · rintro ⟨space, hspace, rfl⟩
    have hall : ∀ c ∈ space, (c != '}') = true := by
      intro c hc
      rw [bne_iff_ne]
      rintro rfl
      exact hspace hc
    rw [List.dropWhile_append_of_pos hall, List.dropWhile_cons_of_neg (by decide)]
    rfl

theorem localName_eq_iff {name : String} (hname : name ≠ "") (hbrace : name.toList.head? ≠ some '{')
    (e : Element) : e.localName = name ↔ e.IsNamed name := by
  have hspaced : (∃ space : String, '}' ∉ space.toList ∧ e.tag = "\x7b" ++ space ++ "\x7d" ++ name) ↔
      ∃ rest, e.tag.toList = '{' :: rest ∧ ∃ space, '}' ∉ space ∧ rest = space ++ '}' :: name.toList := by
    constructor
    · rintro ⟨space, hspace, htag⟩
      exact ⟨space.toList ++ '}' :: name.toList, by simp [htag], space.toList, hspace, rfl⟩
    · rintro ⟨_, htag, space, hspace, rfl⟩
      refine ⟨String.ofList space, by simpa using hspace, ?_⟩
      rw [← String.toList_inj, htag]
      simp
  rw [IsNamed, hspaced]
  by_cases htag : e.tag.toList.head? = some '{'
  · obtain ⟨rest, hrest⟩ := List.head?_eq_some_iff.mp htag
    have hne : e.tag ≠ name := fun h => hbrace (h ▸ htag)
    have hchars : name.toList ≠ [] := by simpa using hname
    rw [localName_of_brace hrest, ← String.toList_inj, String.toList_ofList, drop_dropWhile_eq_iff hchars,
      or_iff_right hne, hrest]
    constructor
    · exact fun hspace => ⟨rest, rfl, hspace⟩
    · rintro ⟨rest', hcons, hspace⟩
      rwa [(List.cons.inj hcons).2]
  · rw [localName_of_plain htag]
    refine (or_iff_left ?_).symm
    rintro ⟨rest, hrest, -⟩
    exact htag (by rw [hrest]; rfl)

/-- **The elements of a local name** below an element are those at their addresses, in lexicographic
order. -/
theorem descendantsNamed_addresses {name : String} (hname : name ≠ "")
    (hbrace : name.toList.head? ≠ some '{') (e : Element) :
    ∃ ps : List (List ℕ), ps.Pairwise (· < ·) ∧
      (∀ p, p ∈ ps ↔ p ≠ [] ∧ ∃ c, e.at? p = some c ∧ c.IsNamed name) ∧
      (ps.map fun p => e.at? p) = (e.descendantsNamed name).map some := by
  let named : Option Element → Bool := fun c => c.any fun c => c.localName == name
  refine ⟨e.addresses.filter fun p => named (e.at? p), e.pairwise_addresses.filter _, fun p => ?_, ?_⟩
  · rw [List.mem_filter, mem_addresses, and_assoc]
    refine and_congr_right fun _ => ?_
    cases e.at? p with
    | none => simp
    | some c => simp [named, localName_eq_iff hname hbrace]
  · have hfilter := List.filter_map (f := fun p => e.at? p) (p := named) (l := e.addresses)
    rw [map_at?_addresses, List.filter_map] at hfilter
    exact hfilter.symm

end SolutionSurvey.Xml.Element
