import SolutionSurvey.Proofs.Outcome
import SolutionSurvey.Proofs.Syntax.Forest
import SolutionSurvey.Proofs.Syntax.Identifier
import SolutionSurvey.Syntax.Heap
import SolutionSurvey.Syntax.QualifiedName

/-!
# What encloses a declaration

A qualified name lists the types above a declaration, outermost first, and then the declaration. It only
depends on what is a type on the way up, so it is the qualified name of the nearest type with one part more.

## Main definitions

* `NodeView.WellFormed` — a node that has a type and can be probed for its name.
* `NodeView.nameText?`, `NodeView.ownText`, `NodeView.typeNames` — the name of a node, and the parts that it
  and the nodes above it give to a qualified name.
* `NodeView.enclosingNames_eq` — what is collected on the way up.
* `NodeView.qualifiedName_spec` — the qualified name of a node, and how those of two nodes belong together.
-/

namespace SolutionSurvey

/-- A value that is missing or a text. -/
def NoneOrText (v : Value) : Prop :=
  v = .null ∨ ∃ s, v = .text s

theorem textsOf_map_text (place : ℕ) (names : List String) :
    textsOf place (names.map .text) = .ok names := by
  induction names generalizing place with
  | nil => rfl
  | cons name rest ih =>
      rw [List.map_cons, textsOf, ih]
      rfl

namespace NodeView

variable {ν : Type} (view : NodeView ν) (roles : List String)

/-! ## Parts of names -/

/-- The text of a node's type. -/
def typeText (n : ν) : String :=
  match view.type n with
  | .ok (.text s) => s
  | _ => ""

/-- Whether a node declares a type. -/
def isTypeDeclaration (n : ν) : Bool :=
  typeDeclarationTypes.contains (view.typeText n)

/-- The text of a node's identifier, unless there is none or it is empty. -/
def nameText? (n : ν) : Option String :=
  match identifierText view roles n with
  | .ok (.text s) => if s = "" then none else some s
  | _ => none

/-- A node's own part of its qualified name: its name, or its type in angle brackets. -/
def ownText (n : ν) : String :=
  (view.nameText? roles n).getD ("<" ++ view.typeText n ++ ">")

/-- The names of the types among some nodes, where `?` stands for one that is missing. -/
def typeNames (nodes : List ν) : List String :=
  (nodes.filter view.isTypeDeclaration).map fun t => (view.nameText? roles t).getD "?"

/-- A node whose type is a text, whose own identifier is given or missing, and whose identifier token, if it
has one, has a text that can be read or is missing. -/
structure WellFormed (n : ν) : Prop where
  type : ∃ s, view.type n = .ok (.text s)
  identifier : ∀ f, view.identifier n = .error f → f = .attributeMissing
  token : ∀ token, identifier? view roles (some n) = .ok (some token) →
    ∃ v, tokenText view (some token) = .ok v ∧ NoneOrText v

variable {view roles} {n t top : ν} {nodes nodes' above between rest : List ν}

theorem typeNames_append :
    view.typeNames roles (nodes ++ nodes') = view.typeNames roles nodes ++ view.typeNames roles nodes' := by
  rw [typeNames, List.filter_append, List.map_append]
  rfl

theorem typeNames_eq_nil (h : ∀ m ∈ nodes, view.isTypeDeclaration m = false) :
    view.typeNames roles nodes = [] := by
  rw [typeNames, List.filter_eq_nil_iff.mpr fun m hm => Bool.eq_false_iff.mp (h m hm), List.map_nil]

/-- The type nearest to a node comes first among the types above it. -/
theorem typeNames_nearest (hbetween : ∀ m ∈ between, view.isTypeDeclaration m = false)
    (ht : view.isTypeDeclaration t = true) {name : String} (hname : view.nameText? roles t = some name) :
    view.typeNames roles (between ++ t :: rest) = name :: view.typeNames roles rest := by
  rw [typeNames_append, typeNames_eq_nil hbetween, List.nil_append, typeNames, List.filter_cons_of_pos ht,
    List.map_cons, hname, Option.getD_some]
  rfl

namespace WellFormed

theorem type_eq (h : view.WellFormed roles n) : view.type n = .ok (.text (view.typeText n)) := by
  obtain ⟨s, hs⟩ := h.type
  rw [typeText, hs]

/-- The probe of a node always has an outcome, for an identifier that cannot be read counts as none. -/
theorem exists_identifier (h : view.WellFormed roles n) :
    ∃ token?, identifier? view roles (some n) = .ok token? :=
  ⟨_, identifier?_eq_find? h.identifier roles⟩

theorem identifierText_eq (h : view.WellFormed roles n) :
    ∃ v, identifierText view roles n = .ok v ∧ NoneOrText v := by
  obtain ⟨token?, htoken⟩ := h.exists_identifier
  rw [identifierText, htoken]
  cases token? with
  | none => exact ⟨.null, rfl, .inl rfl⟩
  | some token => exact h.token token htoken

/-- A part of a qualified name is the node's name, or the text that stands for a missing one. -/
theorem name_orElse (h : view.WellFormed roles n) (other : String) :
    (identifierText view roles n >>= fun name => orElseValue name (.ok (.text other))) =
      .ok (.text ((view.nameText? roles n).getD other)) := by
  obtain ⟨v, hv, htext⟩ := h.identifierText_eq
  rw [nameText?, hv]
  rcases htext with rfl | ⟨s, rfl⟩
  · rfl
  · by_cases hs : s = ""
    · subst hs
      rfl
    · have htruthy : (Value.text s).truthy = true := bne_iff_ne.mpr hs
      exact bind_eq_ok.mpr ⟨.text s, rfl, by simp [orElseValue, htruthy, hs]⟩

/-- A type gives its name to qualified names, any other node nothing. -/
theorem enclosingPart_eq (h : view.WellFormed roles n) :
    enclosingPart view roles n = .ok ((view.typeNames roles [n]).map .text) := by
  refine bind_eq_ok.mpr ⟨_, h.type_eq, bind_eq_ok.mpr ⟨view.isTypeDeclaration n, rfl, ?_⟩⟩
  cases htype : view.isTypeDeclaration n with
  | false =>
      rw [typeNames, List.filter_cons_of_neg (Bool.eq_false_iff.mp htype)]
      rfl
  | true =>
      obtain ⟨v, hv, hname⟩ := bind_eq_ok.mp (h.name_orElse "?")
      simp only [typeNames, List.filter_cons_of_pos htype]
      exact bind_eq_ok.mpr ⟨v, hv, bind_eq_ok.mpr ⟨_, hname, rfl⟩⟩

theorem ownName_eq (h : view.WellFormed roles n) :
    ownName view roles n = .ok (.text (view.ownText roles n)) := by
  rw [ownName, h.type_eq]
  exact h.name_orElse _

end WellFormed

/-! ## Names -/

/-- The way up collects the types on it, nearest first. -/
theorem enclosingNames_eq {fuel : ℕ} (hway : view.Ascent n above top) (htop : view.parent top = .ok none)
    (hall : ∀ m ∈ above, view.WellFormed roles m) (hfuel : above.length ≤ fuel) :
    enclosingNames view roles fuel n = .ok ((view.typeNames roles above).map .text) := by
  induction hway generalizing fuel with
  | here n =>
      cases fuel with
      | zero => rfl
      | succ fuel => exact bind_eq_ok.mpr ⟨none, htop, rfl⟩
  | @up n p top above hparent _ ih =>
      cases fuel with
      | zero => exact absurd hfuel (by simp)
      | succ fuel =>
          have hpart := (hall p List.mem_cons_self).enclosingPart_eq
          have habove := ih htop (fun m hm => hall m (List.mem_cons_of_mem _ hm))
            (Nat.le_of_succ_le_succ hfuel)
          refine bind_eq_ok.mpr ⟨some p, hparent, bind_eq_ok.mpr ⟨_, hpart, bind_eq_ok.mpr ⟨_, habove, ?_⟩⟩⟩
          rw [← List.map_append, ← typeNames_append]
          rfl

/-- The parts that were collected are joined outermost first. -/
theorem qualifiedName_of_enclosingNames {fuel : ℕ} {names : List String} (hn : view.WellFormed roles n)
    (hnames : enclosingNames view roles fuel n = .ok (names.map .text)) :
    qualifiedName view roles fuel n = .ok (".".intercalate (names.reverse ++ [view.ownText roles n])) := by
  have htexts := textsOf_map_text 0 (names.reverse ++ [view.ownText roles n])
  rw [List.map_append, List.map_reverse] at htexts
  exact bind_eq_ok.mpr ⟨_, hnames, bind_eq_ok.mpr ⟨_, hn.ownName_eq, bind_eq_ok.mpr ⟨_, htexts, rfl⟩⟩⟩

theorem qualifiedName_eq {fuel : ℕ} (hway : view.Ascent n above top) (htop : view.parent top = .ok none)
    (hall : ∀ m ∈ n :: above, view.WellFormed roles m) (hfuel : above.length ≤ fuel) :
    qualifiedName view roles fuel n =
      .ok (".".intercalate ((view.typeNames roles above).reverse ++ [view.ownText roles n])) :=
  qualifiedName_of_enclosingNames (hall n List.mem_cons_self)
    (enclosingNames_eq hway htop (fun m hm => hall m (List.mem_cons_of_mem _ hm)) hfuel)

/-- **Qualified names are made part by part.** The qualified name of a node lists the types above it,
outermost first, and then the node. Without a type above it is the node's own part; otherwise it is the
qualified name of the nearest type, if that has a name, followed by the node's own part. -/
theorem qualifiedName_spec {fuel : ℕ} (hway : view.Ascent n above top) (htop : view.parent top = .ok none)
    (hall : ∀ m ∈ n :: above, view.WellFormed roles m) (hfuel : above.length ≤ fuel) :
    qualifiedName view roles fuel n =
        .ok (".".intercalate ((view.typeNames roles above).reverse ++ [view.ownText roles n])) ∧
      ((∀ m ∈ above, view.isTypeDeclaration m = false) →
        qualifiedName view roles fuel n = .ok (view.ownText roles n)) ∧
      (∀ between t rest, above = between ++ t :: rest →
        (∀ m ∈ between, view.isTypeDeclaration m = false) → view.isTypeDeclaration t = true →
        (view.nameText? roles t).isSome →
        ∃ outer, qualifiedName view roles fuel t = .ok outer ∧
          qualifiedName view roles fuel n = .ok (outer ++ "." ++ view.ownText roles n)) := by
  have hname := qualifiedName_eq hway htop hall hfuel
  refine ⟨hname, fun hnone => ?_, ?_⟩
  · rw [hname, typeNames_eq_nil hnone, List.reverse_nil, List.nil_append, String.intercalate_singleton]
  · rintro between t rest rfl hbetween ht hsome
    obtain ⟨name, htname⟩ := Option.isSome_iff_exists.mp hsome
    have hlength : rest.length ≤ fuel := by
      rw [List.length_append, List.length_cons] at hfuel
      omega
    have hallT : ∀ m ∈ t :: rest, view.WellFormed roles m := fun m hm =>
      hall m (List.mem_cons_of_mem _ (List.mem_append_right _ hm))
    refine ⟨_, qualifiedName_eq hway.split.2 htop hallT hlength, ?_⟩
    have hown : view.ownText roles t = name := by rw [ownText, htname, Option.getD_some]
    rw [hname, typeNames_nearest hbetween ht htname, List.reverse_cons, hown,
      String.intercalate_append_of_ne_nil (by simp) (List.cons_ne_nil _ _), String.intercalate_singleton]

/-- An operator in a class that has a name, in a namespace, in a class that has none. -/
def nestedHeap : NodeHeap :=
  let node (type : String) (parent : Thing) : HeapNode :=
    { type := some (.text type), parent := some parent }
  ⟨#[node "compilation_unit" (.value .null),
    node "class_declaration" (.node 0),
    node "namespace_declaration" (.node 1),
    { node "class_declaration" (.node 2) with role := .table [("name", .node 6)] },
    node "declaration_list" (.node 3),
    node "operator_declaration" (.node 4),
    { node "identifier" (.node 3) with text := some (.bytes [83, 116, 97, 99, 107]) }]⟩

theorem qualifiedName_spec_nestedHeap :
    let view := nestedHeap.view
    let above : List Thing := [.node 4, .node 3, .node 2, .node 1, .node 0]
    view.Ascent (.node 5) above (.node 0) ∧ (∀ m ∈ .node 5 :: above, view.WellFormed defaultRoles m) ∧
      qualifiedName view defaultRoles 5 (.node 5) = .ok "?.Stack.<operator_declaration>" ∧
      ∃ outer, qualifiedName view defaultRoles 5 (.node 3) = .ok outer ∧
        qualifiedName view defaultRoles 5 (.node 5) = .ok (outer ++ "." ++ "<operator_declaration>") := by
  intro view above
  have hway : view.Ascent (.node 5) above (.node 0) :=
    .up rfl (.up rfl (.up rfl (.up rfl (.up rfl (.here _)))))
  have hall : ∀ m ∈ .node 5 :: above, view.WellFormed defaultRoles m := by
    intro m hm
    simp only [above, List.mem_cons, List.not_mem_nil, or_false] at hm
    constructor
    case type => rcases hm with rfl | rfl | rfl | rfl | rfl | rfl <;> exact ⟨_, rfl⟩
    case identifier =>
      intro f hf
      rcases hm with rfl | rfl | rfl | rfl | rfl | rfl <;> cases hf <;> rfl
    case token =>
      -- only the inner class has an identifier token
      intro token htoken
      rcases hm with rfl | rfl | rfl | rfl | rfl | rfl <;> cases htoken
      exact ⟨.text "Stack", rfl, .inr ⟨_, rfl⟩⟩
  have hfuel : above.length ≤ 5 := Nat.le_refl 5
  obtain ⟨hname, -, hnearest⟩ := qualifiedName_spec hway rfl hall hfuel
  exact ⟨hway, hall, hname.trans rfl,
    hnearest [.node 4] (.node 3) _ rfl (List.forall_mem_singleton.mpr rfl) rfl rfl⟩

end NodeView

end SolutionSurvey
