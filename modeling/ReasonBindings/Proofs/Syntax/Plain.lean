import ReasonBindings.Proofs.Syntax.Typing
import ReasonBindings.Proofs.Text.Brackets

/-!
# Plain syntax trees

The bindings of a declaration show its names and the literals of its types next to
parentheses and arrows, which are told apart only if the names and literals have none.
A tree is *plain* when this holds of all names and of the strings that stand for
types, and when no identifier and no tuple type is empty, since these would leave
nothing where a type is expected.

The names that are found in a plain and well-typed tree are plain.
-/

namespace ReasonBindings.Syntax

open Text

/-- What the node itself writes into a type is not empty and has no parentheses and arrows. -/
def Node.isPlain : Node → Bool
  | .text .identifier _ content => content != "" && decide (Plain content)
  | .text .stringLiteral _ content | .text .numericLiteral _ content |
    .text .stringLiteralType _ content => decide (Plain content)
  | .tupleType _ elements => !elements.isEmpty
  | _ => true

/-- The node and every node inside it are plain. -/
def Node.PlainThroughout (node : Node) : Prop :=
  node.isPlain = true ∧ ∀ inner ∈ node.inner, inner.isPlain = true

instance (node : Node) : Decidable node.PlainThroughout :=
  inferInstanceAs (Decidable (_ ∧ ∀ inner ∈ _, _))

/-- The nodes that a plain node consists of are plain. -/
lemma Node.PlainThroughout.child {node child : Node} (h : node.PlainThroughout)
    (hchild : child ∈ node.children) : child.PlainThroughout := by
  refine ⟨h.2 child (mem_inner.mpr ⟨child, hchild, Or.inl rfl⟩), fun inner hinner => ?_⟩
  exact h.2 inner (mem_inner.mpr ⟨child, hchild, Or.inr hinner⟩)

/-- A plain node that is well typed. -/
structure Node.Tidy (node : Node) : Prop where
  wellTyped : node.WellTyped
  plain : node.PlainThroughout

namespace Node.Tidy

variable {node : Node}

/-! ### Attributes -/

/-- The nodes that a tidy node consists of are tidy. -/
lemma child (h : node.Tidy) {child : Node} (hchild : child ∈ node.children) : child.Tidy :=
  ⟨h.wellTyped.child hchild, h.plain.child hchild⟩

/-- The name of a tidy node is tidy. -/
lemma name? (h : node.Tidy) {name : Node} (hname : node.name? = some name) : name.Tidy :=
  h.child (mem_children_of_name? hname)

/-- The type of a tidy node is tidy. -/
lemma type? (h : node.Tidy) {type : Node} (htype : node.type? = some type) : type.Tidy :=
  h.child (mem_children_of_type? htype)

/-- The body of a tidy node is tidy. -/
lemma body? (h : node.Tidy) {body : Node} (hbody : node.body? = some body) : body.Tidy :=
  h.child (mem_children_of_body? hbody)

/-- The parameters of a tidy node are tidy. -/
lemma parameters? (h : node.Tidy) {nodes : List Node} (hnodes : node.parameters? = some nodes) :
    ∀ inner ∈ nodes, inner.Tidy :=
  fun _ hinner => h.child (mem_children_of_mem_parameters? hnodes hinner)

/-- The members of a tidy node are tidy. -/
lemma members? (h : node.Tidy) {nodes : List Node} (hnodes : node.members? = some nodes) :
    ∀ inner ∈ nodes, inner.Tidy :=
  fun _ hinner => h.child (mem_children_of_mem_members? hnodes hinner)

/-- The variables of a tidy node are tidy. -/
lemma declarations? (h : node.Tidy) {nodes : List Node}
    (hnodes : node.declarations? = some nodes) : ∀ inner ∈ nodes, inner.Tidy :=
  fun _ hinner => h.child (mem_children_of_mem_declarations? hnodes hinner)

/-! ### Names -/

/-- A tidy identifier has a plain text, which is not empty. -/
lemma text?_of_isIdentifier (h : node.Tidy) (hname : node.isIdentifier = true) {text : String}
    (htext : node.text? = some text) : Plain text ∧ text ≠ "" := by
  cases node with
  | text kind line content =>
    cases kind with
    | identifier =>
      obtain rfl : content = text := Option.some.inj htext
      have hplain := h.plain.1
      rw [Node.isPlain, Bool.and_eq_true, decide_eq_true_iff, bne_iff_ne] at hplain
      exact hplain.symm
    | _ => cases hname
  | _ => cases hname

/-- The text of a dotted name is plain when those of its sides are. -/
lemma plain_dotted {first second : String} (hfirst : Plain first) (hsecond : Plain second) :
    Plain s!"{first}.{second}" ∧ s!"{first}.{second}" ≠ "" := by
  constructor
  · exact (hfirst.append (by decide)).append hsecond
  · intro hempty
    have hlength := congrArg String.length hempty
    simp [toString] at hlength

/-- The text of a tidy dotted name is plain and not empty. -/
lemma text? (h : node.Tidy) (hname : node.isTypeName = true ∨ node.isNamedValue = true)
    {text : String} (htext : node.text? = some text) : Plain text ∧ text ≠ "" := by
  induction node using Node.text?.induct generalizing text with
  | case1 kind line content =>
    refine h.text?_of_isIdentifier ?_ htext
    cases kind with
    | identifier => rfl
    | _ => rcases hname with hname | hname <;> cases hname
  | case2 line left right first second hsecond hfirst ihleft =>
    have hleft := wellTyped_iff.mp h.wellTyped (isTypeName, left) (by simp [fields])
    have hright := wellTyped_iff.mp h.wellTyped (isIdentifier, right) (by simp [fields])
    have hfirst' := ihleft (h.child List.mem_cons_self) (Or.inl hleft.family) hfirst
    have hsecond' := text?_of_isIdentifier (h.child (by simp [children])) hright.family hsecond
    simp only [Node.text?, hfirst, hsecond] at htext
    obtain rfl := Option.some.inj htext
    exact plain_dotted hfirst'.1 hsecond'.1
  | case4 line left right first second hsecond hfirst ihleft =>
    have hleft := wellTyped_iff.mp h.wellTyped (isNamedValue, left) (by simp [fields])
    have hright := wellTyped_iff.mp h.wellTyped (isIdentifier, right) (by simp [fields])
    have hfirst' := ihleft (h.child List.mem_cons_self) (Or.inr hleft.family) hfirst
    have hsecond' := text?_of_isIdentifier (h.child (by simp [children])) hright.family hsecond
    simp only [Node.text?, hfirst, hsecond] at htext
    obtain rfl := Option.some.inj htext
    exact plain_dotted hfirst'.1 hsecond'.1
  | case3 line left right hmissing | case5 line left right hmissing =>
    rw [Node.text?] at htext
    split at htext
    · rename_i first second hfirst hsecond
      exact absurd hsecond (hmissing first second hfirst)
    · cases htext
  | case6 node htext' hqualified hproperty =>
    rw [Node.text?] at htext
    · cases htext
    all_goals assumption

/-- The text of a tidy dotted name that is asked for is plain. -/
lemma nameText (h : node.Tidy) (hfamily : node.isTypeName = true ∨ node.isNamedValue = true)
    {name : Option String} (hname : node.nameText.outcome = .ok name) :
    ∀ text ∈ name, Plain text := by
  obtain ⟨text, htext, rfl⟩ := Traced.bind_pure_outcome_eq_ok.mp hname
  rintro _ ⟨⟩
  exact (h.text? hfamily (Traced.present_outcome_eq_ok.mp htext)).1

/-- The name that a tidy node stands for is plain. -/
lemma declaredName (h : node.Tidy) {name : Option String}
    (hname : node.declaredName.outcome = .ok name) : ∀ text ∈ name, Plain text := by
  fun_induction Node.declaredName node with
  | case1 | case18 =>
    obtain rfl := Traced.pure_outcome_eq_ok.mp hname
    rintro _ ⟨⟩
  | case2 line expression ih => exact ih (h.child List.mem_cons_self) hname
  | case3 => exact h.nameText (Or.inr rfl) hname
  | case4 => exact h.nameText (Or.inl rfl) hname
  | case5 line content =>
    obtain rfl := Traced.pure_outcome_eq_ok.mp hname
    rintro _ ⟨⟩
    exact (h.text?_of_isIdentifier rfl rfl).1
  | case6 line content | case7 line content =>
    obtain rfl := Traced.pure_outcome_eq_ok.mp hname
    rintro _ ⟨⟩
    exact of_decide_eq_true h.plain.1
  | _ => rename_i ih; exact ih (h.name? rfl) hname

/-- The name of a tidy declaration is plain. -/
lemma requiredName (h : node.Tidy) {name : String}
    (hname : node.requiredName.outcome = .ok name) : Plain name := by
  rw [Node.requiredName] at hname
  obtain ⟨declared, hdeclared, hname⟩ := Traced.bind_outcome_eq_ok.mp hname
  cases declared with
  | some text =>
    obtain rfl := Traced.pure_outcome_eq_ok.mp hname
    exact h.declaredName hdeclared _ rfl
  | none =>
    simp only [Traced.bind_outcome_eq_ok, Traced.pure_outcome_eq_ok] at hname
    obtain ⟨-, -, -, -, rfl⟩ := hname
    decide

end Node.Tidy

end ReasonBindings.Syntax
