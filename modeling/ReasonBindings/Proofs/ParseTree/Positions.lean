import ReasonBindings.Proofs.ParseTree.Surface

/-!
# Positions in a parse tree

The root of a tree is read for its statements, and from there each node says which of its children
it reads in which positions: in one of those in which a node has a reading, or for the names in
it.  `Position.inside` says so for every kind of nodes.  A child may be read in several positions,
and in none, such as the body of a function.

Two nodes *agree* in a position when what is read of them there is the same but for notices.  A
node agrees with itself after its children were replaced by ones that agree with them in the
positions that they are read in, whatever these are in the positions that they are not read in.
-/

namespace ReasonBindings

open Syntax

/-! ### Positions -/

/-- What a node is read for: one of the positions in which it has a reading, or the names in it. -/
inductive Position where
  | type
  | annotation
  | types
  | arms
  | statement
  | statements
  | member
  | classMember
  | members
  | classMembers
  | parameter
  | parameters
  | heritageType
  | heritageTypes
  | extendedTypes
  | classHeritage
  | variableDecl
  /-- The names of the type parameters that a node lists. -/
  | typeParameters
  /-- The names of the members that the body of an enumeration lists. -/
  | enumBody
  /-- The name that a node is, or a parameter with that pattern. -/
  | name
deriving DecidableEq

namespace Position

/-- What the body of a declaration is read for. -/
def ofBody (kind : String) : Option Position :=
  match kind with
  | "internal_module" | "module" => some .statements
  | "interface_declaration" => some .members
  | "class_declaration" | "abstract_class_declaration" | "class" => some .classMembers
  | "enum_declaration" => some .enumBody
  | _ => none

/-- What a node of the given kind reads the child in a field for. -/
def ofField (kind field : String) : Option Position :=
  match field with
  | "name" | "pattern" => some .name
  | "type_parameters" => some .typeParameters
  | "parameters" => some .parameters
  | "type_arguments" => some .types
  | "type" => some Position.annotation
  | "return_type" => some (if kind = "function_type" then .type else Position.annotation)
  | "value" => if kind = "type_alias_declaration" then some .type else none
  | "index_type" => some .type
  | "body" => ofBody kind
  | _ => none

/-- The positions of a child of which nothing but its field matters. -/
def inField (kind : String) (child : Tree) : List Position :=
  (child.field.bind (ofField kind)).toList

/-- The positions of a child of a type. -/
def inType (kind : String) (child : Tree) : List Position :=
  match kind with
  | "array_type" | "tuple_type" | "parenthesized_type" | "readonly_type" => [.type]
  | "union_type" => [if child.kind = "union_type" then .arms else .type]
  | "object_type" => [.member]
  | "generic_type" | "function_type" => inField kind child
  | _ => []

/-- The positions of a child of an interface or a class, whose heritage is of the given kind. -/
def inDeclaration (heritageKind : String) (heritage : Position) (kind : String) (child : Tree) :
    List Position :=
  (if child.kind = heritageKind then [heritage] else []) ++ inField kind child

/-- The positions of a child of a statement. -/
def inStatement (kind : String) (child : Tree) : List Position :=
  match kind with
  | "ambient_declaration" | "export_statement" | "expression_statement" | "statement_block" =>
    [.statement]
  | "interface_declaration" => inDeclaration "extends_type_clause" .heritageTypes kind child
  | "class_declaration" | "abstract_class_declaration" | "class" =>
    inDeclaration "class_heritage" .classHeritage kind child
  | "lexical_declaration" | "variable_declaration" => [.variableDecl]
  | "internal_module" | "module" | "type_alias_declaration" | "function_signature"
  | "function_declaration" | "enum_declaration" => inField kind child
  | _ => []

/-- The positions of a clause in the heritage of a class. -/
def inClassHeritage (clause : Tree) : List Position :=
  match clause.kind with
  | "extends_clause" => [.extendedTypes]
  | "implements_clause" => [.heritageTypes]
  | _ => []

/-- The positions that a child is read in by a node of the given kind that is itself read in the
given position. -/
def inside (kind : String) (child : Tree) : Position → List Position
  | type => inType kind child
  | annotation => if Reading.isAnnotation kind then [.type] else inType kind child
  | types => [.type]
  | arms => [if child.kind = "union_type" then .arms else .type]
  | statement => inStatement kind child
  | statements => [.statement]
  | member | classMember | parameter | heritageType | variableDecl => inField kind child
  | members => [.member]
  | classMembers => [.classMember]
  | parameters => [.parameter]
  | heritageTypes => [.heritageType]
  | extendedTypes => if child.kind = "type_arguments" then [.types] else []
  | classHeritage => inClassHeritage child
  | typeParameters | enumBody => [.name]
  | name => []

end Position

namespace Tree

/-! ### Agreement -/

/-- In one of the positions that a node can stand in, the two trees end in the same. -/
def SameOutcome {α : Type} (source : ByteArray) (view : Reading → Traced α) (tree tree' : Tree) :
    Prop :=
  (view (tree'.reading source)).outcome = (view (tree.reading source)).outcome

end Tree

/-- Two trees cannot be told apart by what is read of them in a position, but for notices. -/
def Position.Agree (source : ByteArray) : Position → Tree → Tree → Prop
  | type => Tree.SameOutcome source Reading.type
  | annotation => Tree.SameOutcome source Reading.annotation
  | types => Tree.SameOutcome source Reading.types
  | arms => Tree.SameOutcome source Reading.arms
  | statement => Tree.SameOutcome source Reading.statement
  | statements => Tree.SameOutcome source Reading.statements
  | member => Tree.SameOutcome source Reading.member
  | classMember => Tree.SameOutcome source Reading.classMember
  | members => Tree.SameOutcome source Reading.members
  | classMembers => Tree.SameOutcome source Reading.classMembers
  | parameter => Tree.SameOutcome source Reading.parameter
  | parameters => Tree.SameOutcome source Reading.parameters
  | heritageType => Tree.SameOutcome source Reading.heritageType
  | heritageTypes => Tree.SameOutcome source Reading.heritageTypes
  | extendedTypes => Tree.SameOutcome source Reading.extendedTypes
  | classHeritage => Tree.SameOutcome source Reading.classHeritage
  | variableDecl => Tree.SameOutcome source Reading.variableDecl
  | typeParameters => fun tree tree' => tree'.typeParameters source = tree.typeParameters source
  | enumBody => fun tree tree' => tree'.enumMembers source = tree.enumMembers source
  | name => fun tree tree' => tree'.surface = tree.surface

/-- A tree agrees with itself. -/
lemma Position.Agree.refl (source : ByteArray) (position : Position) (tree : Tree) :
    position.Agree source tree tree := by
  cases position <;> rfl

namespace Reading

/-- The second node is the first one with other children, and the two agree in the given
positions. -/
structure StandsFor (source : ByteArray) (positions : Tree → List Position) (tree tree' : Tree) :
    Prop where
  alone : tree'.alone = tree.alone
  agree : ∀ position ∈ positions tree, position.Agree source tree tree'

namespace StandsFor

variable {source : ByteArray} {positions : Tree → List Position} {tree tree' : Tree}

section Attributes

variable (h : StandsFor source positions tree tree')

include h

lemma kind : tree'.kind = tree.kind := by
  rw [← Tree.kind_alone, h.alone, Tree.kind_alone]

lemma field : tree'.field = tree.field := by
  rw [← Tree.field_alone, h.alone, Tree.field_alone]

lemma isPart : tree'.isPart = tree.isPart := by
  rw [← Tree.isPart_alone, h.alone, Tree.isPart_alone]

lemma line : tree'.line = tree.line := by
  rw [← Tree.line_alone, h.alone, Tree.line_alone]

end Attributes

/-- What stands for a node in one position agrees with it there. -/
lemma agreeAt {position : Position} (h : StandsFor source (fun _ => [position]) tree tree') :
    position.Agree source tree tree' :=
  h.agree position (List.mem_singleton_self position)

end StandsFor

/-- The nodes of the second list stand for those of the first one, one by one. -/
abbrev Stand (source : ByteArray) (positions : Tree → List Position) :
    List Tree → List Tree → Prop :=
  List.Forall₂ (StandsFor source positions)

namespace Stand

variable {source : ByteArray} {positions positions' : Tree → List Position}
  {trees trees' : List Tree}

/-- Nodes that stand for others in some positions do so in fewer positions. -/
lemma mono (h : Stand source positions trees trees')
    (hsub : ∀ tree, ∀ position ∈ positions' tree, position ∈ positions tree) :
    Stand source positions' trees trees' := by
  refine h.imp fun tree tree' hpair => ⟨hpair.alone, fun position hmem => ?_⟩
  exact hpair.agree position (hsub tree position hmem)

/-- Contributions that are the same one by one are the same together. -/
lemma all_outcome {α : Type} {contribution : Child → Traced α}
    (h : Stand source positions trees trees')
    (hcontribution : ∀ tree tree', StandsFor source positions tree tree' →
      (contribution (childOf source tree')).outcome =
        (contribution (childOf source tree)).outcome) :
    (Traced.all ((trees'.map (childOf source)).map contribution)).outcome =
      (Traced.all ((trees.map (childOf source)).map contribution)).outcome := by
  refine Traced.all_outcome_congr ?_
  simp only [List.forall₂_map_left_iff, List.forall₂_map_right_iff]
  exact h.imp hcontribution

/-- What nodes that stand for each other have in common makes the same lists. -/
lemma map_eq {α : Type} (said : Tree → α) (h : Stand source positions trees trees')
    (hsaid : ∀ tree tree', StandsFor source positions tree tree' → said tree' = said tree) :
    trees'.map said = trees.map said := by
  induction h with
  | nil => rfl
  | cons hfirst _ ih => rw [List.map_cons, List.map_cons, hsaid _ _ hfirst, ih]

/-- A list stands for itself. -/
lemma refl (trees : List Tree) : Stand source positions trees trees :=
  List.forall₂_same.mpr fun tree _ => ⟨rfl, fun position _ => .refl source position tree⟩

end Stand

/-- The second tree is the first one with children that stand for its children. -/
structure Follows (source : ByteArray) (positions : Tree → List Position) (tree tree' : Tree) :
    Prop where
  alone : tree'.alone = tree.alone
  children : Stand source positions tree.children tree'.children

namespace Follows

variable {source : ByteArray} {positions : Tree → List Position} {kind : String} {tree tree' : Tree}

section Surface

variable (h : Follows source positions tree tree')

include h

/-- The two trees have the same surface. -/
lemma surface : tree'.surface = tree.surface := by
  rw [Tree.surface_eq, Tree.surface_eq, h.alone,
    h.children.map_eq Tree.alone fun _ _ hchild => hchild.alone]

/-- A tree that follows another one in some positions does so in fewer positions. -/
lemma mono {positions' : Tree → List Position}
    (hsub : ∀ child, ∀ position ∈ positions' child, position ∈ positions child) :
    Follows source positions' tree tree' :=
  ⟨h.alone, h.children.mono hsub⟩

/-- What shows on the surface is the same. -/
lemma eq_of_surface {α : Type} (shown : Tree → α)
    (hshown : ∀ tree : Tree, shown tree.surface = shown tree) : shown tree' = shown tree := by
  rw [← hshown tree', h.surface, hshown]

/-- What a node says without its children is the same. -/
lemma eq_of_alone {α : Type} (said : Tree → α)
    (hsaid : ∀ tree : Tree, said tree.alone = said tree) : said tree' = said tree := by
  rw [← hsaid tree', h.alone, hsaid]

lemma kind_eq : tree'.kind = tree.kind :=
  h.eq_of_alone Tree.kind Tree.kind_alone

lemma line_eq : tree'.line = tree.line :=
  h.eq_of_alone Tree.line Tree.line_alone

lemma text_eq : tree'.text source = tree.text source :=
  h.eq_of_alone (Tree.text source) (Tree.text_alone source)

lemma typeName_eq : tree'.typeName source = tree.typeName source :=
  h.eq_of_alone (Tree.typeName source) (Tree.typeName_alone source)

lemma hasChild_eq (kind : String) : tree'.hasChild kind = tree.hasChild kind :=
  h.eq_of_surface (Tree.hasChild · kind) fun tree => tree.hasChild_surface kind

lemma modifiers_eq : tree'.modifiers source = tree.modifiers source :=
  h.eq_of_surface (Tree.modifiers source) (Tree.modifiers_surface source)

/-- The child in a field, or the node itself, says the same. -/
lemma childOrSelf_eq {α : Type} (field : String) (said : Tree → α)
    (hsaid : ∀ tree : Tree, said tree.alone = said tree) :
    said (tree'.childOrSelf field) = said (tree.childOrSelf field) :=
  h.eq_of_surface (fun tree => said (tree.childOrSelf field)) fun tree => by
    rw [← hsaid, Tree.alone_childOrSelf_surface, hsaid]

/-- The identifier in a field is the same. -/
lemma optionalIdentifier_eq (field : String) :
    Tree.optionalIdentifier source (tree'.child? field) =
      Tree.optionalIdentifier source (tree.child? field) :=
  h.eq_of_surface (fun tree => Tree.optionalIdentifier source (tree.child? field)) fun tree => by
    rw [Tree.child?_surface, Tree.optionalIdentifier_alone]

/-! ### Parts -/

/-- The parts stand for the parts. -/
lemma parts : Stand source positions tree.parts tree'.parts :=
  forall₂_filter h.children fun _ _ hpart => hpart.isPart

/-- Contributions of the parts that are the same one by one are the same together. -/
lemma all_parts {α : Type} (contribution : Child → Traced α)
    (hcontribution : ∀ part part', StandsFor source positions part part' →
      (contribution (childOf source part')).outcome =
        (contribution (childOf source part)).outcome) :
    (Traced.all ((Reading.parts (childReadings source tree'.children)).map contribution)).outcome =
      (Traced.all ((Reading.parts (childReadings source tree.children)).map
        contribution)).outcome := by
  rw [parts_childReadings, parts_childReadings]
  exact h.parts.all_outcome hcontribution

/-- Contributions of the parts of a kind. -/
lemma all_partsOfKind {α : Type} (kind : String) (contribution : Child → Traced α)
    (hcontribution : ∀ part part', part.kind = kind → StandsFor source positions part part' →
      (contribution (childOf source part')).outcome =
        (contribution (childOf source part)).outcome) :
    (Traced.all (((Reading.parts (childReadings source tree'.children)).filter
      (·.tree.kind == kind)).map contribution)).outcome =
    (Traced.all (((Reading.parts (childReadings source tree.children)).filter
      (·.tree.kind == kind)).map contribution)).outcome := by
  have hof : ∀ trees : List Tree, (trees.map (childOf source)).filter (·.tree.kind == kind) =
      (trees.filter (·.kind == kind)).map (childOf source) := fun trees => List.filter_map
  have hkind : Stand source positions (tree.parts.filter (·.kind == kind))
      (tree'.parts.filter (·.kind == kind)) :=
    forall₂_filter h.parts fun _ _ hpart => by rw [hpart.kind]
  rw [parts_childReadings, parts_childReadings, hof, hof]
  refine Traced.all_outcome_congr ?_
  simp only [List.forall₂_map_left_iff, List.forall₂_map_right_iff]
  have hpairs := (List.forall₂_and_left _ _).mpr ⟨fun part hmem => hmem, hkind⟩
  refine hpairs.imp fun part part' ⟨hmem, hpart⟩ => hcontribution part part' ?_ hpart
  exact eq_of_beq (List.mem_filter.mp hmem).2

lemma gather_outcome {view : Reading → Traced (List Node)}
    (hview : ∀ part part', StandsFor source positions part part' →
      Tree.SameOutcome source view part part') :
    (gather (childReadings source tree'.children) view).outcome =
      (gather (childReadings source tree.children) view).outcome := by
  rw [gather, gather, Traced.bind_outcome, Traced.bind_outcome,
    h.all_parts (fun child => view child.reading) hview]

lemma gatherSome_outcome {view : Reading → Traced (Option Node)}
    (hview : ∀ part part', StandsFor source positions part part' →
      Tree.SameOutcome source view part part') :
    (gatherSome (childReadings source tree'.children) view).outcome =
      (gatherSome (childReadings source tree.children) view).outcome := by
  rw [gatherSome, gatherSome, Traced.bind_outcome, Traced.bind_outcome,
    h.all_parts (fun child => view child.reading) hview]

lemma gatherEach_outcome {view : Reading → Traced Node}
    (hview : ∀ part part', StandsFor source positions part part' →
      Tree.SameOutcome source view part part') :
    (gatherEach (childReadings source tree'.children) view).outcome =
      (gatherEach (childReadings source tree.children) view).outcome :=
  h.all_parts (fun child => view child.reading) hview

end Surface

/-! ### Fields -/

section Fields

variable (h : Follows source (Position.inField kind) tree tree')

include h

/-- In both trees a field is empty, or the child in it stands for the child in it in the position that
it is read in. -/
lemma child?_cases (field : String) {position : Position}
    (hfield : Position.ofField kind field = some position) :
    (tree.child? field = none ∧ tree'.child? field = none) ∨
    ∃ child child', tree.child? field = some child ∧ tree'.child? field = some child' ∧
      StandsFor source (fun _ => [position]) child child' := by
  have hchildren := h.children
  rw [Tree.child?, Tree.child?]
  generalize tree.children = children at hchildren
  generalize tree'.children = children' at hchildren
  induction hchildren with
  | nil => exact .inl ⟨rfl, rfl⟩
  | @cons child child' _ _ hchild _ ih =>
    rw [List.find?_cons, List.find?_cons, hchild.field]
    cases hfilled : child.field == some field with
    | true =>
      have hposition : Position.inField kind child = [position] := by
        rw [Position.inField, eq_of_beq hfilled, Option.bind_some, hfield]
        rfl
      exact .inr ⟨child, child', rfl, rfl, hchild.alone, hposition ▸ hchild.agree⟩
    | false => exact ih

/-- A field contributes the same. -/
lemma fieldOr_outcome {α : Type} (field : String) {position : Position}
    (hfield : Position.ofField kind field = some position) (view : Reading → Traced α)
    (hview : ∀ child child', position.Agree source child child' →
      Tree.SameOutcome source view child child') (empty : α) :
    (fieldOr (childReadings source tree'.children) field empty view).outcome =
      (fieldOr (childReadings source tree.children) field empty view).outcome := by
  rw [fieldOr_childReadings, fieldOr_childReadings]
  obtain ⟨hnone, hnone'⟩ | ⟨child, child', hchild, hchild', hpair⟩ := h.child?_cases field hfield
  · rw [hnone, hnone']
  · rw [hchild, hchild']
    exact hview child child' hpair.agreeAt

lemma typeIn_outcome (field : String) (hfield : Position.ofField kind field = some .type) :
    (typeIn (childReadings source tree'.children) field).outcome =
      (typeIn (childReadings source tree.children) field).outcome :=
  h.fieldOr_outcome field hfield Reading.type (fun _ _ hagree => hagree) .absent

lemma annotationIn_outcome (field : String)
    (hfield : Position.ofField kind field = some Position.annotation) :
    (annotationIn (childReadings source tree'.children) field).outcome =
      (annotationIn (childReadings source tree.children) field).outcome :=
  h.fieldOr_outcome field hfield Reading.annotation (fun _ _ hagree => hagree) .absent

lemma parametersIn_outcome :
    (parametersIn (childReadings source tree'.children)).outcome =
      (parametersIn (childReadings source tree.children)).outcome :=
  h.fieldOr_outcome "parameters" rfl Reading.parameters (fun _ _ hagree => hagree) []

lemma argumentsIn_outcome :
    (fieldOr (childReadings source tree'.children) "type_arguments" [] Reading.types).outcome =
      (fieldOr (childReadings source tree.children) "type_arguments" [] Reading.types).outcome :=
  h.fieldOr_outcome "type_arguments" rfl Reading.types (fun _ _ hagree => hagree) []

lemma declaredTypeParameters_eq :
    tree'.declaredTypeParameters source = tree.declaredTypeParameters source := by
  rw [Tree.declaredTypeParameters, Tree.declaredTypeParameters]
  obtain ⟨hnone, hnone'⟩ | ⟨list, list', hlist, hlist', hpair⟩ :=
    h.child?_cases "type_parameters" rfl
  · rw [hnone, hnone']
  · rw [hlist, hlist']
    exact hpair.agreeAt

/-- What shows on the surface of a name is the same. -/
lemma name_eq {α : Type} (field : String) (hfield : Position.ofField kind field = some .name)
    (shown : Option Tree → α)
    (hshown : ∀ name? : Option Tree, shown (name?.map Tree.surface) = shown name?) :
    shown (tree'.child? field) = shown (tree.child? field) := by
  have hname : (tree'.child? field).map Tree.surface = (tree.child? field).map Tree.surface := by
    obtain ⟨hnone, hnone'⟩ | ⟨name, name', hname, hname', hpair⟩ := h.child?_cases field hfield
    · rw [hnone, hnone']
    · rw [hname, hname']
      exact congrArg some hpair.agreeAt
  rw [← hshown, hname, hshown]

lemma memberName_eq :
    Tree.optionalMemberName source (tree'.child? "name") =
      Tree.optionalMemberName source (tree.child? "name") :=
  h.name_eq "name" rfl (Tree.optionalMemberName source) (Tree.optionalMemberName_surface source)

end Fields

/-! ### Types -/

/-- Both trees have no parts, or the first part stands for the first part. -/
lemma parts_cases (h : Follows source positions tree tree') :
    (tree.parts = [] ∧ tree'.parts = []) ∨
    ∃ first others first' others', tree.parts = first :: others ∧ tree'.parts = first' :: others' ∧
      StandsFor source positions first first' := by
  have hparts : List.Forall₂ (StandsFor source positions) tree.parts tree'.parts := h.parts
  cases hfirst : tree.parts with
  | nil =>
    rw [hfirst, List.forall₂_nil_left_iff] at hparts
    exact .inl ⟨rfl, hparts⟩
  | cons first others =>
    rw [hfirst] at hparts
    obtain ⟨first', others', hpair, -, hparts'⟩ := List.forall₂_cons_left_iff.mp hparts
    exact .inr ⟨first, others, first', others', rfl, hparts', hpair⟩

lemma firstType_outcome (h : Follows source (fun _ => [.type]) tree tree') :
    (firstType (childReadings source tree'.children)).outcome =
      (firstType (childReadings source tree.children)).outcome := by
  rw [firstType, firstType, parts_childReadings, parts_childReadings]
  obtain ⟨hnil, hnil'⟩ | ⟨first, others, first', others', hfirst, hfirst', hpair⟩ := h.parts_cases
  · rw [hnil, hnil']
  · rw [hfirst, hfirst']
    exact hpair.agreeAt

/-- The arms that a node adds to a union. -/
lemma armsOf_childOf (source : ByteArray) (part : Tree) :
    armsOf (childOf source part) =
      if part.kind = "union_type" then (part.reading source).arms
      else do return [← (part.reading source).type] :=
  rfl

lemma unionArms_outcome
    (h : Follows source (fun child => [if child.kind = "union_type" then .arms else .type])
      tree tree') :
    (unionArms (childReadings source tree'.children)).outcome =
      (unionArms (childReadings source tree.children)).outcome := by
  rw [unionArms, unionArms, Traced.bind_outcome, Traced.bind_outcome, h.all_parts armsOf ?_]
  intro part part' hpart
  have hagree := hpart.agree _ (List.mem_singleton_self _)
  rw [armsOf_childOf, armsOf_childOf, hpart.kind]
  by_cases hunion : part.kind = "union_type"
  · rw [if_pos hunion] at hagree
    rw [if_pos hunion, if_pos hunion]
    exact hagree
  · rw [if_neg hunion] at hagree
    rw [if_neg hunion, if_neg hunion, Traced.bind_outcome, Traced.bind_outcome]
    exact congrArg (· >>= _) hagree

lemma typeOf_outcome (h : Follows source (Position.inType tree.kind) tree tree') :
    (typeOf source tree' (childReadings source tree'.children)).outcome =
      (typeOf source tree (childReadings source tree.children)).outcome := by
  have hname := h.childOrSelf_eq "name" (Tree.typeName source) (Tree.typeName_alone source)
  have hliteral := h.eq_of_surface (literalType source) (literalType_surface source)
  unfold typeOf
  rw [h.kind_eq, h.line_eq, h.text_eq, h.typeName_eq, hname, hliteral]
  -- which children are read in which positions shows only when the kind is known
  generalize tree.kind = kind at h ⊢
  split
  · rfl
  · rfl
  · rfl
  · simp only [Traced.bind_outcome, h.argumentsIn_outcome]
  · simp only [Traced.bind_outcome, h.firstType_outcome]
  · simp only [Traced.bind_outcome, h.parametersIn_outcome, h.typeIn_outcome "return_type" rfl,
      h.declaredTypeParameters_eq]
  · simp only [Traced.bind_outcome, h.unionArms_outcome]
  · have helements := h.gatherEach_outcome fun _ _ hpart => hpart.agreeAt
    simp only [Traced.bind_outcome, helements]
  · simp only [Traced.bind_outcome, h.firstType_outcome]
  · exact h.firstType_outcome
  · rfl
  · rfl
  · have hmembers := h.gatherSome_outcome fun _ _ hpart => hpart.agreeAt
    simp only [Traced.bind_outcome, hmembers]
  · rfl

lemma annotationOf_outcome
    (h : Follows source (Position.inside tree.kind · Position.annotation) tree tree') :
    (annotationOf source tree' (childReadings source tree'.children)).outcome =
      (annotationOf source tree (childReadings source tree.children)).outcome := by
  rw [annotationOf, annotationOf, h.kind_eq]
  simp only [Position.inside] at h
  cases hsign : isAnnotation tree.kind with
  | true =>
    rw [hsign] at h
    rw [parts_childReadings, parts_childReadings, if_pos rfl, if_pos rfl]
    obtain ⟨hnil, hnil'⟩ | ⟨first, others, first', others', hfirst, hfirst', hpair⟩ :=
      h.parts_cases
    · rw [hnil, hnil']
    · rw [hfirst, hfirst']
      exact hpair.agreeAt
  | false =>
    rw [hsign] at h
    exact h.typeOf_outcome

/-! ### Parameters and members -/

/-- A parameter is made of the name that its pattern gives. -/
lemma parameterOf_eq (source : ByteArray) (tree : Tree) (children : List Child) :
    parameterOf source tree children =
      if tree.kind = "required_parameter" || tree.kind = "optional_parameter" then do
        let name ← parameterName source <$> parameterTarget (tree.child? "pattern")
        let type ← annotationIn children "type"
        return some (.parameter tree.line name type (tree.kind == "optional_parameter")
          ((tree.child? "pattern").any (·.kind == "rest_pattern")))
      else pure none := by
  simp only [parameterOf, bind_map_left]

section InField

variable (h : Follows source (Position.inField kind) tree tree')

include h

lemma parameterOf_outcome :
    (parameterOf source tree' (childReadings source tree'.children)).outcome =
      (parameterOf source tree (childReadings source tree.children)).outcome := by
  have hname := h.name_eq "pattern" rfl (parameterName source <$> parameterTarget ·)
    (parameterName_surface source)
  have hrest := h.name_eq "pattern" rfl (Option.any (·.kind == "rest_pattern"))
    fun pattern? => by simp only [Option.any_map, Tree.kind_surface]
  rw [parameterOf_eq, parameterOf_eq, h.kind_eq, h.line_eq, hname, hrest]
  split
  · simp only [Traced.bind_outcome, h.annotationIn_outcome "type" rfl]
  · rfl

lemma fieldOf_outcome (fieldKind : FieldKind) :
    (fieldOf source tree' (childReadings source tree'.children) fieldKind).outcome =
      (fieldOf source tree (childReadings source tree.children) fieldKind).outcome := by
  simp only [fieldOf, Traced.bind_outcome, h.annotationIn_outcome "type" rfl, h.line_eq,
    h.memberName_eq, h.hasChild_eq, h.modifiers_eq]

lemma methodOf_outcome (inClass : Bool)
    (hresult : Position.ofField kind "return_type" = some Position.annotation) :
    (methodOf source tree' (childReadings source tree'.children) inClass).outcome =
      (methodOf source tree (childReadings source tree.children) inClass).outcome := by
  have hconstructor := h.name_eq "name" rfl (Option.any (·.text source == "constructor"))
    fun name? => by simp only [Option.any_map, Tree.text_surface]
  simp only [methodOf, Traced.bind_outcome, h.parametersIn_outcome, hconstructor, h.kind_eq,
    h.line_eq, h.modifiers_eq]
  refine congrArg _ (funext fun parameters => ?_)
  split
  · rfl
  · simp only [Traced.bind_outcome, h.annotationIn_outcome "return_type" hresult, h.memberName_eq,
      h.hasChild_eq, h.declaredTypeParameters_eq]

lemma callOf_outcome (signatureKind : SignatureKind) (resultField : String)
    (hresult : Position.ofField kind resultField = some Position.annotation) :
    (callOf source tree' (childReadings source tree'.children) signatureKind resultField).outcome =
      (callOf source tree (childReadings source tree.children) signatureKind
        resultField).outcome := by
  simp only [callOf, Traced.bind_outcome, h.parametersIn_outcome,
    h.annotationIn_outcome resultField hresult, h.line_eq, h.declaredTypeParameters_eq]

lemma indexOf_outcome :
    (indexOf source tree' (childReadings source tree'.children)).outcome =
      (indexOf source tree (childReadings source tree.children)).outcome := by
  rw [indexOf, indexOf, h.line_eq, h.modifiers_eq]
  obtain ⟨hnone, hnone'⟩ | ⟨key, key', hkey, hkey', hpair⟩ := h.child?_cases "name" rfl
  · simp only [hnone, hnone', Traced.bind_outcome, h.annotationIn_outcome "type" rfl]
  · have hidentifier : key'.identifier source = key.identifier source := by
      rw [← Tree.identifier_alone, hpair.alone, Tree.identifier_alone]
    simp only [hkey, hkey', Traced.bind_outcome, hidentifier, h.typeIn_outcome "index_type" rfl,
      h.annotationIn_outcome "type" rfl]

lemma variableOf_outcome :
    (variableOf source tree' (childReadings source tree'.children)).outcome =
      (variableOf source tree (childReadings source tree.children)).outcome := by
  have hname := h.name_eq "name" rfl
    (fun name? => Tree.optionalIdentifier source (name?.filter (·.kind == "identifier")))
    fun name? => by
      cases name? with
      | none => rfl
      | some name =>
        simp only [Option.map_some, Option.filter_some, Tree.kind_surface]
        split
        · exact Tree.identifier_surface source name
        · rfl
  rw [variableOf, variableOf, h.kind_eq, h.line_eq]
  split
  · simp only [Traced.bind_outcome, h.annotationIn_outcome "type" rfl, hname]
  · rfl

/-! ### Statements -/

lemma functionOf_outcome
    (hresult : Position.ofField kind "return_type" = some Position.annotation) :
    (functionOf source tree' (childReadings source tree'.children)).outcome =
      (functionOf source tree (childReadings source tree.children)).outcome := by
  simp only [functionOf, Traced.bind_outcome, h.parametersIn_outcome,
    h.annotationIn_outcome "return_type" hresult, h.line_eq, h.optionalIdentifier_eq,
    h.declaredTypeParameters_eq]

lemma aliasOf_outcome (hvalue : Position.ofField kind "value" = some .type) :
    (do
      let type ← typeIn (childReadings source tree'.children) "value"
      return [.aliasDecl tree'.line (Tree.optionalIdentifier source (tree'.child? "name"))
        (tree'.declaredTypeParameters source) type] : Traced (List Node)).outcome =
    (do
      let type ← typeIn (childReadings source tree.children) "value"
      return [.aliasDecl tree.line (Tree.optionalIdentifier source (tree.child? "name"))
        (tree.declaredTypeParameters source) type] : Traced (List Node)).outcome := by
  simp only [Traced.bind_outcome, h.typeIn_outcome "value" hvalue, h.line_eq,
    h.optionalIdentifier_eq, h.declaredTypeParameters_eq]

lemma namespaceOf_outcome (hbody : Position.ofField kind "body" = some .statements) :
    (namespaceOf source tree' (childReadings source tree'.children)).outcome =
      (namespaceOf source tree (childReadings source tree.children)).outcome := by
  have hnames := h.eq_of_surface (namespaceNames source) (namespaceNames_surface source)
  rw [namespaceOf, namespaceOf, child?_childReadings, child?_childReadings, hnames, h.line_eq]
  obtain ⟨hnone, hnone'⟩ | ⟨body, body', hchild, hchild', hpair⟩ := h.child?_cases "body" hbody
  · rw [hnone, hnone']
  · have hline : (childOf source body').tree.line = (childOf source body).tree.line := hpair.line
    have hstatements : (childOf source body').reading.statements.outcome =
        (childOf source body).reading.statements.outcome := hpair.agreeAt
    simp only [hchild, hchild', Option.map_some, Traced.bind_outcome, hline, hstatements]

lemma enumOf_eq (hbody : Position.ofField kind "body" = some .enumBody) :
    enumOf source tree' = enumOf source tree := by
  rw [enumOf, enumOf, h.line_eq, h.optionalIdentifier_eq]
  obtain ⟨hnone, hnone'⟩ | ⟨body, body', hchild, hchild', hpair⟩ := h.child?_cases "body" hbody
  · rw [hnone, hnone']
  · have hmembers : body'.enumMembers source = body.enumMembers source := hpair.agreeAt
    simp only [hchild, hchild', hmembers]

end InField

lemma memberOf_outcome (h : Follows source (Position.inField tree.kind) tree tree')
    (inClass : Bool) :
    (memberOf source tree' (childReadings source tree'.children) inClass).outcome =
      (memberOf source tree (childReadings source tree.children) inClass).outcome := by
  unfold memberOf
  rw [h.kind_eq]
  generalize tree.kind = kind at h ⊢
  split
  · exact h.fieldOf_outcome _
  · exact h.fieldOf_outcome _
  · exact h.methodOf_outcome inClass rfl
  · exact h.methodOf_outcome inClass rfl
  · exact h.methodOf_outcome inClass rfl
  · exact h.callOf_outcome _ "return_type" rfl
  · exact h.callOf_outcome _ "type" rfl
  · exact h.indexOf_outcome
  · simp only [Traced.bind_outcome, Traced.note_outcome]

/-! ### Heritage -/

lemma heritageTypeOf_outcome (h : Follows source (Position.inField tree.kind) tree tree') :
    (heritageTypeOf source tree' (childReadings source tree'.children)).outcome =
      (heritageTypeOf source tree (childReadings source tree.children)).outcome := by
  have hkind := h.childOrSelf_eq "name" Tree.kind Tree.kind_alone
  have hgeneric := h.childOrSelf_eq "name" (Tree.expressionName source)
    (Tree.expressionName_alone source)
  have hplain := h.eq_of_alone (Tree.expressionName source) (Tree.expressionName_alone source)
  rw [heritageTypeOf, heritageTypeOf, h.kind_eq, h.line_eq]
  cases tree.kind == "generic_type" with
  | true =>
    simp only [if_true, hkind, hgeneric]
    rw [Traced.bind_outcome, h.argumentsIn_outcome, Traced.bind_outcome]
  | false => simp only [Bool.false_eq_true, if_false, h.kind_eq, hplain]

lemma extendedTypesFrom_outcome {parts parts' : List Tree}
    (h : Stand source (fun part => if part.kind = "type_arguments" then [.types] else []) parts
      parts') (last : Option Node) :
    (extendedTypesFrom source last (parts'.map (childOf source))).outcome =
      (extendedTypesFrom source last (parts.map (childOf source))).outcome := by
  induction h generalizing last with
  | nil => rfl
  | @cons part part' _ _ hpart _ ih =>
    have hkind : (childOf source part').tree.kind = (childOf source part).tree.kind := hpart.kind
    have hentry : extendedType source (childOf source part').tree =
        extendedType source (childOf source part).tree := by
      rw [← extendedType_alone, childOf, hpart.alone, extendedType_alone, childOf]
    rw [List.map_cons, List.map_cons, extendedTypesFrom, extendedTypesFrom, hkind, hentry]
    split
    · next hcondition =>
      obtain ⟨harguments, -⟩ := Bool.and_eq_true_iff.mp hcondition
      have hpart_kind : part.kind = "type_arguments" := of_decide_eq_true harguments
      have hpositions := hpart.agree
      rw [if_pos hpart_kind] at hpositions
      have htypes : (childOf source part').reading.types.outcome =
          (childOf source part).reading.types.outcome :=
        hpositions .types (List.mem_singleton_self _)
      rw [Traced.bind_outcome, Traced.bind_outcome, htypes]
      exact congrArg _ (funext fun arguments => ih _)
    · rw [Traced.bind_outcome, Traced.bind_outcome, ih]

/-- What a node contributes to the heritage of a class. -/
lemma classClause_childOf (source : ByteArray) (clause : Tree) :
    classClause (childOf source clause) =
      match clause.kind with
      | "extends_clause" => do
        return [.heritageClause clause.line "extends" (← (clause.reading source).extendedTypes)]
      | "implements_clause" => do
        return [.heritageClause clause.line "implements" (← (clause.reading source).heritageTypes)]
      | _ => pure [] :=
  rfl

lemma classHeritageOf_outcome (h : Follows source Position.inClassHeritage tree tree') :
    (classHeritageOf (childReadings source tree'.children)).outcome =
      (classHeritageOf (childReadings source tree.children)).outcome := by
  rw [classHeritageOf, classHeritageOf, Traced.bind_outcome, Traced.bind_outcome,
    h.all_parts classClause ?_]
  intro clause clause' hclause
  rw [classClause_childOf, classClause_childOf, hclause.kind, hclause.line]
  have hagree := hclause.agree
  rw [Position.inClassHeritage] at hagree
  split
  · next hkind =>
    rw [hkind] at hagree
    rw [Traced.bind_outcome, Traced.bind_outcome]
    exact congrArg (· >>= _) (hagree .extendedTypes (List.mem_singleton_self _))
  · next hkind =>
    rw [hkind] at hagree
    rw [Traced.bind_outcome, Traced.bind_outcome]
    exact congrArg (· >>= _) (hagree .heritageTypes (List.mem_singleton_self _))
  · rfl

/-! ### Declarations -/

section Declarations

variable {heritageKind : String} {heritage : Position}

/-- Apart from the heritage, the children of a declaration are read in fields. -/
lemma inField_of_inDeclaration
    (h : Follows source (Position.inDeclaration heritageKind heritage kind) tree tree') :
    Follows source (Position.inField kind) tree tree' :=
  h.mono fun _ _ hmem => List.mem_append_right _ hmem

/-- The clauses in the heritage of a declaration contribute the same. -/
lemma all_heritage {α : Type}
    (h : Follows source (Position.inDeclaration heritageKind heritage kind) tree tree')
    (contribution : Child → Traced α)
    (hcontribution : ∀ clause clause', clause'.alone = clause.alone →
      heritage.Agree source clause clause' →
      (contribution (childOf source clause')).outcome =
        (contribution (childOf source clause)).outcome) :
    (Traced.all (((Reading.parts (childReadings source tree'.children)).filter
      (·.tree.kind == heritageKind)).map contribution)).outcome =
    (Traced.all (((Reading.parts (childReadings source tree.children)).filter
      (·.tree.kind == heritageKind)).map contribution)).outcome := by
  refine h.all_partsOfKind heritageKind contribution fun clause clause' hkind hclause => ?_
  refine hcontribution clause clause' hclause.alone (hclause.agree heritage ?_)
  rw [Position.inDeclaration, if_pos hkind]
  exact List.mem_cons_self

lemma interfaceOf_outcome
    (h : Follows source (Position.inDeclaration "extends_type_clause" .heritageTypes kind) tree
      tree') (hbody : Position.ofField kind "body" = some .members) :
    (interfaceOf source tree' (childReadings source tree'.children)).outcome =
      (interfaceOf source tree (childReadings source tree.children)).outcome := by
  have hfields := h.inField_of_inDeclaration
  have hmembers :=
    hfields.fieldOr_outcome "body" hbody Reading.members (fun _ _ hagree => hagree) []
  rw [interfaceOf, interfaceOf, Traced.bind_outcome, Traced.bind_outcome, h.all_heritage _ ?_]
  · simp only [Traced.bind_outcome, hmembers, h.line_eq, h.optionalIdentifier_eq,
      hfields.declaredTypeParameters_eq]
  · intro clause clause' halone hagree
    have hline : (childOf source clause').tree.line = (childOf source clause).tree.line := by
      rw [childOf, ← Tree.line_alone, halone, Tree.line_alone, childOf]
    rw [Traced.bind_outcome, Traced.bind_outcome, hline]
    exact congrArg (· >>= _) hagree

lemma classOf_outcome
    (h : Follows source (Position.inDeclaration "class_heritage" .classHeritage kind) tree tree')
    (hbody : Position.ofField kind "body" = some .classMembers) :
    (classOf source tree' (childReadings source tree'.children)).outcome =
      (classOf source tree (childReadings source tree.children)).outcome := by
  have hfields := h.inField_of_inDeclaration
  have hmembers :=
    hfields.fieldOr_outcome "body" hbody Reading.classMembers (fun _ _ hagree => hagree) []
  rw [classOf, classOf, Traced.bind_outcome, Traced.bind_outcome,
    h.all_heritage (fun child => child.reading.classHeritage) fun _ _ _ hagree => hagree]
  simp only [Traced.bind_outcome, hmembers, h.kind_eq, h.line_eq, h.optionalIdentifier_eq,
    hfields.declaredTypeParameters_eq]

end Declarations

lemma statementOf_outcome (h : Follows source (Position.inStatement tree.kind) tree tree') :
    (statementOf source tree' (childReadings source tree'.children)).outcome =
      (statementOf source tree (childReadings source tree.children)).outcome := by
  have single : ∀ {statement statement' : Traced Node}, statement'.outcome = statement.outcome →
      (do return [← statement'] : Traced (List Node)).outcome =
        (do return [← statement]).outcome := by
    intro statement statement' hstatement
    rw [Traced.bind_outcome, Traced.bind_outcome, hstatement]
  have hline := h.line_eq
  unfold statementOf
  rw [h.kind_eq]
  -- which children are read in which positions shows only when the kind is known
  generalize tree.kind = kind at h ⊢
  split
  · exact h.gather_outcome fun _ _ hpart => hpart.agreeAt
  · exact h.gather_outcome fun _ _ hpart => hpart.agreeAt
  · exact h.gather_outcome fun _ _ hpart => hpart.agreeAt
  · exact h.gather_outcome fun _ _ hpart => hpart.agreeAt
  · exact single (h.namespaceOf_outcome rfl)
  · exact single (h.namespaceOf_outcome rfl)
  · exact single (h.interfaceOf_outcome rfl)
  · exact single (h.classOf_outcome rfl)
  · exact single (h.classOf_outcome rfl)
  · exact single (h.classOf_outcome rfl)
  · exact h.aliasOf_outcome rfl
  · have hvariables := h.gatherSome_outcome fun _ _ hpart => hpart.agreeAt
    simp only [Traced.bind_outcome, hvariables, hline]
  · have hvariables := h.gatherSome_outcome fun _ _ hpart => hpart.agreeAt
    simp only [Traced.bind_outcome, hvariables, hline]
  · exact single (h.functionOf_outcome rfl)
  · exact single (h.functionOf_outcome rfl)
  · rw [h.enumOf_eq rfl]
  · simp only [Traced.bind_outcome, Traced.note_outcome]
  · simp only [Traced.bind_outcome, Traced.note_outcome]

/-! ### Lists of names -/

lemma typeParameters_eq (h : Follows source (fun _ => [.name]) tree tree') :
    tree'.typeParameters source = tree.typeParameters source := by
  have hparameters : Stand source (fun _ => [.name])
      (tree.parts.filter (·.kind == "type_parameter"))
      (tree'.parts.filter (·.kind == "type_parameter")) :=
    forall₂_filter h.parts fun _ _ hpart => by rw [hpart.kind]
  refine hparameters.map_eq _ fun parameter parameter' hparameter => ?_
  have hsurface : parameter'.surface = parameter.surface := hparameter.agreeAt
  rw [hparameter.line, ← Tree.optionalIdentifier_alone, ← Tree.child?_surface, hsurface,
    Tree.child?_surface, Tree.optionalIdentifier_alone]

lemma enumMembers_eq (h : Follows source (fun _ => [.name]) tree tree') :
    tree'.enumMembers source = tree.enumMembers source := by
  refine h.parts.map_eq _ fun member member' hmember => ?_
  have hsurface : member'.surface = member.surface := hmember.agreeAt
  rw [← Tree.text_alone, ← Tree.alone_childOrSelf_surface, hsurface,
    Tree.alone_childOrSelf_surface, Tree.text_alone]

/-- **Children.**  When the children of a node are replaced by nodes that stand for them in the
positions that they are read in, the node agrees with the one before. -/
lemma agree (position : Position)
    (h : Follows source (Position.inside tree.kind · position) tree tree') :
    position.Agree source tree tree' := by
  have hread : ∀ {α : Type} (view : Reading → Traced α),
      (view (ofChildren source tree' (childReadings source tree'.children))).outcome =
        (view (ofChildren source tree (childReadings source tree.children))).outcome →
      Tree.SameOutcome source view tree tree' := by
    intro α view hview
    rw [Tree.SameOutcome, Tree.reading_eq, Tree.reading_eq, hview]
  cases position with
  | type => exact hread _ h.typeOf_outcome
  | annotation => exact hread _ h.annotationOf_outcome
  | types => exact hread _ (h.gatherEach_outcome fun _ _ hpart => hpart.agreeAt)
  | arms => exact hread _ h.unionArms_outcome
  | statement => exact hread _ h.statementOf_outcome
  | statements => exact hread _ (h.gather_outcome fun _ _ hpart => hpart.agreeAt)
  | member => exact hread _ (h.memberOf_outcome false)
  | classMember => exact hread _ (h.memberOf_outcome true)
  | members => exact hread _ (h.gatherSome_outcome fun _ _ hpart => hpart.agreeAt)
  | classMembers => exact hread _ (h.gatherSome_outcome fun _ _ hpart => hpart.agreeAt)
  | parameter => exact hread _ h.parameterOf_outcome
  | parameters => exact hread _ (h.gatherSome_outcome fun _ _ hpart => hpart.agreeAt)
  | heritageType => exact hread _ h.heritageTypeOf_outcome
  | heritageTypes => exact hread _ (h.gatherEach_outcome fun _ _ hpart => hpart.agreeAt)
  | extendedTypes =>
    refine hread _ ?_
    have hparts := extendedTypesFrom_outcome h.parts none
    rwa [← parts_childReadings, ← parts_childReadings] at hparts
  | classHeritage => exact hread _ h.classHeritageOf_outcome
  | variableDecl => exact hread _ h.variableOf_outcome
  | typeParameters => exact h.typeParameters_eq
  | enumBody => exact h.enumMembers_eq
  | name => exact h.surface

end Follows

end Reading

end ReasonBindings
