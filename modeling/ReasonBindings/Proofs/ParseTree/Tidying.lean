import Mathlib.Logic.Relation
import ReasonBindings.Proofs.ParseTree.Positions

/-!
# Wrappers and broken parts

Some statements only wrap other ones: an export, an ambient declaration, an expression and a block.
Other nodes among statements and members have no counterpart, and those of kind `ERROR` are what
could not be parsed.  A tree is *tidied* by putting the named children of a wrapper in its place,
and by leaving out a node without counterpart, at any depth and in any number of steps.

Where this may be done depends on what a node is read for.  The root of a tree is read for its
statements, and from there each node says which of its children it reads in which positions.  A
child that is read in none of them, such as the body of a function, may have any children.

Tidying a node inside of a tree changes nothing but the notices: in the position that a node is
read in, a tidied node ends in the syntax nodes or in the fault that the node ends in.
-/

namespace ReasonBindings

open Syntax

namespace Tree

/-! ### Kinds -/

/-- The statements that have a counterpart, or that wrap such ones. -/
def knownStatements : List String :=
  wrapperKinds ++
    ["internal_module", "module", "interface_declaration", "class_declaration",
      "abstract_class_declaration", "class", "type_alias_declaration", "lexical_declaration",
      "variable_declaration", "function_signature", "function_declaration", "enum_declaration"]

/-- The members that have a counterpart. -/
def knownMembers : List String :=
  ["property_signature", "public_field_definition", "method_signature",
    "abstract_method_signature", "method_definition", "call_signature", "construct_signature",
    "index_signature"]

/-! ### Steps -/

/-- One step of tidying a tree that is read in a position. -/
inductive Tidies : Position → Tree → Tree → Prop
  /-- The named children of a wrapper among statements are put in its place. -/
  | unwrap {position : Position} {tree wrapper : Tree} {before after : List Tree} :
    tree.children = before ++ wrapper :: after →
    .statement ∈ position.inside tree.kind wrapper →
    wrapper.kind ∈ wrapperKinds → wrapper.named = true →
    Tidies position tree
      (tree.withChildren (before ++ wrapper.children.filter named ++ after))
  /-- A statement without counterpart is left out. -/
  | skipStatement {position : Position} {tree part : Tree} {before after : List Tree} :
    tree.children = before ++ part :: after →
    .statement ∈ position.inside tree.kind part →
    part.kind ∉ knownStatements →
    Tidies position tree (tree.withChildren (before ++ after))
  /-- A member without counterpart is left out. -/
  | skipMember {position : Position} {tree part : Tree} {before after : List Tree} :
    tree.children = before ++ part :: after →
    .member ∈ position.inside tree.kind part ∨ .classMember ∈ position.inside tree.kind part →
    part.kind ∉ knownMembers →
    Tidies position tree (tree.withChildren (before ++ after))
  /-- A child is tidied in all positions that it is read in; what is inside of a child that is read
  in none does not matter. -/
  | inside {position : Position} {tree child : Tree} {before after children : List Tree} :
    tree.children = before ++ child :: after →
    (∀ inner ∈ position.inside tree.kind child,
      Tidies inner child (child.withChildren children)) →
    Tidies position tree
      (tree.withChildren (before ++ child.withChildren children :: after))

end Tree

/-! ### Where statements and members stand -/

namespace Position

variable {position : Position} {kind : String} {child : Tree}

/-- No single statement and no single member is read in a field. -/
lemma notMem_inField (h : position ∈ [statement, member, classMember]) (kind : String)
    (child : Tree) : position ∉ inField kind child := by
  rw [inField, Option.mem_toList, Option.bind_eq_some_iff]
  rintro ⟨field, -, hfield⟩
  unfold ofField ofBody at hfield
  grind

/-- Of the types, the object types list members. -/
lemma mem_inType (h : position ∈ [statement, member, classMember])
    (hmem : position ∈ inType kind child) : position = member ∧ kind = "object_type" := by
  have hfield := notMem_inField h kind child
  unfold inType at hmem
  split at hmem
  all_goals grind

/-- Of the statements, the wrappers list statements. -/
lemma mem_inStatement (h : position ∈ [statement, member, classMember])
    (hmem : position ∈ inStatement kind child) : position = statement ∧ kind ∈ Tree.wrapperKinds := by
  have hfield := notMem_inField h kind child
  unfold inStatement inDeclaration at hmem
  split at hmem
  all_goals grind [Tree.wrapperKinds]

/-- Statements stand in a list of statements and in a wrapper. -/
lemma of_statement_mem_inside (h : statement ∈ position.inside kind child) :
    position = statements ∨ position = statement ∧ kind ∈ Tree.wrapperKinds := by
  have hfield : statement ∉ inField kind child := notMem_inField (by decide) kind child
  have htype : statement ∉ inType kind child := fun hmem => nomatch mem_inType (by decide) hmem
  cases position with
  | statement => exact .inr ⟨rfl, (mem_inStatement (by decide) h).2⟩
  | _ => grind [inside, inClassHeritage]

/-- Members of interfaces stand in a list of members and in an object type. -/
lemma of_member_mem_inside (h : member ∈ position.inside kind child) :
    position = members ∨ (position = type ∨ position = annotation) ∧ kind = "object_type" := by
  have hfield : member ∉ inField kind child := notMem_inField (by decide) kind child
  have hstatement : member ∉ inStatement kind child :=
    fun hmem => nomatch mem_inStatement (by decide) hmem
  cases position with
  | type => exact .inr ⟨.inl rfl, (mem_inType (by decide) h).2⟩
  | annotation =>
    have htype : member ∈ inType kind child := by grind [inside]
    exact .inr ⟨.inr rfl, (mem_inType (by decide) htype).2⟩
  | _ => grind [inside, inClassHeritage]

/-- Members of classes stand in a list of members. -/
lemma of_classMember_mem_inside (h : classMember ∈ position.inside kind child) :
    position = classMembers := by
  have hfield : classMember ∉ inField kind child := notMem_inField (by decide) kind child
  have htype : classMember ∉ inType kind child := fun hmem => nomatch mem_inType (by decide) hmem
  have hstatement : classMember ∉ inStatement kind child :=
    fun hmem => nomatch mem_inStatement (by decide) hmem
  cases position with
  | classMembers => rfl
  | _ => grind [inside, inClassHeritage]

end Position

namespace Reading

variable {source : ByteArray}

/-! ### Lists of parts -/

lemma gather_append (before after : List Tree) (view : Reading → Traced (List Node)) :
    gather (childReadings source (before ++ after)) view = do
      let nodes ← gather (childReadings source before) view
      let others ← gather (childReadings source after) view
      return nodes ++ others := by
  simp only [gather, childReadings_eq_map, parts, List.map_append, List.filter_append,
    Traced.all_append, bind_assoc, pure_bind, List.flatten_append]

lemma gatherSome_append (before after : List Tree) (view : Reading → Traced (Option Node)) :
    gatherSome (childReadings source (before ++ after)) view = do
      let nodes ← gatherSome (childReadings source before) view
      let others ← gatherSome (childReadings source after) view
      return nodes ++ others := by
  simp only [gatherSome, childReadings_eq_map, parts, List.map_append, List.filter_append,
    Traced.all_append, bind_assoc, pure_bind, List.filterMap_append]

/-- Nodes that are no constructs contribute nothing. -/
lemma gather_named (trees : List Tree) (view : Reading → Traced (List Node)) :
    gather (childReadings source (trees.filter Tree.named)) view =
      gather (childReadings source trees) view := by
  have hparts : (trees.filter Tree.named).filter Tree.isPart = trees.filter Tree.isPart := by
    rw [List.filter_filter]
    refine List.filter_congr fun tree _ => ?_
    rw [Tree.isPart, Bool.and_right_comm, Bool.and_self]
  have hread : ∀ trees : List Tree, parts (childReadings source trees) =
      (trees.filter Tree.isPart).map (childOf source) := fun trees => by
    rw [childReadings_eq_map, parts, List.filter_map]
    rfl
  rw [gather, gather, hread, hread, hparts]

/-- A single node contributes what it is read as, if it is a part. -/
lemma gather_singleton (tree : Tree) (view : Reading → Traced (List Node)) :
    gather (childReadings source [tree]) view =
      if tree.isPart then view (tree.reading source) else pure [] := by
  rw [gather, childReadings_eq_map, parts, List.map_singleton, List.filter_singleton]
  cases tree.isPart with
  | true => simp [Traced.all]
  | false => rfl

/-- A single node that is read as nothing contributes nothing. -/
lemma gatherSome_singleton (tree : Tree) {view : Reading → Traced (Option Node)}
    (h : (view (tree.reading source)).outcome = .ok none) :
    (gatherSome (childReadings source [tree]) view).outcome = .ok [] := by
  rw [gatherSome, childReadings_eq_map, parts, List.map_singleton, List.filter_singleton]
  cases tree.isPart with
  | true =>
    have hsingle : (Traced.all [view (tree.reading source)]).outcome = .ok [none] := by
      rw [Traced.all, Traced.bind_outcome, h]
      rfl
    rw [Traced.bind_outcome]
    exact congrArg (· >>= _) hsingle
  | false => rfl

/-- A list without one of its members, which stands for nothing, contributes the same. -/
lemma gatherSome_skip {part : Tree} {view : Reading → Traced (Option Node)}
    (h : (view (part.reading source)).outcome = .ok none) (before after : List Tree) :
    (gatherSome (childReadings source (before ++ after)) view).outcome =
      (gatherSome (childReadings source (before ++ part :: after)) view).outcome := by
  have hrest : (gatherSome (childReadings source (part :: after)) view).outcome =
      (gatherSome (childReadings source after) view).outcome := by
    rw [← List.singleton_append, gatherSome_append, Traced.bind_outcome,
      gatherSome_singleton part h]
    exact congrArg Traced.outcome (bind_pure _)
  rw [gatherSome_append, gatherSome_append, Traced.bind_outcome, Traced.bind_outcome]
  simp only [Traced.bind_outcome, hrest]

/-- In a list of statements, some of them may be replaced by others that contribute the same. -/
lemma gather_replace {middle middle' : List Tree} {view : Reading → Traced (List Node)}
    (h : (gather (childReadings source middle') view).outcome =
      (gather (childReadings source middle) view).outcome) (before after : List Tree) :
    (gather (childReadings source (before ++ middle' ++ after)) view).outcome =
      (gather (childReadings source (before ++ middle ++ after)) view).outcome := by
  simp only [gather_append, Traced.bind_outcome, h]

/-! ### Constructs without counterpart -/

/-- A statement of another kind stands for nothing. -/
lemma statement_of_unknown {tree : Tree} (h : tree.kind ∉ Tree.knownStatements) :
    (tree.reading source).statement.outcome = .ok [] := by
  rw [Tree.reading_eq]
  change (statementOf source tree _).outcome = _
  unfold statementOf
  generalize tree.kind = kind at h ⊢
  split
  case h_17 => rfl
  case h_18 => rfl
  all_goals exact absurd (by decide) h

/-- An object type lists members, also where a type annotation is expected. -/
lemma type_of_objectType {tree : Tree} (h : tree.kind = "object_type") :
    (tree.reading source).type = (do
      return .objectType tree.line
        (← gatherSome (childReadings source tree.children) Reading.member)) := by
  rw [Tree.reading_eq]
  change typeOf source tree _ = _
  rw [typeOf, h]
  rfl

lemma annotation_of_objectType {tree : Tree} (h : tree.kind = "object_type") :
    Reading.annotation (tree.reading source) = (tree.reading source).type := by
  rw [Tree.reading_eq]
  change annotationOf source tree _ = typeOf source tree _
  rw [annotationOf, h]
  rfl

/-- A member of another kind stands for nothing. -/
lemma memberOf_of_unknown {tree : Tree} (h : tree.kind ∉ Tree.knownMembers)
    (children : List Child) (inClass : Bool) :
    (memberOf source tree children inClass).outcome = .ok none := by
  unfold memberOf
  generalize tree.kind = kind at h ⊢
  split
  case h_9 => rfl
  all_goals exact absurd (by decide) h

end Reading

namespace Tree

variable {source : ByteArray} {position : Position} {tree child : Tree} {children : List Tree}

/-! ### Agreement -/

/-- Where statements are listed, lists that contribute the same statements agree. -/
lemma agree_of_statements (hposition : .statement ∈ position.inside tree.kind child)
    (h : (Reading.gather (childReadings source children) Reading.statement).outcome =
      (Reading.gather (childReadings source tree.children) Reading.statement).outcome) :
    position.Agree source tree (tree.withChildren children) := by
  obtain rfl | ⟨rfl, hkind⟩ := Position.of_statement_mem_inside hposition
  · rw [Position.Agree, SameOutcome, reading_eq, reading_eq, children_withChildren]
    exact h
  · have hkind' : (tree.withChildren children).kind ∈ wrapperKinds := by
      rwa [kind_withChildren]
    rw [Position.Agree, SameOutcome, statement_of_wrapper hkind,
      statement_of_wrapper hkind', children_withChildren]
    exact h

/-- Where members of interfaces are listed, lists that contribute the same members agree. -/
lemma agree_of_members (hposition : .member ∈ position.inside tree.kind child)
    (h : (Reading.gatherSome (childReadings source children) Reading.member).outcome =
      (Reading.gatherSome (childReadings source tree.children) Reading.member).outcome) :
    position.Agree source tree (tree.withChildren children) := by
  have htype : tree.kind = "object_type" →
      SameOutcome source Reading.type tree (tree.withChildren children) := by
    intro hkind
    have hkind' : (tree.withChildren children).kind = "object_type" := by rwa [kind_withChildren]
    rw [SameOutcome, Reading.type_of_objectType hkind, Reading.type_of_objectType hkind',
      Traced.bind_outcome, Traced.bind_outcome, children_withChildren, line_withChildren, h]
  obtain rfl | ⟨rfl | rfl, hkind⟩ := Position.of_member_mem_inside hposition
  · rw [Position.Agree, SameOutcome, reading_eq, reading_eq, children_withChildren]
    exact h
  · exact htype hkind
  · have hkind' : (tree.withChildren children).kind = "object_type" := by rwa [kind_withChildren]
    rw [Position.Agree, SameOutcome, Reading.annotation_of_objectType hkind,
      Reading.annotation_of_objectType hkind']
    exact htype hkind

/-- Where members of classes are listed, lists that contribute the same members agree. -/
lemma agree_of_classMembers (hposition : .classMember ∈ position.inside tree.kind child)
    (h : (Reading.gatherSome (childReadings source children) Reading.classMember).outcome =
      (Reading.gatherSome (childReadings source tree.children) Reading.classMember).outcome) :
    position.Agree source tree (tree.withChildren children) := by
  obtain rfl := Position.of_classMember_mem_inside hposition
  rw [Position.Agree, SameOutcome, reading_eq, reading_eq, children_withChildren]
  exact h

/-- **One step.**  A tree agrees with the tidied one in the position that it is read in. -/
theorem Tidies.agree {tree tree' : Tree} (h : Tidies position tree tree') (source : ByteArray) :
    position.Agree source tree tree' := by
  induction h with
  | @unwrap _ tree wrapper before after hchildren hposition hkind hnamed =>
    have hpart : wrapper.isPart = true := by
      have hcomment : wrapper.kind ≠ "comment" := fun h => absurd (h ▸ hkind) (by decide)
      rw [isPart, hnamed, bne_iff_ne.mpr hcomment, Bool.and_self]
    refine agree_of_statements hposition ?_
    rw [hchildren, List.append_cons before wrapper after]
    refine Reading.gather_replace ?_ before after
    rw [Reading.gather_singleton, if_pos hpart, statement_of_wrapper hkind,
      Reading.gather_named]
  | @skipStatement _ tree part before after hchildren hposition hkind =>
    have hnothing : (Reading.gather (childReadings source []) Reading.statement).outcome =
        (Reading.gather (childReadings source [part]) Reading.statement).outcome := by
      rw [Reading.gather_singleton]
      split
      · exact (Reading.statement_of_unknown hkind).symm
      · rfl
    have hrest := Reading.gather_replace hnothing before after
    rw [List.append_nil, ← List.append_cons, ← hchildren] at hrest
    exact agree_of_statements hposition hrest
  | @skipMember _ tree part before after hchildren hposition hkind =>
    have hnone : ∀ inClass, (Reading.memberOf source part (childReadings source part.children)
        inClass).outcome = .ok none := Reading.memberOf_of_unknown hkind _
    rcases hposition with hposition | hposition
    · refine agree_of_members hposition ?_
      rw [hchildren]
      apply Reading.gatherSome_skip
      rw [reading_eq]
      exact hnone false
    · refine agree_of_classMembers hposition ?_
      rw [hchildren]
      apply Reading.gatherSome_skip
      rw [reading_eq]
      exact hnone true
  | @inside position tree child before after children hchildren _ ih =>
    refine Reading.Follows.agree position ⟨alone_withChildren tree _, ?_⟩
    rw [children_withChildren, hchildren]
    refine List.rel_append (Reading.Stand.refl before) (.cons ⟨?_, ih⟩ (Reading.Stand.refl after))
    exact alone_withChildren child children

/-- **Wrappers and broken parts.**  When a tree is tidied in any number of steps, at any depth, its
statements are the same, or it ends in the same fault: the statements in a wrapper stand among its
neighbours in their order, and what has no counterpart affects none of its neighbours. -/
theorem statements_tidied {source : ByteArray} {tree tree' : Tree}
    (h : Relation.ReflTransGen (Tidies .statements) tree tree') :
    (tree'.statements source).outcome = (tree.statements source).outcome := by
  induction h with
  | refl => rfl
  | tail _ hstep ih =>
    have hagree := hstep.agree source
    exact Eq.trans hagree ih

/-- An exported interface with something unparsable behind a member of it, and behind itself. -/
def brokenSource : String := "export interface A { x: B; @ } %"

/-- The property of the interface. -/
def propertyX : Tree :=
  .node "property_signature" true none 21 25 0
    [.node "property_identifier" true (some "name") 21 22 0 [],
      .node "type_annotation" true (some "type") 22 25 0
        [.node ":" false none 22 23 0 [], .node "type_identifier" true none 24 25 0 []]]

/-- Something unparsable of one byte. -/
def unparsableAt (start : Nat) : Tree :=
  .node "ERROR" true none start (start + 1) 0 []

/-- The body of the interface. -/
def bodyOf (members : List Tree) : Tree :=
  .node "interface_body" true (some "body") 19 30 0 members

/-- The interface with the given body. -/
def interfaceA (body : Tree) : Tree :=
  .node "interface_declaration" true (some "declaration") 7 30 0
    [.node "interface" false none 7 16 0 [], .node "type_identifier" true (some "name") 17 18 0 [],
      body]

/-- The export of a declaration. -/
def exportOf (declaration : Tree) : Tree :=
  .node "export_statement" true none 0 30 0 [.node "export" false none 0 6 0 [], declaration]

/-- A program of the given statements. -/
def programOf (statements : List Tree) : Tree :=
  .node "program" true none 0 32 0 statements

/-- The program with the unparsable parts is tidied in three steps, and has the interface with its
property as its only statement. -/
theorem statements_tidied_exportedInterface :
    Relation.ReflTransGen (Tidies .statements)
      (programOf [exportOf (interfaceA (bodyOf [propertyX, unparsableAt 27])), unparsableAt 31])
      (programOf [interfaceA (bodyOf [propertyX])]) ∧
    ((programOf [exportOf (interfaceA (bodyOf [propertyX, unparsableAt 27])),
      unparsableAt 31]).statements brokenSource.toUTF8).outcome =
      .ok [.interfaceDecl (some 1) (.identifier (some 1) "A") [] []
        [.field .propertySignature (some 1) (.identifier (some 1) "x")
          (.typeReference (some 1) (.identifier (some 1) "B") []) false []]] := by
  have hbody : Tidies .members (bodyOf [propertyX, unparsableAt 27]) (bodyOf [propertyX]) :=
    @Tidies.skipMember _ _ (unparsableAt 27) [propertyX] [] rfl (.inl (List.mem_singleton_self _))
      (by decide)
  have hinterface : Tidies .statement (interfaceA (bodyOf [propertyX, unparsableAt 27]))
      (interfaceA (bodyOf [propertyX])) := by
    refine @Tidies.inside _ (interfaceA _) (bodyOf _) ((interfaceA default).children.take 2) []
      [propertyX] rfl fun inner hinner => ?_
    obtain rfl := List.mem_singleton.mp hinner
    exact hbody
  have hexport : Tidies .statement (exportOf (interfaceA (bodyOf [propertyX, unparsableAt 27])))
      (exportOf (interfaceA (bodyOf [propertyX]))) := by
    refine @Tidies.inside _ (exportOf _) (interfaceA _) ((exportOf default).children.take 1) []
      (interfaceA (bodyOf [propertyX])).children rfl fun inner hinner => ?_
    obtain rfl := List.mem_singleton.mp hinner
    exact hinterface
  have hfirst : Tidies .statements
      (programOf [exportOf (interfaceA (bodyOf [propertyX, unparsableAt 27])), unparsableAt 31])
      (programOf [exportOf (interfaceA (bodyOf [propertyX])), unparsableAt 31]) := by
    refine @Tidies.inside _ (programOf _) (exportOf _) [] [unparsableAt 31]
      (exportOf (interfaceA (bodyOf [propertyX]))).children rfl fun inner hinner => ?_
    obtain rfl := List.mem_singleton.mp hinner
    exact hexport
  have hsecond : Tidies .statements
      (programOf [exportOf (interfaceA (bodyOf [propertyX])), unparsableAt 31])
      (programOf [exportOf (interfaceA (bodyOf [propertyX]))]) :=
    @Tidies.skipStatement _ (programOf _) (unparsableAt 31)
      [exportOf (interfaceA (bodyOf [propertyX]))] [] rfl (List.mem_singleton_self _) (by decide)
  have hthird : Tidies .statements (programOf [exportOf (interfaceA (bodyOf [propertyX]))])
      (programOf [interfaceA (bodyOf [propertyX])]) :=
    @Tidies.unwrap _ (programOf _) (exportOf (interfaceA (bodyOf [propertyX]))) [] [] rfl
      (List.mem_singleton_self _) (by decide) rfl
  have hsteps := ((Relation.ReflTransGen.single hfirst).tail hsecond).tail hthird
  refine ⟨hsteps, (statements_tidied hsteps).symm.trans ?_⟩
  with_unfolding_all rfl

end Tree

end ReasonBindings
