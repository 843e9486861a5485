import ReasonBindings.Proofs.Syntax.Essence

/-!
# Object shapes

The shape of an object can be declared as an interface, as an alias of an object type,
and in place, as the type of a variable.  The members are read in different scopes: inside
of the interface, of the alias, or of the object type, which has no type parameters.  What
they contribute depends on the names of the type parameters in scope only, so the record
is the same each time.

A shape that is written in place has a name of its own, the name of the variable with an
ending, and that name is the type of the variable.
-/

namespace ReasonBindings

open Syntax

namespace Model

/-- The record of a shape with the given members, which are read in the given scope. -/
def objectShape (scope : Scope) (name : Traced String) (members : List Node) :
    Traced Interface := do
  let chosen ← name
  let contributions ← Traced.all (members.map (contributionOf scope chosen))
  return interfaceWith chosen .interfaceLike [] contributions

/-- A shape depends on what its name ends in and on the names of the type parameters in scope. -/
lemma objectShape_congr {scope scope' : Scope} (hscope : scope.SameNames scope')
    {name name' : Traced String} (hname : name.outcome = name'.outcome) (members : List Node) :
    (objectShape scope name members).outcome = (objectShape scope' name' members).outcome := by
  have hcontributions : contributionOf scope = contributionOf scope' := by
    funext owner member
    exact contributionOf_congr hscope owner member
  rw [objectShape, objectShape, Traced.bind_outcome, Traced.bind_outcome, hname, hcontributions]

/-! ### Declarations of shapes -/

/-- A declaration of members without heritage clauses has the record of a shape. -/
lemma interfaceOf_eq_objectShape {node : Node} {members : List Node}
    (hheritage : node.heritage = []) (hmembers : node.members? = some members) (scope : Scope)
    (name : Option String) :
    (interfaceOf scope node .interfaceLike name).outcome =
      (objectShape (scope.enter node) (chosenName node name) members).outcome := by
  have hparents : Traced.all (node.heritage.map (clauseTexts (scope.enter node))) = pure [] := by
    rw [hheritage]
    rfl
  rw [interfaceOf, objectShape, hparents, hmembers]
  simp only [Traced.pure_bind, Traced.present_some, Traced.bind_outcome, Traced.note_outcome,
    Traced.pure_outcome, List.flatten_nil]
  rfl

/-- An alias of an object type has the record of a shape. -/
lemma aliasOf_eq_objectShape {node : Node} {line : Line} {members : List Node}
    (htype : node.type? = some (.objectType line members)) (scope : Scope) :
    (aliasOf scope node).outcome =
      (objectShape (scope.enter node) (genericName node) members).outcome := by
  rw [aliasOf, objectShape, htype]
  simp only [Traced.present_some, Traced.pure_bind, Traced.bind_outcome, Traced.note_outcome,
    Traced.pure_outcome]
  rfl

/-- Declarations with the same name and the same type parameters have the same name with type
parameters, whatever is reported. -/
lemma genericName_outcome_congr {node node' : Node} (hname : node.declaredName = node'.declaredName)
    (htypeParameters : node.typeParameters? = node'.typeParameters?)
    (hline : node.line?.isSome = node'.line?.isSome) :
    (genericName node).outcome = (genericName node').outcome := by
  rw [genericName, genericName, Traced.bind_outcome, Traced.bind_outcome,
    Node.requiredName_outcome_congr hname hline, htypeParameters]

/-- **Aliases.**  An alias of an object type has the record of the interface with the same name,
type parameters and members. -/
lemma aliasOf_objectType (scope : Scope) (line typeLine line' : Line) (name : Node)
    (typeParameters members : List Node) :
    (aliasOf scope (.aliasDecl line name typeParameters (.objectType typeLine members))).outcome =
      (interfaceOf scope (.interfaceDecl line' name typeParameters [] members) .interfaceLike
        none).outcome := by
  have hname : (genericName (.aliasDecl line name typeParameters
      (.objectType typeLine members))).outcome =
      (genericName (.interfaceDecl line' name typeParameters [] members)).outcome :=
    genericName_outcome_congr rfl rfl rfl
  rw [aliasOf_eq_objectShape rfl, interfaceOf_eq_objectShape rfl rfl]
  refine objectShape_congr ((Scope.SameNames.refl scope).enter_congr ?_) hname members
  rfl

/-! ### Object types in place -/

/-- The name of the shape of a variable is a name. -/
lemma chosenName_inlineName (node : Node) (declared : String) :
    chosenName node (some (inlineName declared)) = pure (inlineName declared) := by
  have hname : inlineName declared ≠ "" := by
    intro hempty
    have hlength := congrArg String.length hempty
    rw [inlineName, String.length_append] at hlength
    exact absurd hlength (by simp)
  rw [chosenName, if_neg hname]

/-- **Object types in place.**  An object type has the record of the interface with the same members
that has its name and no type parameters. -/
lemma interfaceOf_objectType (scope : Scope) (typeLine line nameLine : Line) (declared : String)
    (members : List Node) :
    (interfaceOf scope (.objectType typeLine members) .interfaceLike
        (some (inlineName declared))).outcome =
      (interfaceOf scope (.interfaceDecl line (.identifier nameLine (inlineName declared)) [] []
        members) .interfaceLike none).outcome := by
  rw [interfaceOf_eq_objectShape rfl rfl, interfaceOf_eq_objectShape rfl rfl, chosenName_inlineName]
  refine objectShape_congr ((Scope.SameNames.refl scope).enter_congr ?_) ?_ members
  · rfl
  · rfl

/-- A shape has the name that is given to it. -/
lemma name_of_objectShape {scope : Scope} {name : String} {members : List Node} {shape : Interface}
    (h : (objectShape scope (pure name) members).outcome = .ok shape) : shape.name = name := by
  rw [objectShape, Traced.pure_bind] at h
  obtain ⟨contributions, -, rfl⟩ := Traced.bind_pure_outcome_eq_ok.mp h
  rfl

/-- A variable with an object type written in place has the record of that shape, the name of which
is its type. -/
lemma variableOf_objectType (scope : Scope) (declarationLine typeLine line nameLine : Line)
    (name : Node) (members : List Node) :
    (variableOf scope (.variableDecl declarationLine name (.objectType typeLine members))).outcome =
      (do
        let declared ← (Node.variableDecl declarationLine name
          (.objectType typeLine members)).requiredName
        let shape ← interfaceOf scope (.interfaceDecl line
          (.identifier nameLine (inlineName declared)) [] [] members) .interfaceLike none
        return (⟨declared, inlineName declared, true⟩, some shape) :
          Traced (Variable × Option Interface)).outcome := by
  rw [variableOf, Traced.bind_outcome, Traced.bind_outcome]
  refine bind_congr fun declared => ?_
  rw [Node.type?, Traced.present_some, Traced.pure_bind, Traced.bind_outcome, Traced.bind_outcome,
    interfaceOf_objectType scope typeLine line nameLine]
  cases hshape : (interfaceOf scope (.interfaceDecl line (.identifier nameLine
      (inlineName declared)) [] [] members) .interfaceLike none).outcome with
  | error cause => rfl
  | ok shape =>
    rw [interfaceOf_eq_objectShape rfl rfl] at hshape
    have hname : shape.name = inlineName declared := name_of_objectShape hshape
    exact congrArg Except.ok (by rw [hname])

/-- The records of the variables of a statement are those of any one of them between those of the
variables before it and behind it. -/
lemma variablesOf_append_cons (scope : Scope) (line : Line) (before after : List Node)
    (declaration : Node) :
    variablesOf scope (.variableStatement line (before ++ declaration :: after)) = (do
      let first ← variablesOf scope (.variableStatement line before)
      let record ← variableOf scope declaration
      let rest ← variablesOf scope (.variableStatement line after)
      return (first.1 ++ record.1 :: rest.1, first.2 ++ (record.2.toList ++ rest.2))) := by
  simp only [variablesOf, Node.declarations?, Traced.present_some, Traced.pure_bind,
    List.map_append, List.map_cons, Traced.all_append, Traced.all, Traced.bind_assoc,
    ← Traced.bind_pure_comp]
  refine bind_congr fun first => bind_congr fun record => bind_congr fun rest => ?_
  obtain ⟨global, shape⟩ := record
  cases shape with
  | none => simp
  | some shape => simp

/-! ### Three ways to write a shape -/

/-- **Interfaces, aliases and object types in place.**  An alias of an object type has the record of
the interface with the same name, type parameters and members.  A variable with an object type
written in place has, as the record of that type, the record of the interface without type
parameters that is called by the name of the variable with an ending and has the same members; this
name is the type of the variable.  Each of them ends in a fault whenever the interface does. -/
theorem objectTypes_agree (scope : Scope) (name : Node) (members : List Node) :
    (∀ line typeLine line' typeParameters,
      (aliasOf scope (.aliasDecl line name typeParameters (.objectType typeLine members))).outcome =
        (interfaceOf scope (.interfaceDecl line' name typeParameters [] members) .interfaceLike
          none).outcome) ∧
    ∀ line declarationLine typeLine line' nameLine before after,
      (variablesOf scope (.variableStatement line (before ++
          .variableDecl declarationLine name (.objectType typeLine members) :: after))).outcome =
        (do
          let first ← variablesOf scope (.variableStatement line before)
          let declared ← (Node.variableDecl declarationLine name
            (.objectType typeLine members)).requiredName
          let shape ← interfaceOf scope (.interfaceDecl line'
            (.identifier nameLine (inlineName declared)) [] [] members) .interfaceLike none
          let rest ← variablesOf scope (.variableStatement line after)
          return (first.1 ++ ⟨declared, inlineName declared, true⟩ :: rest.1,
            first.2 ++ shape :: rest.2) : Traced (List Variable × List Interface)).outcome := by
  constructor
  · intro line typeLine line' typeParameters
    exact aliasOf_objectType scope line typeLine line' name typeParameters members
  · intro line declarationLine typeLine line' nameLine before after
    rw [variablesOf_append_cons]
    simp only [Traced.bind_outcome, variableOf_objectType scope declarationLine typeLine line'
      nameLine, bind_assoc]
    rfl

end Model

end ReasonBindings
