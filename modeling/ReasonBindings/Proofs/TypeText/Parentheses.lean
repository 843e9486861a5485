import ReasonBindings.Proofs.Syntax.Essence
import ReasonBindings.Proofs.Traced.Growing

/-!
# Parentheses

Parentheses around a type do not count: an annotation has the text of the type without
its parentheses, wherever they stand.  The one place where they are seen is a union.  A
union is a union of strings when its first arm is a string, and the cases of such a union
are the arms that are strings; an arm in parentheses is no string there, whatever it
encloses.  A union shows its parentheses exactly when it would be one of strings without
them and a string among its arms has them.

An annotation shows its parentheses exactly when one of its unions does.  The quotes tell
it: a union that shows its parentheses has more quotes without them, every other one has as
many, and the quotes of an annotation are those of its parts and of its names.  So one
union cannot make up for what another one shows.

A type with parentheses in it stands in the place of a type only.  Where a parameter, a
member or a name is expected, nothing is taken out of parentheses.
-/

namespace ReasonBindings

open Syntax TypeText

/-! ### Types without their parentheses -/

namespace Syntax

mutual

/-- A type without the parentheses around it and around the types in it. -/
def Node.unparenthesized : Node → Node
  | .parenthesizedType _ inner => inner.unparenthesized
  | .arrayType line element => .arrayType line element.unparenthesized
  | .unionType line arms => .unionType line (unparenthesizedTypes arms)
  | .tupleType line elements => .tupleType line (unparenthesizedTypes elements)
  | .typeReference line name arguments => .typeReference line name (unparenthesizedTypes arguments)
  | .heritageType line expression arguments =>
    .heritageType line expression (unparenthesizedTypes arguments)
  | .objectType line members => .objectType line (unparenthesizedParts members)
  | .parameter line name type optional rest =>
    .parameter line name type.unparenthesized optional rest
  | .field kind line name type optional modifiers =>
    .field kind line name type.unparenthesized optional modifiers
  | .signature kind line name type optional modifiers typeParameters parameters =>
    .signature kind line name type.unparenthesized optional modifiers typeParameters
      (unparenthesizedParts parameters)
  | node => node

/-- The types of a list without their parentheses. -/
def unparenthesizedTypes : List Node → List Node
  | [] => []
  | node :: nodes => node.unparenthesized :: unparenthesizedTypes nodes

/-- The parameters or members of a list, with their types without parentheses. -/
def unparenthesizedParts : List Node → List Node
  | [] => []
  | .parenthesizedType line inner :: nodes =>
    .parenthesizedType line inner :: unparenthesizedParts nodes
  | node :: nodes => node.unparenthesized :: unparenthesizedParts nodes

end

/-- The types of a list are taken out of their parentheses one by one. -/
lemma unparenthesizedTypes_eq_map (nodes : List Node) :
    unparenthesizedTypes nodes = nodes.map Node.unparenthesized := by
  induction nodes with
  | nil => rfl
  | cons node nodes ih => rw [unparenthesizedTypes, ih, List.map_cons]

/-- A parameter or a member with its types without parentheses. -/
def Node.partUnparenthesized : Node → Node
  | .parenthesizedType line inner => .parenthesizedType line inner
  | node => node.unparenthesized

/-- The parameters or members of a list are treated one by one. -/
lemma unparenthesizedParts_eq_map (nodes : List Node) :
    unparenthesizedParts nodes = nodes.map Node.partUnparenthesized := by
  induction nodes with
  | nil => rfl
  | cons node nodes ih =>
    rw [List.map_cons, ← ih]
    cases node <;> rfl

end Syntax

/-! ### Unions -/

/-- The node is a string that stands for a type. -/
def Syntax.Node.isStringCase : Node → Bool
  | .text .stringLiteralType .. => true
  | _ => false

/-- The first of the arms is a string. -/
def OpensWithString (arms : List Node) : Prop :=
  ∃ first ∈ arms.head?, first.isStringCase = true

instance (arms : List Node) : Decidable (OpensWithString arms) :=
  inferInstanceAs (Decidable (∃ first ∈ arms.head?, _))

/-- There are no parentheses around the node if it is a string without them. -/
def Syntax.Node.BareCase (arm : Node) : Prop :=
  arm.unparenthesized.isStringCase = true → arm.isStringCase = true

instance (arm : Node) : Decidable arm.BareCase :=
  inferInstanceAs (Decidable (_ → _))

/-- If the union is one of strings without its parentheses, none of the strings has any. -/
def BareCases (arms : List Node) : Prop :=
  OpensWithString (unparenthesizedTypes arms) → ∀ arm ∈ arms, arm.BareCase

instance (arms : List Node) : Decidable (BareCases arms) :=
  inferInstanceAs (Decidable (_ → ∀ arm ∈ arms, _))

/-- A case that is no string is left open. -/
lemma enumCase_of_not_isStringCase {node : Node} (h : node.isStringCase = false) :
    enumCase node = "_" := by
  cases node with
  | text kind =>
    cases kind with
    | stringLiteralType => cases h
    | _ => rfl
  | _ => rfl

/-- A string stays as it is. -/
lemma unparenthesized_of_isStringCase {node : Node} (h : node.isStringCase = true) :
    node.unparenthesized = node := by
  cases node with
  | text => rfl
  | _ => cases h

/-- A union that begins with a string has its cases in a comment. -/
lemma union_of_opensWithString {arms : List Node} (h : OpensWithString arms) :
    union arms =
      pure ("/* StringEnum " ++ " | ".intercalate (arms.map enumCase) ++ " */ string") := by
  obtain ⟨first, hfirst, hstring⟩ := h
  cases arms with
  | nil => cases hfirst
  | cons head tail =>
    obtain rfl : head = first := Option.some.inj hfirst
    cases head with
    | text kind =>
      cases kind with
      | stringLiteralType => rfl
      | _ => cases hstring
    | _ => cases hstring

/-- Any other union is reported, with the number of its arms. -/
lemma union_of_not_opensWithString {arms : List Node} (h : ¬ OpensWithString arms) :
    union arms = (do Traced.note (.degradedUnion arms.length); return anonymous) := by
  cases arms with
  | nil => rfl
  | cons head tail =>
    have hstring : head.isStringCase = false :=
      Bool.eq_false_iff.mpr fun htrue => h ⟨head, rfl, htrue⟩
    cases head with
    | text kind =>
      cases kind with
      | stringLiteralType => cases hstring
      | _ => rfl
    | _ => rfl

/-- A case that is no string in parentheses is the same without its parentheses. -/
lemma enumCase_unparenthesized {arm : Node} (h : arm.BareCase) :
    enumCase arm.unparenthesized = enumCase arm := by
  by_cases hcore : arm.unparenthesized.isStringCase = true
  · rw [unparenthesized_of_isStringCase (h hcore)]
  · have harm : arm.isStringCase = false := by
      rw [Bool.eq_false_iff]
      intro hstring
      rw [unparenthesized_of_isStringCase hstring] at hcore
      exact hcore hstring
    rw [enumCase_of_not_isStringCase harm,
      enumCase_of_not_isStringCase (Bool.eq_false_iff.mpr hcore)]

/-- A union that begins with a string does so without its parentheses as well. -/
lemma OpensWithString.unparenthesized {arms : List Node} (h : OpensWithString arms) :
    OpensWithString (unparenthesizedTypes arms) := by
  obtain ⟨first, hfirst, hstring⟩ := h
  refine ⟨first, ?_, hstring⟩
  rw [unparenthesizedTypes_eq_map, List.head?_map, hfirst]
  exact congrArg some (unparenthesized_of_isStringCase hstring)

/-- A union with bare cases that is one of strings without its parentheses is one with them. -/
lemma BareCases.opensWithString {arms : List Node} (h : BareCases arms)
    (hopens : OpensWithString (unparenthesizedTypes arms)) : OpensWithString arms := by
  obtain ⟨core, hcore, hstring⟩ := hopens
  rw [unparenthesizedTypes_eq_map, List.head?_map] at hcore
  obtain ⟨first, hfirst, rfl⟩ := Option.map_eq_some_iff.mp hcore
  have hbare := h ⟨first.unparenthesized, by
    rw [unparenthesizedTypes_eq_map, List.head?_map, hfirst]; rfl, hstring⟩
  exact ⟨first, hfirst, hbare first (List.mem_of_head? hfirst) hstring⟩

/-- A union with bare cases does not show its parentheses. -/
lemma union_unparenthesizedTypes {arms : List Node} (h : BareCases arms) :
    union (unparenthesizedTypes arms) = union arms := by
  by_cases hopens : OpensWithString (unparenthesizedTypes arms)
  · have hcases : (unparenthesizedTypes arms).map enumCase = arms.map enumCase := by
      rw [unparenthesizedTypes_eq_map, List.map_map]
      exact List.map_congr_left fun arm hmem => enumCase_unparenthesized (h hopens arm hmem)
    rw [union_of_opensWithString hopens, union_of_opensWithString (h.opensWithString hopens),
      hcases]
  · rw [union_of_not_opensWithString hopens,
      union_of_not_opensWithString fun harms => hopens harms.unparenthesized,
      unparenthesizedTypes_eq_map, List.length_map]

/-! ### Quotes -/

/-- The number of quotes in a text. -/
def quotes (text : String) : Nat :=
  text.toList.count '"'

/-- The quotes of a text are followed by those of the text behind it. -/
lemma quotes_append (first second : String) :
    quotes (first ++ second) = quotes first + quotes second := by
  rw [quotes, String.toList_append, List.count_append]
  rfl

/-- Separators without quotes add none. -/
lemma quotes_intercalate {separator : String} (h : quotes separator = 0) (texts : List String) :
    quotes (separator.intercalate texts) = Traced.totalSize quotes texts := by
  induction texts with
  | nil => rfl
  | cons head tail ih =>
    rw [Traced.totalSize_cons]
    cases tail with
    | nil =>
      rw [String.intercalate_singleton]
      rfl
    | cons next rest =>
      rw [String.intercalate_cons_cons, quotes_append, quotes_append, h, ih]
      rfl

/-- The quotes of a list of arguments are those of the arguments. -/
lemma quotes_argumentList (texts : List String) :
    quotes (argumentList texts) = Traced.totalSize quotes texts := by
  unfold argumentList
  split
  · next hempty =>
    rw [List.isEmpty_iff.mp hempty]
    rfl
  · rw [quotes_append, quotes_append, quotes_intercalate rfl]
    exact Nat.zero_add _

/-- The quotes of a function type are those of its parameters and of its result. -/
lemma quotes_function (parameters : List String) (result : String) :
    quotes (function parameters result) = Traced.totalSize quotes parameters + quotes result := by
  have htaken : quotes (if arrow.intercalate parameters = "" then unit
      else arrow.intercalate parameters) = Traced.totalSize quotes parameters := by
    have hseparator : quotes arrow = 0 := rfl
    rw [← quotes_intercalate hseparator]
    split
    · next hempty =>
      rw [hempty]
      rfl
    · rfl
  have hopen : quotes "(" = 0 := rfl
  have harrow : quotes arrow = 0 := rfl
  have hclose : quotes ")" = 0 := rfl
  rw [function, quotes_append, quotes_append, quotes_append, quotes_append, htaken, hopen, harrow,
    hclose]
  omega

/-- The quotes of a reference are those of its arguments and of its name. -/
lemma quotes_referenceText (raw ending : String) (texts : List String) (isVariable : Bool) :
    quotes (referenceText isVariable raw ending (argumentList texts)) =
      Traced.totalSize quotes texts + quotes (referenceText isVariable raw ending "") := by
  have hname : referenceText isVariable raw ending (argumentList texts) =
      referenceText isVariable raw ending "" ++ argumentList texts := by
    cases isVariable <;> simp [referenceText]
  rw [hname, quotes_append, quotes_argumentList, Nat.add_comm]

/-! ### Unions that show their parentheses -/

/-- A string has quotes. -/
lemma quotes_enumCase_pos {node : Node} (h : node.isStringCase = true) :
    0 < quotes (enumCase node) := by
  cases node with
  | text kind line text =>
    cases kind with
    | stringLiteralType =>
      have hquote : quotes "\"" = 1 := rfl
      rw [enumCase, quotes_append, quotes_append, hquote]
      omega
    | _ => cases h
  | _ => cases h

/-- A case with parentheses that show has fewer quotes than without these. -/
lemma quotes_enumCase_lt {arm : Node} (h : ¬ arm.BareCase) :
    quotes (enumCase arm) < quotes (enumCase arm.unparenthesized) := by
  obtain ⟨hcore, harm⟩ := Classical.not_imp.mp h
  rw [enumCase_of_not_isStringCase (Bool.eq_false_iff.mpr harm)]
  exact quotes_enumCase_pos hcore

/-- No case loses quotes without its parentheses. -/
lemma quotes_enumCase_le (arm : Node) :
    quotes (enumCase arm) ≤ quotes (enumCase arm.unparenthesized) := by
  by_cases hbare : arm.BareCase
  · exact Nat.le_of_eq (congrArg quotes (enumCase_unparenthesized hbare).symm)
  · exact Nat.le_of_lt (quotes_enumCase_lt hbare)

/-- Without parentheses the cases of a union have at least as many quotes, and more unless the cases
are bare. -/
lemma quotes_enumCases (arms : List Node) :
    Traced.totalSize quotes (arms.map enumCase) ≤
        Traced.totalSize quotes ((unparenthesizedTypes arms).map enumCase) ∧
      (Traced.totalSize quotes ((unparenthesizedTypes arms).map enumCase) =
        Traced.totalSize quotes (arms.map enumCase) → ∀ arm ∈ arms, arm.BareCase) := by
  induction arms with
  | nil => exact ⟨Nat.le_refl _, fun _ => List.forall_mem_nil _⟩
  | cons arm arms ih =>
    obtain ⟨hle, hbare⟩ := ih
    have harm := quotes_enumCase_le arm
    rw [List.map_cons, unparenthesizedTypes, List.map_cons, Traced.totalSize_cons,
      Traced.totalSize_cons]
    refine ⟨Nat.add_le_add harm hle, fun heq => List.forall_mem_cons.mpr ⟨?_, hbare ?_⟩⟩
    · by_contra hshown
      have hlonger := quotes_enumCase_lt hshown
      omega
    · omega

/-- The quotes of a union of strings are those of its cases. -/
lemma quotes_stringUnion (texts : List String) :
    quotes ("/* StringEnum " ++ " | ".intercalate texts ++ " */ string") =
      Traced.totalSize quotes texts := by
  rw [quotes_append, quotes_append, quotes_intercalate rfl]
  exact Nat.zero_add _

/-- **Unions.**  A union without its parentheses has the same text when its cases are bare, and a
text with more quotes otherwise. -/
lemma growsUnless_union (arms : List Node) :
    Traced.GrowsUnless quotes (BareCases arms) (union arms)
      (union (unparenthesizedTypes arms)) := by
  refine ⟨union_unparenthesizedTypes, ?_⟩
  by_cases hopens : OpensWithString (unparenthesizedTypes arms)
  · obtain ⟨hle, hbare⟩ := quotes_enumCases arms
    rw [union_of_opensWithString hopens]
    by_cases harms : OpensWithString arms
    · rw [union_of_opensWithString harms]
      change quotes _ ≤ quotes _ ∧ (quotes _ = quotes _ → BareCases arms)
      rw [quotes_stringUnion, quotes_stringUnion]
      exact ⟨hle, fun heq _ => hbare heq⟩
    · rw [union_of_not_opensWithString harms]
      change 0 ≤ quotes _ ∧ (quotes _ = 0 → BareCases arms)
      rw [quotes_stringUnion]
      refine ⟨Nat.zero_le _, fun hnone _ => hbare ?_⟩
      omega
  · have hbare : BareCases arms := fun h => absurd h hopens
    rw [union_unparenthesizedTypes hbare]
    exact (Traced.GrowsUnless.refl hbare (union arms)).ends

/-! ### Annotations -/

/-- Every union that shows in the text of an annotation has bare cases. -/
def BareUnions (node : Node) : Prop :=
  ∀ line arms binders, Occurs (.unionType line arms) binders node → BareCases arms

/-- The node is not one of the types that have types in them. -/
def Syntax.Node.isLeafType : Node → Bool
  | .arrayType .. | .unionType .. | .tupleType .. | .parenthesizedType .. |
    .signature .functionType .. => false
  | node => (reference? node).isNone

/-- What shows of the type of a parameter of a function type has the unions with bare cases only.  A
rest parameter shows nothing of its type. -/
def BareParameter (parameter : Node) : Prop :=
  ∀ line name type optional, parameter = .parameter line name type optional false →
    BareUnions type

namespace BareUnions

/-- A type without types in it has no unions. -/
lemma of_isLeafType {node : Node} (h : node.isLeafType = true) : BareUnions node := by
  intro line arms binders hoccurs
  cases hoccurs with
  | argument hreference =>
    have hnone : reference? node = none := by
      unfold Node.isLeafType at h
      split at h
      all_goals first
        | cases h
        | exact Option.isNone_iff_eq_none.mp h
    rw [hnone] at hreference
    cases hreference
  | _ => cases h

/-- An array has the unions of its elements. -/
lemma arrayType {line : Line} {element : Node} :
    BareUnions (.arrayType line element) ↔ BareUnions element := by
  refine ⟨fun h _ _ _ hoccurs => h _ _ _ hoccurs.element, fun h line arms binders hoccurs => ?_⟩
  cases hoccurs with
  | element helement => exact h _ _ _ helement
  | argument hreference => cases hreference

/-- A union is the only one of its own that shows. -/
lemma unionType {line : Line} {arms : List Node} :
    BareUnions (.unionType line arms) ↔ BareCases arms := by
  refine ⟨fun h => h _ _ _ .here, fun h line arms binders hoccurs => ?_⟩
  cases hoccurs with
  | here => exact h
  | argument hreference => cases hreference

/-- A tuple has the unions of its components. -/
lemma tupleType {line : Line} {components : List Node} :
    BareUnions (.tupleType line components) ↔
      ∀ component ∈ components, BareUnions component := by
  refine ⟨fun h _ hmem _ _ _ hoccurs => h _ _ _ (hoccurs.component hmem),
    fun h line arms binders hoccurs => ?_⟩
  cases hoccurs with
  | component hmem hcomponent => exact h _ hmem _ _ _ hcomponent
  | argument hreference => cases hreference

/-- Parentheses have the unions of what they enclose. -/
lemma parenthesizedType {line : Line} {inner : Node} :
    BareUnions (.parenthesizedType line inner) ↔ BareUnions inner := by
  refine ⟨fun h _ _ _ hoccurs => h _ _ _ hoccurs.inner, fun h line arms binders hoccurs => ?_⟩
  cases hoccurs with
  | inner hinner => exact h _ _ _ hinner
  | argument hreference => cases hreference

/-- A function type has the unions of its result and of its parameters. -/
lemma functionType {line : Line} {name result : Node} {optional : Bool} {modifiers : List String}
    {typeParameters parameters : List Node} :
    BareUnions (.signature .functionType line name result optional modifiers typeParameters
        parameters) ↔
      (∀ parameter ∈ parameters, BareParameter parameter) ∧ BareUnions result := by
  constructor
  · refine fun h => ⟨?_, fun _ _ _ hoccurs => h _ _ _ hoccurs.result⟩
    rintro _ hmem _ _ _ _ rfl _ _ _ hoccurs
    exact h _ _ _ (hoccurs.parameter hmem)
  · rintro ⟨hparameters, hresult⟩ line arms binders hoccurs
    cases hoccurs with
    | parameter hmem htype => exact hparameters _ hmem _ _ _ _ rfl _ _ _ htype
    | result hoccurs => exact hresult _ _ _ hoccurs
    | argument hreference => cases hreference

/-- A reference has the unions of its arguments. -/
lemma reference {node : Node} {reference : Reference} (h : reference? node = some reference) :
    BareUnions node ↔ ∀ argument ∈ reference.arguments, BareUnions argument := by
  refine ⟨fun hbare _ hmem _ _ _ hoccurs => hbare _ _ _ (hoccurs.argument h hmem),
    fun harguments line arms binders hoccurs => ?_⟩
  cases hoccurs with
  | argument hreference hmem hargument =>
    obtain rfl := Option.some.inj (hreference.symm.trans h)
    exact harguments _ hmem _ _ _ hargument
  | _ => cases h

end BareUnions

/-- The parentheses of a type, or of the type of a parameter, do not show unless there is a union
that shows them. -/
structure Transparent (node : Node) : Prop where
  type : ∀ scope, Traced.GrowsUnless quotes (BareUnions node) (typeText scope node)
    (typeText scope node.unparenthesized)
  parameter : ∀ scope, Traced.GrowsUnless quotes (BareParameter node)
    (callbackParameterText scope node) (callbackParameterText scope node.partUnparenthesized)

/-- A node that is no parameter has no text as a parameter, with or without parentheses. -/
lemma Transparent.of_type {node : Node}
    (h : ∀ line name type optional rest, node ≠ .parameter line name type optional rest)
    (htype : ∀ scope, Traced.GrowsUnless quotes (BareUnions node) (typeText scope node)
      (typeText scope node.unparenthesized)) : Transparent node := by
  refine ⟨htype, fun scope => ?_⟩
  have hbare : BareParameter node := fun line name type optional heq =>
    absurd heq (h line name type optional false)
  cases node with
  | parameter line name type optional rest => exact absurd rfl (h line name type optional rest)
  | _ => exact .refl hbare _

/-- A type without types in it has no parentheses to be looked for. -/
lemma Transparent.of_isLeafType {node : Node}
    (h : ∀ line name type optional rest, node ≠ .parameter line name type optional rest)
    (hleaf : node.isLeafType = true)
    (hsame : ∀ scope, typeText scope node.unparenthesized = typeText scope node) :
    Transparent node := by
  refine .of_type h fun scope => ?_
  rw [hsame]
  exact .refl (BareUnions.of_isLeafType hleaf) _

/-- The texts of the types of a list grow unless none of them has a union that shows its
parentheses. -/
lemma growsUnless_types {nodes : List Node} (h : ∀ node ∈ nodes, Transparent node) (scope : Scope) :
    Traced.GrowsUnless (Traced.totalSize quotes) (∀ node ∈ nodes, BareUnions node)
      (Traced.all (nodes.map (typeText scope)))
      (Traced.all ((unparenthesizedTypes nodes).map (typeText scope))) := by
  rw [unparenthesizedTypes_eq_map, List.map_map]
  exact Traced.growsUnless_all fun node hmem => (h node hmem).type scope

/-- The texts of the parameters of a function type grow in the same way. -/
lemma growsUnless_parameters {nodes : List Node} (h : ∀ node ∈ nodes, Transparent node)
    (scope : Scope) :
    Traced.GrowsUnless (Traced.totalSize quotes) (∀ node ∈ nodes, BareParameter node)
      (Traced.all (nodes.map (callbackParameterText scope)))
      (Traced.all ((unparenthesizedParts nodes).map (callbackParameterText scope))) := by
  rw [unparenthesizedParts_eq_map, List.map_map]
  exact Traced.growsUnless_all fun node hmem => (h node hmem).parameter scope

/-- A reference refers to the same name without the parentheses of its arguments. -/
lemma reference?_unparenthesized {node : Node} {reference : Reference}
    (h : reference? node = some reference) :
    reference? node.unparenthesized = some
      ⟨reference.name, reference.ending, unparenthesizedTypes reference.arguments⟩ := by
  unfold reference? at h
  split at h
  all_goals first
    | rw [← Option.some.inj h]; rfl
    | cases h

/-- A reference shows the parentheses that its arguments show. -/
lemma growsUnless_reference {node : Node} {reference : Reference}
    (h : reference? node = some reference)
    (ih : ∀ argument ∈ reference.arguments, Transparent argument) (scope : Scope) :
    Traced.GrowsUnless quotes (BareUnions node) (typeText scope node)
      (typeText scope node.unparenthesized) := by
  rw [typeText_reference_resolves h, typeText_reference_resolves (reference?_unparenthesized h)]
  refine .bind_left fun raw => ?_
  have hname : Traced.GrowsUnless
      (fun isVariable => quotes (referenceText isVariable raw reference.ending "")) True
      (scope.resolves raw) (scope.resolves raw) := .refl trivial _
  have hwhole := Traced.GrowsUnless.both (quotes_referenceText raw reference.ending)
    (growsUnless_types ih scope) hname
  exact hwhole.congr (by rw [and_true, BareUnions.reference h])

/-- A function type shows the parentheses that its parameters and its result show. -/
lemma growsUnless_functionType {line : Line} {name result : Node} {optional : Bool}
    {modifiers : List String} {typeParameters parameters : List Node} (hresult : Transparent result)
    (hparameters : ∀ parameter ∈ parameters, Transparent parameter) (scope : Scope) :
    Traced.GrowsUnless quotes
      (BareUnions (.signature .functionType line name result optional modifiers typeParameters
        parameters))
      (typeText scope (.signature .functionType line name result optional modifiers typeParameters
        parameters))
      (typeText scope (Node.signature .functionType line name result optional modifiers
        typeParameters parameters).unparenthesized) := by
  have hnames : (scope.enter (Node.signature .functionType line name result optional modifiers
      typeParameters parameters).unparenthesized).SameNames (scope.enter (.signature .functionType
        line name result optional modifiers typeParameters parameters)) :=
    (Scope.SameNames.refl scope).enter_congr rfl
  rw [Node.unparenthesized] at hnames ⊢
  rw [typeText_functionType, typeText_functionType]
  simp only [hnames.typeText_eq, funext hnames.callbackParameterText_eq]
  refine Traced.GrowsUnless.congr ?_ BareUnions.functionType.symm
  exact .both quotes_function (growsUnless_parameters hparameters _) (hresult.type _)

/-- **Annotations.**  The parentheses of an annotation do not show unless one of its unions shows
them. -/
theorem transparent (node : Node) : Transparent node := by
  induction node using Node.induction with
  | node node ih =>
    cases node with
    | arrayType line element =>
      refine .of_type nofun fun scope => ?_
      rw [Node.unparenthesized, typeText_arrayType, typeText_arrayType]
      refine Traced.GrowsUnless.congr ?_ BareUnions.arrayType.symm
      refine ((ih element List.mem_cons_self).type scope).map fun text => ?_
      exact (quotes_append "array " text).trans (Nat.zero_add _)
    | unionType line arms =>
      exact .of_type nofun fun _ => (growsUnless_union arms).congr BareUnions.unionType.symm
    | tupleType line elements =>
      refine .of_type nofun fun scope => ?_
      rw [Node.unparenthesized, typeText_tupleType, typeText_tupleType]
      refine Traced.GrowsUnless.congr ?_ BareUnions.tupleType.symm
      exact (growsUnless_types ih scope).map (quotes_intercalate rfl)
    | parenthesizedType line inner =>
      refine .of_type nofun fun scope => ?_
      refine Traced.GrowsUnless.congr ?_ BareUnions.parenthesizedType.symm
      exact (ih inner List.mem_cons_self).type scope
    | parameter line name type optional rest =>
      refine ⟨fun scope => .refl (BareUnions.of_isLeafType rfl) _, fun scope => ?_⟩
      cases rest with
      | true => exact .refl (by rintro _ _ _ _ ⟨⟩) _
      | false =>
        have htype := (ih type (List.mem_cons_of_mem _ List.mem_cons_self)).type scope
        refine htype.congr ⟨?_, fun h => h line name type optional rfl⟩
        rintro h _ _ _ _ ⟨⟩
        exact h
    | typeReference line name arguments | heritageType line name arguments =>
      have harguments : ∀ argument ∈ arguments, Transparent argument := fun argument hmem =>
        ih argument (List.mem_cons_of_mem _ hmem)
      cases name with
      | text kind =>
        cases kind with
        | identifier => exact .of_type nofun (growsUnless_reference rfl harguments)
        | _ => exact .of_isLeafType nofun rfl fun _ => rfl
      | qualifiedName | propertyAccess =>
        first
        | exact .of_type nofun (growsUnless_reference rfl harguments)
        | exact .of_isLeafType nofun rfl fun _ => rfl
      | _ => exact .of_isLeafType nofun rfl fun _ => rfl
    | signature kind line name result optional modifiers typeParameters parameters =>
      cases kind with
      | functionType =>
        refine .of_type nofun (growsUnless_functionType ?_ fun parameter hmem => ?_)
        · exact ih result (List.mem_cons_of_mem _ List.mem_cons_self)
        · exact ih parameter (List.mem_cons_of_mem _ (List.mem_cons_of_mem _
            (List.mem_append_right _ hmem)))
      | _ => exact .of_isLeafType nofun rfl fun _ => rfl
    | _ => exact .of_isLeafType nofun rfl fun _ => rfl

/-- **Parentheses do not count, but around the cases of a union of strings.**  An annotation whose
unions have bare cases has the text of the type without any of its parentheses, and the same
reports.  The outcome is the same for these annotations only, and for those that have no text at
all: they end in the same fault without their parentheses. -/
theorem typeText_unparenthesized (scope : Scope) (node : Node) :
    (BareUnions node → typeText scope node.unparenthesized = typeText scope node) ∧
    ((typeText scope node.unparenthesized).outcome = (typeText scope node).outcome ↔
      BareUnions node ∨ ∃ cause, (typeText scope node).outcome = .error cause) :=
  ⟨((transparent node).type scope).same, ((transparent node).type scope).outcome_eq_iff⟩

/-- A function type in parentheses, with parentheses around the type of its parameter, around the
elements of the array that it gives, and around an arm of a union of strings that is no string. -/
def parenthesizedCallback : Node :=
  .parenthesizedType none <| .signature .functionType none .absent
    (.arrayType none <| .parenthesizedType none <| .unionType none
      [.text .stringLiteralType none "on", .parenthesizedType none (.keywordType none "number")])
    false [] [.typeParameter none (.identifier none "T")]
    [.parameter none (.identifier none "item") (.parenthesizedType none (plainReference "T"))
      false false]

/-- The parentheses of the function type do not show. -/
theorem typeText_parenthesizedCallback :
    BareUnions parenthesizedCallback ∧
    typeText Scope.empty parenthesizedCallback.unparenthesized =
      typeText Scope.empty parenthesizedCallback ∧
    (typeText Scope.empty parenthesizedCallback).outcome =
      .ok "('T => array /* StringEnum \"on\" | _ */ string)" := by
  have hbare : BareUnions parenthesizedCallback := by
    refine BareUnions.parenthesizedType.mpr (BareUnions.functionType.mpr ⟨?_, ?_⟩)
    · rintro _ hmem _ _ _ _ rfl
      obtain ⟨-, -, rfl, -⟩ := Node.parameter.inj (List.mem_singleton.mp hmem)
      exact BareUnions.parenthesizedType.mpr ((BareUnions.reference rfl).mpr (by simp))
    · refine BareUnions.arrayType.mpr (BareUnions.parenthesizedType.mpr ?_)
      exact BareUnions.unionType.mpr (by decide)
  exact ⟨hbare, (typeText_unparenthesized Scope.empty parenthesizedCallback).1 hbare, rfl⟩

/-- A union of two strings, the first of which stands in parentheses. -/
def quotedUnion : Node :=
  .unionType none [.parenthesizedType none (.text .stringLiteralType none "a"),
    .text .stringLiteralType none "b"]

/-- The parentheses of the union show: with them it is no union of strings. -/
theorem typeText_quotedUnion :
    typeText Scope.empty quotedUnion.unparenthesized ≠ typeText Scope.empty quotedUnion ∧
    (typeText Scope.empty quotedUnion.unparenthesized).outcome =
      .ok "/* StringEnum \"a\" | \"b\" */ string" ∧
    (typeText Scope.empty quotedUnion).outcome = .ok "'a" := by
  refine ⟨fun h => ?_, rfl, rfl⟩
  exact absurd (congrArg Traced.outcome h) (by decide)

end ReasonBindings
