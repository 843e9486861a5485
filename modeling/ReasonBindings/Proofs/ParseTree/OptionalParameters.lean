import ReasonBindings.Proofs.ParseTree.Signatures

/-!
# Optional parameters of parsed signatures

A caller may leave an optional argument out when its parameter is labelled with a question mark and
an argument without a label comes behind it.  Whether a parameter is optional shows in the
parse tree; the label is the name of the parameter, and a pattern that takes the argument apart
gives none.

The unit argument at the end is there when a parameter is optional, and the question mark is
printed when the parameter has a label as well.  So the optional parameters of a signature
stay omittable exactly when each of them has a label: otherwise one is printed like a required
parameter, although a unit argument comes after it.
-/

namespace ReasonBindings

open Model Syntax TypeText

/-! ### Parameters of signatures -/

namespace Tree

/-- A parameter in a list of parameters. -/
def isParameter (tree : Tree) : Bool :=
  tree.kind = "required_parameter" || tree.kind = "optional_parameter"

/-- A parameter with a question mark. -/
def isOptional (tree : Tree) : Bool :=
  tree.kind == "optional_parameter"

/-- The parameters of a signature. -/
def declaredParameters (tree : Tree) : List Tree :=
  match tree.child? "parameters" with
  | some list => list.parts.filter isParameter
  | none => []

/-- The node that names a parameter: the first part of the pattern of a rest parameter, and the
pattern of any other one. -/
def namingPattern? (parameter : Tree) : Option Tree :=
  match parameter.child? "pattern" with
  | some pattern => if pattern.kind = "rest_pattern" then pattern.parts.head? else some pattern
  | none => none

/-- The label of a parameter, which is empty when the pattern takes the argument apart. -/
def label (source : ByteArray) (parameter : Tree) : String :=
  match parameter.namingPattern? with
  | some pattern =>
    if pattern.kind = "identifier" || pattern.kind = "this" then pattern.text source else ""
  | none => ""

end Tree

/-- The node is read from the parameter: it has the same mark, and its name is the label. -/
structure Tree.ReadsAsParameter (source : ByteArray) (tree : Tree) (node : Node) : Prop where
  optional : node.optional? = some tree.isOptional
  label : ∃ name declared, node.name? = some name ∧ name.declaredName.outcome = .ok declared ∧
    declared.getD "" = tree.label source

namespace Reading

variable {source : ByteArray} {tree : Tree}

/-- The name of a parameter is its label. -/
lemma label_of_parameterTarget {target : Option Tree}
    (h : (parameterTarget (tree.child? "pattern")).outcome = .ok target) :
    ∃ declared, (parameterName source target).declaredName.outcome = .ok declared ∧
      declared.getD "" = tree.label source := by
  have htarget : tree.namingPattern? = target := by
    unfold Tree.namingPattern?
    cases hpattern : tree.child? "pattern" with
    | none =>
      rw [hpattern] at h
      exact Traced.pure_outcome_eq_ok.mp h
    | some pattern =>
      rw [hpattern] at h
      unfold parameterTarget at h
      by_cases hrest : pattern.kind = "rest_pattern"
      · simp only [if_pos hrest] at h ⊢
        cases hparts : pattern.parts with
        | nil =>
          rw [hparts] at h
          exact absurd h Traced.fault_outcome_ne_ok
        | cons first others =>
          rw [hparts] at h
          exact Traced.pure_outcome_eq_ok.mp h
      · simp only [if_neg hrest] at h ⊢
        exact Traced.pure_outcome_eq_ok.mp h
  rw [Tree.label, htarget]
  cases target with
  | none => exact ⟨none, rfl, rfl⟩
  | some pattern =>
    unfold parameterName
    by_cases hname : (pattern.kind = "identifier" || pattern.kind = "this") = true
    · simp only [if_pos hname]
      exact ⟨some (pattern.text source), rfl, rfl⟩
    · simp only [if_neg hname]
      exact ⟨none, rfl, rfl⟩

/-- A node is read as a parameter when it is one. -/
lemma readsAsParameter_of_parameterOf {children : List Child} {result : Option Node}
    (h : (parameterOf source tree children).outcome = .ok result) :
    (result.any fun _ => true) = tree.isParameter ∧
      ∀ node ∈ result, tree.ReadsAsParameter source node := by
  unfold parameterOf at h
  by_cases hkind : (tree.kind = "required_parameter" || tree.kind = "optional_parameter") = true
  · rw [if_pos hkind] at h
    obtain ⟨target, htarget, h⟩ := Traced.bind_outcome_eq_ok.mp h
    obtain ⟨type, -, rfl⟩ := Traced.bind_pure_outcome_eq_ok.mp h
    obtain ⟨declared, hdeclared, hlabel⟩ := label_of_parameterTarget htarget
    refine ⟨hkind.symm, ?_⟩
    rintro _ ⟨⟩
    exact ⟨rfl, _, declared, rfl, hdeclared, hlabel⟩
  · rw [if_neg hkind] at h
    obtain rfl := Traced.pure_outcome_eq_ok.mp h
    rw [Bool.not_eq_true] at hkind
    exact ⟨hkind.symm, fun _ hnode => nomatch hnode⟩

/-- The parameters of a signature are read one by one. -/
lemma readsAsParameters_of_parametersIn {parameters : List Node}
    (h : (parametersIn (childReadings source tree.children)).outcome = .ok parameters) :
    List.Forall₂ (Tree.ReadsAsParameter source) tree.declaredParameters parameters := by
  rw [parametersIn, fieldOr_childReadings] at h
  unfold Tree.declaredParameters
  cases hlist : tree.child? "parameters" with
  | none =>
    rw [hlist] at h
    obtain rfl := Traced.pure_outcome_eq_ok.mp h
    exact .nil
  | some list =>
    rw [hlist] at h
    change (list.reading source).parameters.outcome = .ok parameters at h
    rw [Tree.reading_eq] at h
    have hparts : List.Forall₂
        (fun part node => (part.reading source).parameter.outcome = .ok (some node))
        (list.parts.filter Tree.isParameter) (parameters.filter fun _ => true) := by
      refine forall₂_filter_of_gatherSome (fun part result hread => ?_) h
      rw [Tree.reading_eq] at hread
      exact (readsAsParameter_of_parameterOf hread).1
    rw [List.filter_true] at hparts
    refine hparts.imp fun part node hread => ?_
    rw [Tree.reading_eq] at hread
    exact (readsAsParameter_of_parameterOf hread).2 node rfl

/-- A member that is called has the parameters that are read with it. -/
lemma exists_parameters_of_memberOf {inClass : Bool} {node : Node} (hcalled : tree.isCalled = true)
    (h : (memberOf source tree (childReadings source tree.children) inClass).outcome =
      .ok (some node)) :
    ∃ parameters, (parametersIn (childReadings source tree.children)).outcome = .ok parameters ∧
      node.parameters? = some parameters := by
  unfold memberOf at h
  split at h
  case h_3 | h_4 | h_5 =>
    obtain ⟨parameters, hparameters, h⟩ := Traced.bind_outcome_eq_ok.mp h
    refine ⟨parameters, hparameters, ?_⟩
    split at h
    · obtain rfl := Option.some.inj (Traced.pure_outcome_eq_ok.mp h)
      rfl
    · obtain ⟨type, -, hnode⟩ := Traced.bind_pure_outcome_eq_ok.mp h
      obtain rfl := Option.some.inj hnode
      rfl
  case h_6 | h_7 =>
    obtain ⟨parameters, hparameters, h⟩ := Traced.bind_outcome_eq_ok.mp h
    obtain ⟨type, -, hnode⟩ := Traced.bind_pure_outcome_eq_ok.mp h
    obtain rfl := Option.some.inj hnode
    exact ⟨parameters, hparameters, rfl⟩
  all_goals simp_all [Tree.isCalled]

/-- The parameters of a signature are those of the node that it is read as. -/
lemma exists_parameters_of_readsAsSignature {node : Node}
    (h : tree.ReadsAsSignature source node) :
    ∃ parameters, node.parameters? = some parameters ∧
      List.Forall₂ (Tree.ReadsAsParameter source) tree.declaredParameters parameters := by
  have hmember : ∀ inClass, tree.isCalled = true →
      (memberOf source tree (childReadings source tree.children) inClass).outcome =
        .ok (some node) →
      ∃ parameters, node.parameters? = some parameters ∧
        List.Forall₂ (Tree.ReadsAsParameter source) tree.declaredParameters parameters := by
    intro inClass hcalled hread
    obtain ⟨parameters, hparameters, hnode⟩ := exists_parameters_of_memberOf hcalled hread
    exact ⟨parameters, hnode, readsAsParameters_of_parametersIn hparameters⟩
  cases h with
  | function hkind hread =>
    rw [statement_of_function hkind] at hread
    obtain ⟨node, hnode, heq⟩ := Traced.bind_pure_outcome_eq_ok.mp hread
    obtain rfl := List.singleton_inj.mp heq
    obtain ⟨parameters, hparameters, hnode⟩ := Traced.bind_outcome_eq_ok.mp hnode
    obtain ⟨type, -, rfl⟩ := Traced.bind_pure_outcome_eq_ok.mp hnode
    exact ⟨parameters, rfl, readsAsParameters_of_parametersIn hparameters⟩
  | member hcalled hread =>
    rw [Tree.reading_eq] at hread
    exact hmember false hcalled hread
  | classMember hcalled hread =>
    rw [Tree.reading_eq] at hread
    exact hmember true hcalled hread

end Reading

/-! ### Marks of parameters -/

/-- The parameter is printed behind a question mark and its label. -/
def Model.Parameter.IsMarked (parameter : Parameter) (labelled : Bool) : Prop :=
  parameter.text labelled = "?" ++ parameter.name ++ "::" ++ parameter.type

/-- **Marks.**  A parameter is marked when it is optional and has a label. -/
theorem Model.Parameter.isMarked_iff {parameter : Parameter} {labelled : Bool} :
    parameter.IsMarked labelled ↔ parameter.optional = true ∧ parameter.name ≠ "" := by
  -- Without the mark or without the label the text is too short.
  have hshort : ∀ before : String, before.length < 3 + parameter.name.length →
      before ++ parameter.type ≠ "?" ++ parameter.name ++ "::" ++ parameter.type := by
    intro before hbefore heq
    have hlength := congrArg String.length heq
    have hmark : "?".length = 1 := rfl
    have hcolons : "::".length = 2 := rfl
    simp only [String.length_append, hmark, hcolons] at hlength
    omega
  have hbare : parameter.type ≠ "?" ++ parameter.name ++ "::" ++ parameter.type := by
    have hempty := hshort "" (by rw [String.length_empty]; omega)
    rwa [String.empty_append] at hempty
  unfold IsMarked text
  by_cases hname : parameter.name = ""
  · have hunlabelled : ¬ ((labelled || parameter.optional) && parameter.name != "") = true := by
      simp [hname]
    rw [if_neg hunlabelled]
    constructor
    · intro heq
      exact absurd heq hbare
    · rintro ⟨-, hne⟩
      exact absurd hname hne
  by_cases hoptional : parameter.optional = true
  · have hlabelled : ((labelled || parameter.optional) && parameter.name != "") = true := by
      simp [hoptional, hname]
    rw [if_pos hlabelled, if_pos hoptional]
    exact ⟨fun _ => ⟨hoptional, hname⟩, fun _ => rfl⟩
  · constructor
    · intro heq
      refine absurd heq ?_
      rw [if_neg hoptional, String.empty_append]
      split
      · apply hshort
        have hcolons : "::".length = 2 := rfl
        rw [String.length_append, hcolons]
        omega
      · exact hbare
    · rintro ⟨htrue, -⟩
      exact absurd htrue hoptional

/-! ### Signatures with optional parameters -/

/-- The parameters of a method are those of the signature, with their labels and marks, and behind
them the sentinel if one of them is optional. -/
structure Model.Method.Takes (source : ByteArray) (signature : Tree) (own : List Parameter)
    (method : Method) : Prop where
  declared : List.Forall₂ (fun tree parameter => parameter.name = tree.label source ∧
    parameter.optional = tree.isOptional) signature.declaredParameters own
  parameters : method.parameters =
    own ++ if signature.declaredParameters.any Tree.isOptional then [sentinel] else []

/-- Every optional parameter of the signature is marked in the binding of the method, and the
sentinel is there exactly when one of the parameters before it is marked. -/
structure Model.Method.StaysOmittable (signature : Tree) (own : List Parameter)
    (method : Method) : Prop where
  marked : List.Forall₂ (fun tree parameter => tree.isOptional = true →
    parameter.IsMarked method.isLabelled) signature.declaredParameters own
  omittable : method.parameters = own ++ [sentinel] ↔
    ∃ parameter ∈ own, parameter.IsMarked method.isLabelled

/-- The record of a signature takes its parameters. -/
lemma Model.Method.Binds.exists_takes {source : ByteArray} {signature : Tree} {method : Method}
    (h : method.Binds source signature) : ∃ own, method.Takes source signature own := by
  obtain ⟨node, hread, scope, owner, name, template, record, -, hstems, rfl⟩ := h
  obtain ⟨parameters, hparameters, hdeclared⟩ := Reading.exists_parameters_of_readsAsSignature hread
  obtain ⟨declared, own, hnode, hown, hrecord⟩ := hstems.parameters
  obtain rfl : parameters = declared := Option.some.inj (hparameters.symm.trans hnode)
  have hpairs : List.Forall₂ (fun tree parameter => parameter.name = tree.label source ∧
      parameter.optional = tree.isOptional) signature.declaredParameters own := by
    refine (forall₂_comp hdeclared hown).imp fun tree parameter hpair => ?_
    obtain ⟨node, hreads, hparameter⟩ := hpair
    constructor
    · obtain ⟨name, label, hname, hlabel, heq⟩ := hreads.label
      obtain ⟨name', label', hname', hlabel', heq'⟩ := hparameter.label
      obtain rfl : name = name' := Option.some.inj (hname.symm.trans hname')
      obtain rfl : label = label' := Except.ok.inj (hlabel.symm.trans hlabel')
      rw [heq', heq]
    · exact (Option.some.inj (hreads.optional.symm.trans hparameter.optional)).symm
  have hany : own.any (·.optional) = signature.declaredParameters.any Tree.isOptional :=
    SentinelLaw.any_optional_eq hpairs
  refine ⟨own, hpairs, ?_⟩
  rw [hrecord, withSentinel, hany]
  split
  · rfl
  · rw [List.append_nil]

/-- The optional parameters are marked when each of them has a label, and one of the parameters is
marked when it is optional and has a label. -/
lemma forall₂_marked_iff {source : ByteArray} {labelled : Bool} {declared : List Tree}
    {own : List Parameter} (h : List.Forall₂ (fun tree parameter =>
      parameter.name = tree.label source ∧ parameter.optional = tree.isOptional) declared own) :
    (List.Forall₂ (fun tree parameter => tree.isOptional = true → parameter.IsMarked labelled)
        declared own ↔
      ∀ tree ∈ declared, tree.isOptional = true → tree.label source ≠ "") ∧
    ((∃ parameter ∈ own, parameter.IsMarked labelled) ↔
      ∃ tree ∈ declared, tree.isOptional = true ∧ tree.label source ≠ "") := by
  induction h with
  | nil => simp
  | @cons tree parameter trees parameters hfirst _ ih =>
    have hmark : parameter.IsMarked labelled ↔
        tree.isOptional = true ∧ tree.label source ≠ "" := by
      rw [Parameter.isMarked_iff, hfirst.1, hfirst.2]
    constructor
    · rw [List.forall₂_cons, ih.1, List.forall_mem_cons, hmark]
      refine and_congr_left fun _ => ⟨fun hfirst hoptional => (hfirst hoptional).2, ?_⟩
      exact fun hlabel hoptional => ⟨hoptional, hlabel hoptional⟩
    · simp only [List.mem_cons, exists_eq_or_imp, hmark, ih.2]

/-- A method stays omittable when the optional parameters have labels. -/
lemma Model.Method.Takes.staysOmittable_iff {source : ByteArray} {signature : Tree}
    {own : List Parameter} {method : Method} (h : method.Takes source signature own) :
    method.StaysOmittable signature own ↔ ∀ parameter ∈ signature.declaredParameters,
      parameter.isOptional = true → parameter.label source ≠ "" := by
  obtain ⟨hmarked, hany⟩ := @forall₂_marked_iff source method.isLabelled _ _ h.declared
  have hsentinel : method.parameters = own ++ [sentinel] ↔
      signature.declaredParameters.any Tree.isOptional = true := by
    rw [h.parameters, List.append_cancel_left_eq]
    split
    · exact ⟨fun _ => ‹_›, fun _ => rfl⟩
    · exact ⟨fun hnil => (nomatch hnil), fun hoptional => absurd hoptional ‹_›⟩
  constructor
  · intro hstays
    exact hmarked.mp hstays.marked
  · intro hlabels
    refine ⟨hmarked.mpr hlabels, ?_⟩
    rw [hsentinel, hany, List.any_eq_true]
    constructor
    · rintro ⟨tree, hmem, hoptional⟩
      exact ⟨tree, hmem, hoptional, hlabels tree hmem hoptional⟩
    · rintro ⟨tree, hmem, hoptional, -⟩
      exact ⟨tree, hmem, hoptional⟩

/-- The type of a method with the sentinel is the chain of the receiver, the parameters, the unit
type and the result. -/
lemma Model.Method.Takes.bindingType_eq {source : ByteArray} {signature : Tree}
    {own : List Parameter} {method : Method} (h : method.Takes source signature own)
    (hoptional : signature.declaredParameters.any Tree.isOptional = true) :
    method.bindingType = arrow.intercalate (method.receiverTexts ++
      own.map (·.text method.isLabelled) ++ [unit, method.resultText]) := by
  have hparameters : method.parameters = own ++ [sentinel] := by
    rw [h.parameters, if_pos hoptional]
  have hunit : ∀ labelled, sentinel.text labelled = unit := by
    intro labelled
    cases labelled <;> rfl
  have htexts : method.parameters.map (·.text method.isLabelled) =
      own.map (·.text method.isLabelled) ++ [unit] := by
    rw [hparameters, List.map_append, List.map_singleton, hunit]
  have hchain : parameterChain method.parameters method.isLabelled ≠ "" := by
    have hlast : arrow.intercalate [unit] ≠ "" := by decide
    rw [parameterChain, htexts]
    by_cases hnone : own.map (·.text method.isLabelled) = []
    · rw [hnone]
      exact hlast
    · rw [String.intercalate_append_of_ne_nil hnone (List.cons_ne_nil unit [])]
      intro hempty
      exact hlast (String.append_eq_empty_iff.mp hempty).2
  rw [Method.bindingType_eq hchain, htexts]
  simp only [List.append_assoc, List.cons_append, List.nil_append]

/-- **Optional parameters stay omittable when they have labels.**  Each signature that a parse tree
declares has its record in the module that the tree is built as, and each method of the module
that is no maker is the record of such a signature.  The method is bound with the parameters
of the signature, and behind them there is the unit argument exactly when one of them is optional.
All optional parameters are marked, and the unit argument is there exactly when one is, if and only
if each of the optional parameters has a label. -/
theorem optionalParameters_omittable {source : ByteArray} {tree : Tree} {statements : List Node}
    {line : Line} {path : String} {name : Option String} {module : Module}
    (hread : (tree.statements source).outcome = .ok statements)
    (hbuilt : (fileOf (.sourceFile line path statements) name).outcome = .ok module) :
    (∀ signature, tree.Declares signature →
      ∃ method ∈ module.allMethods, method.Binds source signature) ∧
    (∀ method ∈ module.allMethods, method.maker = false →
      ∃ signature, tree.Declares signature ∧ method.Binds source signature) ∧
    ∀ signature, ∀ method ∈ module.allMethods, method.Binds source signature →
      (∃ depth, method.lineAt module.name depth ∈ module.lines module.name) ∧
      ∃ own, method.Takes source signature own ∧
        (signature.declaredParameters.any Tree.isOptional = true →
          method.bindingType = arrow.intercalate (method.receiverTexts ++
            own.map (·.text method.isLabelled) ++ [unit, method.resultText])) ∧
        (method.StaysOmittable signature own ↔ ∀ parameter ∈ signature.declaredParameters,
          parameter.isOptional = true → parameter.label source ≠ "") := by
  obtain ⟨hsignatures, hmethods⟩ := binds_of_fileOf hread hbuilt
  refine ⟨hsignatures, hmethods, fun signature method hmem hbinds => ?_⟩
  obtain ⟨own, htakes⟩ := hbinds.exists_takes
  exact ⟨module.exists_lineAt module.name method hmem, own, htakes, htakes.bindingType_eq,
    htakes.staysOmittable_iff⟩

/-- A source text with an optional parameter that has a label. -/
def labelledSource : String := "function f(a?:X)"

/-- A source text with an optional parameter that is taken apart. -/
def unlabelledSource : String := "function f(\x7ba\x7d?:X)"

/-- The pattern of the parameter with a label. -/
def labelledPattern : Tree :=
  .node "identifier" true (some "pattern") 11 12 0 []

/-- The pattern that takes the argument apart. -/
def unlabelledPattern : Tree :=
  .node "object_pattern" true (some "pattern") 11 14 0
    [.node "shorthand_property_identifier_pattern" true none 12 13 0 []]

/-- The tree of a function whose only parameter is optional and has the given pattern. -/
def optionalFunction (pattern : Tree) : Tree :=
  .node "function_signature" true none 0 (pattern.stop + 4) 0
    [.node "identifier" true (some "name") 9 10 0 [],
      .node "formal_parameters" true (some "parameters") 10 (pattern.stop + 4) 0
        [.node "optional_parameter" true none 11 (pattern.stop + 3) 0
          [pattern,
            .node "type_annotation" true (some "type") (pattern.stop + 1) (pattern.stop + 3) 0
              [.node "type_identifier" true none (pattern.stop + 2) (pattern.stop + 3) 0 []]]]]

/-- The parse tree of a file with that function. -/
def optionalTree (pattern : Tree) : Tree :=
  .node "program" true none 0 (pattern.stop + 4) 0 [optionalFunction pattern]

/-- The statements of the file when the parameter has the given name. -/
def optionalStatements (name : Node) : List Node :=
  [.signature .functionDeclaration (some 1) (.identifier (some 1) "f") .absent false [] []
    [.parameter (some 1) name (.typeReference (some 1) (.identifier (some 1) "X") []) true false]]

/-- The record of the function when the parameter has the given label. -/
def optionalMethod (label : String) : Method where
  name := "f"
  type := "'a"
  static := true
  parameters := [⟨label, "X.t", true, false⟩, sentinel]
  owner := "lib"

/-- The record of the file. -/
def optionalModule (label : String) : Module where
  name := "lib"
  methods := [optionalMethod label]

/-- The function is declared in its file. -/
lemma declares_optionalFunction {pattern : Tree} :
    (optionalTree pattern).Declares (optionalFunction pattern) :=
  ⟨optionalFunction pattern, List.mem_cons_self, .function rfl⟩

/-- The parameter with a label can be left out. -/
theorem optionalParameters_labelled :
    ((optionalTree labelledPattern).statements labelledSource.toUTF8).outcome =
      .ok (optionalStatements (.identifier (some 1) "a")) ∧
    (fileOf (.sourceFile none "lib.d.ts" (optionalStatements (.identifier (some 1) "a")))
      none).outcome = .ok (optionalModule "a") ∧
    (optionalModule "a").text = "external f : ?a::X.t => unit => 'a = \"\";\n" ∧
    ∃ own, (optionalMethod "a").Takes labelledSource.toUTF8 (optionalFunction labelledPattern) own ∧
      (optionalMethod "a").StaysOmittable (optionalFunction labelledPattern) own := by
  have hread : ((optionalTree labelledPattern).statements labelledSource.toUTF8).outcome =
      .ok (optionalStatements (.identifier (some 1) "a")) := by with_unfolding_all rfl
  have hbuilt : (fileOf (.sourceFile none "lib.d.ts"
      (optionalStatements (.identifier (some 1) "a"))) none).outcome =
        .ok (optionalModule "a") := rfl
  have hlabel : ∀ parameter ∈ (optionalFunction labelledPattern).declaredParameters,
      parameter.isOptional = true → parameter.label labelledSource.toUTF8 ≠ "" := by
    have htext : labelledPattern.text labelledSource.toUTF8 = "a" := by with_unfolding_all rfl
    refine List.forall_mem_singleton.mpr fun _ => ?_
    change labelledPattern.text labelledSource.toUTF8 ≠ ""
    rw [htext]
    decide
  obtain ⟨hsignatures, -, hbound⟩ := optionalParameters_omittable hread hbuilt
  obtain ⟨method, hmem, hbinds⟩ := hsignatures _ declares_optionalFunction
  obtain ⟨-, own, htakes, -, hstays⟩ := hbound _ method hmem hbinds
  obtain rfl := List.mem_singleton.mp hmem
  exact ⟨hread, hbuilt, rfl, own, htakes, hstays.mpr hlabel⟩

/-- The parameter that is taken apart is optional as well, and it cannot be left out: it is printed
without a mark, and the unit argument comes after it. -/
theorem optionalParameters_unlabelled :
    ((optionalTree unlabelledPattern).statements unlabelledSource.toUTF8).outcome =
      .ok (optionalStatements .absent) ∧
    (fileOf (.sourceFile none "lib.d.ts" (optionalStatements .absent)) none).outcome =
      .ok (optionalModule "") ∧
    (optionalTree unlabelledPattern).Declares (optionalFunction unlabelledPattern) ∧
    (optionalMethod "").Binds unlabelledSource.toUTF8 (optionalFunction unlabelledPattern) ∧
    (optionalModule "").text = "external f : X.t => unit => 'a = \"\";\n" ∧
    ∀ own, (optionalMethod "").Takes unlabelledSource.toUTF8 (optionalFunction unlabelledPattern)
      own → ¬ (optionalMethod "").StaysOmittable (optionalFunction unlabelledPattern) own := by
  have hread : ((optionalTree unlabelledPattern).statements unlabelledSource.toUTF8).outcome =
      .ok (optionalStatements .absent) := by with_unfolding_all rfl
  have hbuilt : (fileOf (.sourceFile none "lib.d.ts" (optionalStatements .absent)) none).outcome =
      .ok (optionalModule "") := rfl
  obtain ⟨method, hmem, hbinds⟩ :=
    (binds_of_fileOf hread hbuilt).1 _ declares_optionalFunction
  obtain rfl := List.mem_singleton.mp hmem
  refine ⟨hread, hbuilt, declares_optionalFunction, hbinds, rfl, fun own htakes hstays => ?_⟩
  have hlabels := htakes.staysOmittable_iff.mp hstays
  exact hlabels _ List.mem_cons_self rfl rfl

end ReasonBindings
