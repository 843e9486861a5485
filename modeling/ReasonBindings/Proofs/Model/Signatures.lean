import ReasonBindings.Proofs.Model.LibraryName

/-!
# Signatures and their bindings

A *signature* is a declaration that is called: a function, or a member of an interface that is a
method, a call or construct signature, or a constructor.  Whatever is declared inside of
namespaces, each signature has its record in the module that is built, and each method of the
module that is no maker is the record of a signature.  All methods of a module stand in its
bindings, one on each line.
-/

namespace ReasonBindings

open Layout Syntax

namespace Model

/-! ### Signatures of statements -/

/-- The signatures that a statement declares by itself. -/
def signatures (node : Node) : List Node :=
  [node].filter Node.declaresFunction ++
    (shapes node).flatMap fun shape => shape.members.filter Node.declaresMethod

/-- The statement declares the signature, by itself or in a namespace. -/
inductive Declares (signature : Node) : Node → Prop
  | own {node : Node} : signature ∈ signatures node → Declares signature node
  | inside {line : Line} {name body inner : Node} : inner ∈ body.bodyStatements →
    Declares signature inner → Declares signature (.namespaceDecl line name body)

/-- Only a namespace declares what it does not declare by itself. -/
lemma Declares.mem_signatures {signature node : Node} (h : Declares signature node)
    (hbody : node.body? = none) : signature ∈ signatures node := by
  cases h with
  | own hmem => exact hmem
  | inside => cases hbody

/-- A namespace declares what the statements of its body declare. -/
lemma declares_namespaceDecl {signature name body : Node} {line : Line} :
    Declares signature (.namespaceDecl line name body) ↔
      ∃ inner ∈ body.bodyStatements, Declares signature inner := by
  constructor
  · intro h
    cases h with
    | own hmem => cases hmem
    | inside hinner hdeclares => exact ⟨_, hinner, hdeclares⟩
  · rintro ⟨inner, hinner, hdeclares⟩
    exact .inside hinner hdeclares

/-! ### Records of signatures -/

/-- The method is the record of the signature, with the call template for it. -/
def Method.RecordsSignature (signature : Node) (method : Method) : Prop :=
  ∃ scope owner name template record, GivenName signature name template ∧
    Method.StemsFrom scope signature name signature.isConstructor owner record ∧
    method = { record with template := template }

variable {scope : Scope} {owner : String}

/-- The record of a signature is no maker. -/
lemma Method.RecordsSignature.maker {signature : Node} {method : Method}
    (h : method.RecordsSignature signature) : method.maker = false := by
  obtain ⟨scope, owner, name, template, record, -, hstems, rfl⟩ := h
  exact hstems.maker

/-- The record of a function is the record of a signature. -/
lemma Method.StemsFrom.recordsSignature {declaration : Node} {method : Method}
    (hfunction : declaration.declaresFunction = true)
    (h : Method.StemsFrom scope declaration none false owner method) :
    method.RecordsSignature declaration := by
  have hconstructor : declaration.isConstructor = false := by
    cases declaration with
    | signature kind => cases kind <;> first | rfl | cases hfunction
    | _ => rfl
  have hrecord : method = { method with template := none } := by
    rw [← h.template]
  rw [← hconstructor] at h
  exact ⟨scope, owner, none, none, method, .declared hconstructor, h, hrecord⟩

/-- A member that is called contributes its record, and no other member contributes a method. -/
lemma Contribution.StemsFrom.recordsSignature {member : Node} {contribution : Contribution}
    (h : contribution.StemsFrom scope owner member) :
    Option.Rel Method.RecordsSignature (Option.guard Node.declaresMethod member)
      contribution.method? := by
  cases h with
  | property hproperty =>
    rw [Option.guard, if_neg (by simp [Node.declaresMethod_of_declaresProperty hproperty])]
    exact .none
  | nothing _ hmethod =>
    rw [Option.guard, if_neg (by simp [hmethod])]
    exact .none
  | method hmethod hgiven hstems =>
    rw [Option.guard, if_pos hmethod]
    exact .some ⟨scope, owner, _, _, _, hgiven, hstems, rfl⟩

/-- The methods of an interface, but for its maker, are the records of the members that are
called. -/
lemma Interface.StemsFrom.recordsSignatures {shape : Shape} {interface : Interface}
    (h : interface.StemsFrom scope shape) :
    List.Forall₂ Method.RecordsSignature (shape.members.filter Node.declaresMethod)
      (interface.methods.filter (!·.maker)) := by
  obtain ⟨name, parents, contributions, hcontributions, rfl⟩ := h
  rw [filter_maker_interfaceWith hcontributions, ← List.filterMap_eq_filter]
  exact List.rel_filterMap (fun _ _ hmember => hmember.recordsSignature) hcontributions

/-- The methods that a statement without a body adds, but for makers, are the records of its
signatures. -/
lemma Module.StemsFromSimple.recordsSignatures {node : Node} {module : Module}
    (h : module.StemsFromSimple scope owner node) :
    List.Forall₂ Method.RecordsSignature (signatures node)
      (module.allMethods.filter (!·.maker)) := by
  obtain ⟨name, modules, globals, interfaces, methods⟩ := module
  obtain rfl : modules = [] := h.modules
  have hfunctions : List.Forall₂ Method.RecordsSignature ([node].filter Node.declaresFunction)
      methods := by
    refine ((List.forall₂_and_left _ _).mpr
      ⟨fun _ hmem => (List.mem_filter.mp hmem).2, h.methods⟩).imp fun _ _ hpair => ?_
    exact hpair.2.recordsSignature hpair.1
  have hkept : methods.filter (!·.maker) = methods := by
    rw [List.filter_eq_self]
    intro method hmem
    obtain ⟨signature, -, hrecords⟩ := exists_left_of_mem hfunctions hmem
    rw [hrecords.maker]
    rfl
  rw [Module.allMethods, nestedMethods, List.append_nil, List.filter_append, hkept,
    List.filter_flatMap]
  refine List.rel_append hfunctions (List.rel_flatMap h.interfaces ?_)
  exact fun _ _ hstems => hstems.recordsSignatures

/-- **Records of signatures.**  Each signature that statements declare, at any depth, has its record
in the module that they are built as, and each method of the module that is no maker is the
record of a signature. -/
theorem Module.StemsFrom.recordsSignatures {statements : List Node} {module : Module}
    (h : module.StemsFrom scope owner statements) :
    (∀ node ∈ statements, ∀ signature, Declares signature node →
      ∃ method ∈ module.allMethods, method.RecordsSignature signature) ∧
    ∀ method ∈ module.allMethods, method.maker = false →
      ∃ node ∈ statements, ∃ signature, Declares signature node ∧
        method.RecordsSignature signature := by
  induction h with
  | nil => exact ⟨fun _ hmem => (nomatch hmem), fun _ hmem => (nomatch hmem)⟩
  | @simple scope owner node nodes first rest hbody hfirst _ ih =>
    have hsimple := (stemsFrom_of_simpleStatementOf hfirst).recordsSignatures
    constructor
    · intro statement hstatement signature hdeclares
      rcases List.mem_cons.mp hstatement with rfl | hrest
      · have hmem := hdeclares.mem_signatures hbody
        obtain ⟨method, hmethod, hrecords⟩ := exists_right_of_mem hsimple hmem
        have hown := List.mem_of_mem_filter hmethod
        exact ⟨method, Module.mem_allMethods_merge.mpr (Or.inl hown), hrecords⟩
      · obtain ⟨method, hmethod, hrecords⟩ := ih.1 statement hrest signature hdeclares
        exact ⟨method, Module.mem_allMethods_merge.mpr (Or.inr hmethod), hrecords⟩
    · intro method hmem hmaker
      rcases Module.mem_allMethods_merge.mp hmem with hown | hrest
      · have hkept : method ∈ first.allMethods.filter (!·.maker) :=
          List.mem_filter.mpr ⟨hown, by rw [hmaker]; rfl⟩
        obtain ⟨signature, hsignature, hrecords⟩ := exists_left_of_mem hsimple hkept
        exact ⟨node, List.mem_cons_self, signature, .own hsignature, hrecords⟩
      · obtain ⟨statement, hstatement, hdeclared⟩ := ih.2 method hrest hmaker
        exact ⟨statement, List.mem_cons_of_mem node hstatement, hdeclared⟩
  | @namespaceDecl scope owner inner line name body nodes built rest _ _ _ ihbuilt ihrest =>
    have hnested : ∀ method, method ∈ (Module.merge { name := owner, modules := [built] }
        rest).allMethods ↔ method ∈ built.allMethods ∨ method ∈ rest.allMethods := by
      intro method
      rw [Module.mem_allMethods_merge]
      simp [Module.allMethods, nestedMethods]
    constructor
    · intro statement hstatement signature hdeclares
      rcases List.mem_cons.mp hstatement with rfl | hrest
      · obtain ⟨innermost, hinner, hinside⟩ := declares_namespaceDecl.mp hdeclares
        obtain ⟨method, hmethod, hrecords⟩ := ihbuilt.1 innermost hinner signature hinside
        exact ⟨method, (hnested method).mpr (Or.inl hmethod), hrecords⟩
      · obtain ⟨method, hmethod, hrecords⟩ := ihrest.1 statement hrest signature hdeclares
        exact ⟨method, (hnested method).mpr (Or.inr hmethod), hrecords⟩
    · intro method hmem hmaker
      rcases (hnested method).mp hmem with hbuilt | hrest
      · obtain ⟨innermost, hinner, signature, hinside, hrecords⟩ :=
          ihbuilt.2 method hbuilt hmaker
        exact ⟨_, List.mem_cons_self, signature, .inside hinner hinside, hrecords⟩
      · obtain ⟨statement, hstatement, hdeclared⟩ := ihrest.2 method hrest hmaker
        exact ⟨statement, List.mem_cons_of_mem _ hstatement, hdeclared⟩

/-! ### Lines of methods -/

/-- The line of a method that stands in so many blocks. -/
def Method.lineAt (method : Method) (library : String) : Nat → String
  | 0 => method.line library
  | depth + 1 => indentLine (method.lineAt library depth)

mutual

/-- **Methods stand in the bindings.**  The line of every method of a module, at any depth, is one
of the lines of the module. -/
theorem Module.exists_lineAt :
    ∀ (module : Module) (library : String), ∀ method ∈ module.allMethods,
      ∃ depth, method.lineAt library depth ∈ module.lines library
  | ⟨_, modules, globals, interfaces, methods⟩, library => by
    intro method hmem
    rw [Module.allMethods, List.mem_append, List.mem_append] at hmem
    rcases hmem with (hfunction | hmember) | hnested
    · refine ⟨0, ?_⟩
      rw [Module.lines, List.mem_append, List.mem_append, List.mem_append]
      exact Or.inl (Or.inl (Or.inr (List.mem_map_of_mem hfunction)))
    · obtain ⟨interface, hinterface, hmethod⟩ := List.mem_flatMap.mp hmember
      have hline : method.line library ∈ interface.bodyLines library := by
        refine List.mem_cons_of_mem _ (List.mem_cons_of_mem _ (List.mem_append_left _ ?_))
        exact List.mem_map_of_mem hmethod
      have hblock := mem_block hline (moduleHeader interface.name) false
      refine ⟨1, ?_⟩
      rw [Module.lines, List.mem_append, List.mem_append]
      refine Or.inl (Or.inr (List.mem_flatMap.mpr ⟨interface, hinterface, ?_⟩))
      exact List.mem_append_left _ hblock
    · obtain ⟨depth, hline⟩ := nestedLines_exists_lineAt modules library method hnested
      exact ⟨depth, List.mem_append_right _ hline⟩

/-- The line of every method of nested modules is one of their lines. -/
theorem nestedLines_exists_lineAt :
    ∀ (modules : List Module) (library : String), ∀ method ∈ nestedMethods modules,
      ∃ depth, method.lineAt library depth ∈ nestedLines library modules
  | [], _ => fun _ hmem => nomatch hmem
  | inner :: others, library => by
    intro method hmem
    rw [nestedLines_cons]
    rcases List.mem_append.mp hmem with hinner | hothers
    · obtain ⟨depth, hline⟩ := inner.exists_lineAt library method hinner
      have hblock := mem_block hline (moduleHeader inner.name) true
      exact ⟨depth + 1, List.mem_append_left _ hblock⟩
    · obtain ⟨depth, hline⟩ := nestedLines_exists_lineAt others library method hothers
      exact ⟨depth, List.mem_append_right _ (List.mem_cons_of_mem _ hline)⟩

end

/-! ### Types of arguments -/

/-- The labels of all parameters are printed, and not only those of optional ones. -/
def Method.isLabelled (method : Method) : Bool :=
  match method.callKind with
  | .constructor | .maker => true
  | .receiver | .plain => false

/-- The type of the receiver of a method that has one. -/
def Method.receiverTexts (method : Method) : List String :=
  match method.callKind with
  | .receiver => [TypeText.instanceType]
  | _ => []

/-- The type of what a method gives. -/
def Method.resultText (method : Method) : String :=
  match method.callKind with
  | .constructor | .maker => TypeText.instanceType
  | .receiver | .plain => method.type

/-- The type in the binding of a method is the chain of its receiver, of its parameters and of its
result, unless nothing is printed for the parameters. -/
lemma Method.bindingType_eq {method : Method}
    (h : parameterChain method.parameters method.isLabelled ≠ "") :
    method.bindingType = TypeText.arrow.intercalate (method.receiverTexts ++
      (method.parameters.map (·.text method.isLabelled) ++ [method.resultText])) := by
  have hne : method.parameters.map (·.text method.isLabelled) ≠ [] := by
    intro hnil
    apply h
    rw [parameterChain, hnil]
    rfl
  have hchain : ∀ result, TypeText.arrow.intercalate
      (method.parameters.map (·.text method.isLabelled) ++ [result]) =
        parameterChain method.parameters method.isLabelled ++ TypeText.arrow ++ result := by
    intro result
    rw [String.intercalate_append_of_ne_nil hne (List.cons_ne_nil result []), parameterChain]
    rfl
  have taken : ∀ labelled result, method.isLabelled = labelled →
      method.bindingType = takenType method.parameters labelled ++ TypeText.arrow ++ result →
      method.receiverTexts = [] → method.resultText = result →
      method.bindingType = TypeText.arrow.intercalate (method.receiverTexts ++
        (method.parameters.map (·.text method.isLabelled) ++ [method.resultText])) := by
    intro labelled result hlabelled htype hreceiver hresult
    rw [hreceiver, List.nil_append, hchain, htype, hresult, ← hlabelled, takenType, if_neg h]
  cases hkind : method.callKind with
  | constructor | maker =>
    apply taken true TypeText.instanceType
    · rw [isLabelled, hkind]
    · rw [bindingType, hkind]
    · rw [receiverTexts, hkind]
    · rw [resultText, hkind]
  | plain =>
    apply taken false method.type
    · rw [isLabelled, hkind]
    · rw [bindingType, hkind]
    · rw [receiverTexts, hkind]
    · rw [resultText, hkind]
  | receiver =>
    have hlabelled : method.isLabelled = false := by rw [isLabelled, hkind]
    have hreceiver : method.receiverTexts = [TypeText.instanceType] := by rw [receiverTexts, hkind]
    have hresult : method.resultText = method.type := by rw [resultText, hkind]
    have htype : method.bindingType = TypeText.instanceType ++
        (TypeText.arrow ++ parameterChain method.parameters false) ++ TypeText.arrow ++
          method.type := by
      rw [hlabelled] at h
      rw [bindingType, hkind]
      simp only [if_neg h]
    rw [hreceiver, String.intercalate_append_of_ne_nil (List.cons_ne_nil _ _)
      (List.append_ne_nil_of_left_ne_nil hne _), hchain, hresult, htype, hlabelled]
    simp only [String.append_assoc]
    rfl

end Model

end ReasonBindings
