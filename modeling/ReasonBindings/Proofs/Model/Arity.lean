import ReasonBindings.Proofs.Model.Interfaces
import ReasonBindings.Proofs.Model.Total
import ReasonBindings.Proofs.TypeText.Arguments

/-!
# The number of arguments of a binding

The type in the binding of a method is a chain of the types of its parameters and of
its result, with the type of the receiver before them if there is one.  Each of these
is one argument, however many function types stand inside of it, so the arrows outside
of parentheses count the parameters.

The records that are built for a tidy tree are tidy: their labels are plain and their
types are single arguments.  For a tidy method the number of arrows is computed from the
way in which it is called, and then found again in the printed line.
-/

namespace ReasonBindings

open Syntax Text TypeText

namespace Model

/-! ### Tidy records -/

/-- The label of the parameter is plain, and its type is one argument. -/
structure Parameter.Tidy (parameter : Parameter) : Prop where
  label : Plain parameter.name
  type : OneArgument parameter.type

/-- The name of the property is plain, and its type is one argument. -/
structure Property.Tidy (property : Property) : Prop where
  name : Plain property.name
  type : OneArgument property.type

/-- The parameters of the method are tidy, and its type is one argument. -/
structure Method.Tidy (method : Method) : Prop where
  parameters : ∀ parameter ∈ method.parameters, parameter.Tidy
  type : OneArgument method.type

/-- The type of a tidy declaration is one argument. -/
lemma Annotated.oneArgument {scope : Scope} {node : Node} {text : String}
    (h : Annotated scope node text) (hnode : node.Tidy) : OneArgument text := by
  obtain ⟨written, hwritten, htext⟩ := h
  exact oneArgument_typeText (hnode.type? hwritten) htext

/-- The record of a tidy parameter is tidy. -/
lemma Parameter.StemsFrom.tidy {scope : Scope} {node : Node} {parameter : Parameter}
    (h : Parameter.StemsFrom scope node parameter) (hnode : node.Tidy) : parameter.Tidy := by
  refine ⟨?_, h.type.oneArgument hnode⟩
  obtain ⟨name, label, hname, hlabel, hparameter⟩ := h.label
  rw [hparameter]
  cases label with
  | none => decide
  | some text => exact (hnode.name? hname).declaredName hlabel text rfl

/-- Adding the sentinel keeps parameters tidy. -/
lemma tidy_withSentinel {parameters : List Parameter}
    (h : ∀ parameter ∈ parameters, parameter.Tidy) :
    ∀ parameter ∈ withSentinel parameters, parameter.Tidy := by
  have hsentinel : sentinel.Tidy := ⟨by decide, .of_plain (by decide) (by decide)⟩
  rcases withSentinel_eq_or parameters with hwith | hwith
  · rw [hwith]
    exact h
  · rw [hwith]
    exact List.forall_mem_append.mpr ⟨h, List.forall_mem_singleton.mpr hsentinel⟩

/-- The record of a tidy declaration with parameters is tidy. -/
lemma Method.StemsFrom.tidy {scope : Scope} {node : Node} {name : Option String} {ctor : Bool}
    {owner : String} {method : Method} (h : Method.StemsFrom scope node name ctor owner method)
    (hnode : node.Tidy) : method.Tidy := by
  refine ⟨?_, h.type.oneArgument hnode⟩
  obtain ⟨declared, own, hdeclared, hown, hmethod⟩ := h.parameters
  rw [hmethod]
  refine tidy_withSentinel fun parameter hmem => ?_
  obtain ⟨source, hsource, hstems⟩ := exists_left_of_mem hown hmem
  exact hstems.tidy (hnode.parameters? hdeclared source hsource)

/-- The record of a tidy property is tidy. -/
lemma Property.StemsFrom.tidy {scope : Scope} {node : Node} {property : Property}
    (h : Property.StemsFrom scope node property) (hnode : node.Tidy) : property.Tidy := by
  cases h with
  | named hname htype => exact ⟨hnode.requiredName hname, htype.oneArgument hnode⟩
  | keyed hname htype =>
    have hkey : Plain (bracketed _) :=
      (Plain.append (by decide) (hnode.requiredName hname)).append (by decide)
    exact ⟨hkey, htype.oneArgument hnode⟩
  | index htype =>
    have hname : Plain indexName := by decide
    exact ⟨hname, htype.oneArgument hnode⟩

/-- The maker for tidy properties is tidy. -/
lemma tidy_makerOf (owner : String) {properties : List Property}
    (h : ∀ property ∈ properties, property.Tidy) : (makerOf owner properties).Tidy := by
  have htype : OneArgument instanceType := .of_plain (by decide) (by decide)
  refine ⟨tidy_withSentinel fun parameter hmem => ?_, htype⟩
  obtain ⟨property, hproperty, rfl⟩ := List.mem_map.mp hmem
  exact ⟨(h property hproperty).name, (h property hproperty).type⟩

/-- The methods of an interface with tidy members are tidy. -/
lemma Interface.StemsFrom.tidy {scope : Scope} {shape : Shape} {interface : Interface}
    (h : interface.StemsFrom scope shape) (hmembers : ∀ member ∈ shape.members, member.Tidy) :
    ∀ method ∈ interface.methods, method.Tidy := by
  obtain ⟨name, parents, contributions, hcontributions, rfl⟩ := h
  have hproperties : ∀ property ∈ contributions.filterMap Contribution.property?,
      property.Tidy := by
    intro property hmem
    obtain ⟨contribution, hcontribution, hproperty⟩ := List.mem_filterMap.mp hmem
    obtain ⟨member, hmember, hstems⟩ := exists_left_of_mem hcontributions hcontribution
    cases hstems with
    | property _ hrecord =>
      obtain rfl := Option.some.inj hproperty
      exact hrecord.tidy (hmembers member hmember)
    | method | nothing => cases hproperty
  have hmethods : ∀ method ∈ contributions.filterMap Contribution.method?, method.Tidy := by
    intro method hmem
    obtain ⟨contribution, hcontribution, hmethod⟩ := List.mem_filterMap.mp hmem
    obtain ⟨member, hmember, hstems⟩ := exists_left_of_mem hcontributions hcontribution
    cases hstems with
    | method _ _ hrecord =>
      obtain rfl := Option.some.inj hmethod
      have htidy := hrecord.tidy (hmembers member hmember)
      exact ⟨htidy.parameters, htidy.type⟩
    | property | nothing => cases hmethod
  obtain ⟨kind, declaration, members⟩ := shape
  cases kind with
  | classLike => exact hmethods
  | interfaceLike =>
    have hmaker := tidy_makerOf name hproperties
    exact List.forall_mem_append.mpr ⟨hmethods, List.forall_mem_singleton.mpr hmaker⟩

/-- The members of the interfaces that a tidy statement declares are tidy. -/
lemma tidy_of_mem_shapes {node : Node} (hnode : node.Tidy) {shape : Shape}
    (hshape : shape ∈ shapes node) : ∀ member ∈ shape.members, member.Tidy := by
  unfold shapes at hshape
  split at hshape
  · obtain rfl := List.mem_singleton.mp hshape
    exact hnode.members? rfl
  · obtain rfl := List.mem_singleton.mp hshape
    exact hnode.members? rfl
  · obtain rfl := List.mem_singleton.mp hshape
    exact (hnode.type? rfl).members? rfl
  · obtain rfl := List.mem_singleton.mp hshape
    exact fun _ hmember => nomatch hmember
  · obtain ⟨declaration, hdeclaration, hinline⟩ := List.mem_filterMap.mp hshape
    have htidy := hnode.declarations? rfl declaration hdeclaration
    unfold inlineShape? at hinline
    split at hinline
    · rename_i htype
      obtain rfl := Option.some.inj hinline
      exact (htidy.type? htype).members? rfl
    · cases hinline
  · cases hshape

/-- **Methods of tidy statements.**  Every method that tidy statements add to a module, at any
depth, is tidy. -/
theorem Module.StemsFrom.tidy {scope : Scope} {owner : String} {statements : List Node}
    {module : Module} (h : module.StemsFrom scope owner statements)
    (hstatements : ∀ node ∈ statements, node.Tidy) : ∀ method ∈ module.allMethods, method.Tidy := by
  induction h with
  | nil => exact fun _ hmem => nomatch hmem
  | @simple scope owner node nodes first rest hbody hfirst _ ih =>
    obtain ⟨hnode, hnodes⟩ := List.forall_mem_cons.mp hstatements
    have hsimple := stemsFrom_of_simpleStatementOf hfirst
    intro method hmem
    rcases Module.mem_allMethods_merge.mp hmem with hown | hrest
    · obtain ⟨name, modules, globals, interfaces, methods⟩ := first
      obtain rfl : modules = [] := hsimple.modules
      rw [Module.allMethods, nestedMethods, List.append_nil, List.mem_append] at hown
      rcases hown with hfunction | hinterface
      · obtain ⟨declaration, hdeclaration, hstems⟩ :=
          exists_left_of_mem hsimple.methods hfunction
        obtain rfl := List.mem_singleton.mp (List.mem_of_mem_filter hdeclaration)
        exact hstems.tidy hnode
      · obtain ⟨interface, hmember, hmethod⟩ := List.mem_flatMap.mp hinterface
        obtain ⟨shape, hshape, hstems⟩ := exists_left_of_mem hsimple.interfaces hmember
        exact hstems.tidy (tidy_of_mem_shapes hnode hshape) method hmethod
    · exact ih hnodes method hrest
  | @namespaceDecl scope owner inner line name body nodes built rest _ _ _ ihbuilt ihrest =>
    obtain ⟨hnode, hnodes⟩ := List.forall_mem_cons.mp hstatements
    have htidy : body.Tidy := hnode.body? rfl
    have hbody := Node.forall_bodyStatements htidy fun _ => htidy.child
    intro method hmem
    rcases Module.mem_allMethods_merge.mp hmem with hbuilt | hrest
    · have hinside : method ∈ built.allMethods := by
        simpa [Module.allMethods, nestedMethods] using hbuilt
      exact ihbuilt hbody method hinside
    · exact ihrest hnodes method hrest

/-! ### Arrows in types of bindings -/

/-- A tidy parameter is printed as one argument. -/
lemma Parameter.Tidy.oneArgument_text {parameter : Parameter} (h : parameter.Tidy)
    (labelled : Bool) : OneArgument (parameter.text labelled) := by
  have hmark : HasArrows 0 (if parameter.optional then "?" else "") := by
    split <;> exact .of_plain (by decide)
  have hlabel := hmark.append (.of_plain h.label)
  unfold Parameter.text
  split
  · exact .append_left (hlabel.append (.of_plain (by decide))) h.type
  · exact h.type

/-- Tidy parameters are printed as one argument each. -/
lemma oneArgument_texts {parameters : List Parameter}
    (h : ∀ parameter ∈ parameters, parameter.Tidy) (labelled : Bool) :
    ∀ text ∈ parameters.map (·.text labelled), OneArgument text := by
  intro text hmem
  obtain ⟨parameter, hparameter, rfl⟩ := List.mem_map.mp hmem
  exact (h parameter hparameter).oneArgument_text labelled

/-- What a function without receiver takes has one arrow less than there are parameters. -/
lemma hasArrows_takenType {parameters : List Parameter}
    (h : ∀ parameter ∈ parameters, parameter.Tidy) (labelled : Bool) :
    HasArrows (parameters.length - 1) (takenType parameters labelled) := by
  have htaken := hasArrows_taken (oneArgument_texts h labelled)
  rw [List.length_map] at htaken
  exact htaken

/-- What stands behind the receiver has one arrow for each parameter. -/
lemma hasArrows_behindReceiver {parameters : List Parameter}
    (h : ∀ parameter ∈ parameters, parameter.Tidy) :
    HasArrows parameters.length (if parameterChain parameters false = "" then ""
      else arrow ++ parameterChain parameters false) := by
  have htexts := oneArgument_texts h false
  cases parameters with
  | nil => exact .of_plain (by decide)
  | cons parameter others =>
    have hne : parameterChain (parameter :: others) false ≠ "" :=
      intercalate_ne_empty (by simp) fun text hmem => (htexts text hmem).nonempty
    have hchain := hasArrows_arrow.intercalate fun text hmem => (htexts text hmem).arrows
    rw [Nat.mul_one, List.length_map] at hchain
    have hcount : (parameter :: others).length = 1 + ((parameter :: others).length - 1) := by
      simp only [List.length_cons]
      omega
    rw [if_neg hne, hcount]
    exact hasArrows_arrow.append hchain

/-- The number of arrows in the type of a method with the given number of parameters: a method with
a receiver takes one argument more, and any other method takes at least one. -/
def Method.arrowCount (method : Method) : Nat :=
  if method.ctor || method.maker || method.static then max method.parameters.length 1
  else method.parameters.length + 1

/-- **Arrows count parameters.**  The type in the binding of a tidy method has as many arrows as its
parameters call for. -/
theorem Method.Tidy.hasArrows_bindingType {method : Method} (h : method.Tidy) :
    HasArrows method.arrowCount method.bindingType := by
  have hinstance : HasArrows 0 instanceType := .of_plain (by decide)
  have hmax : method.parameters.length - 1 + 1 + 0 = max method.parameters.length 1 := by omega
  have plain : ∀ labelled result, HasArrows 0 result →
      HasArrows (max method.parameters.length 1)
        (takenType method.parameters labelled ++ arrow ++ result) := by
    intro labelled result hresult
    rw [← hmax]
    exact ((hasArrows_takenType h.parameters labelled).append hasArrows_arrow).append hresult
  have receiver : HasArrows (method.parameters.length + 1)
      (instanceType ++ (if parameterChain method.parameters false = "" then ""
        else arrow ++ parameterChain method.parameters false) ++ arrow ++ method.type) := by
    have hbehind := hinstance.append (hasArrows_behindReceiver h.parameters)
    rw [Nat.zero_add] at hbehind
    exact (hbehind.append hasArrows_arrow).append h.type.arrows
  unfold arrowCount bindingType callKind
  cases method.ctor with
  | true => exact plain true _ hinstance
  | false =>
    cases method.maker with
    | true => exact plain true _ hinstance
    | false =>
      cases method.static with
      | true => exact plain false _ h.type.arrows
      | false => exact receiver

/-! ### Types in printed lines -/

/-- The beginning of a text up to the first place where the pattern stands. -/
def upTo (pattern : List Char) : List Char → List Char
  | [] => []
  | c :: rest => if pattern <+: c :: rest then [] else c :: upTo pattern rest

/-- The type in the printed line of a method: what stands between the colon behind the name and the
next sign of equality before a quotation mark. -/
def Method.printedType (method : Method) (library : String) : List Char :=
  upTo " = \"".toList
    ((method.line library).toList.drop ("external " ++ method.name ++ " : ").toList.length)

/-- A text whose signs of equality all belong to arrows is found before the pattern. -/
lemma upTo_append {text : List Char} (h : SignsAreArrows text) (rest : List Char) :
    upTo " = \"".toList (text ++ (" = \"".toList ++ rest)) = text := by
  have hpattern : " = \"".toList = [' ', '=', ' ', '"'] := rfl
  rw [hpattern]
  induction text with
  | nil => simp [upTo]
  | cons c others ih =>
    have hothers : SignsAreArrows others := fun inside hinside =>
      h inside (hinside.trans (List.suffix_cons c others))
    have hhere : ¬ [' ', '=', ' ', '"'] <+: c :: (others ++ ([' ', '=', ' ', '"'] ++ rest)) := by
      intro hprefix
      have htail := (List.cons_prefix_cons.mp hprefix).2
      -- The sign after the blank would stand in the text, before a blank and not in an arrow.
      match others with
      | [] => exact absurd (List.cons_prefix_cons.mp htail).1 (by decide)
      | [sign] =>
        obtain rfl := (List.cons_prefix_cons.mp htail).1
        have hhead := h [] (List.suffix_cons c _)
        cases hhead
      | sign :: next :: inside =>
        obtain ⟨rfl, hnext⟩ := List.cons_prefix_cons.mp htail
        obtain rfl := (List.cons_prefix_cons.mp hnext).1
        have hhead := h (' ' :: inside) (List.suffix_cons c _)
        rw [List.head?_cons] at hhead
        exact absurd hhead (by decide)
    rw [List.cons_append, upTo, if_neg hhere, ih hothers]

/-- What follows the type in a binding begins with a quotation mark. -/
lemma Method.exists_linkage (method : Method) (library : String) :
    ∃ rest, method.linkage library = "\"" ++ rest := by
  unfold linkage
  split
  · exact ⟨method.owner ++ "\" [@@bs.new] [@@bs.module \"" ++ library ++ "\"];", by
      simp only [String.append_assoc]⟩
  · exact ⟨"\" [@@bs.obj];", rfl⟩
  · exact ⟨"\" [@@bs.send];", rfl⟩
  · exact ⟨"\";", rfl⟩

/-- The type of a tidy method is found in its printed line. -/
lemma Method.Tidy.printedType_eq {method : Method} (h : method.Tidy) (library : String) :
    method.printedType library = method.bindingType.toList := by
  obtain ⟨rest, hrest⟩ := method.exists_linkage library
  have hline : (method.line library).toList = ("external " ++ method.name ++ " : ").toList ++
      (method.bindingType.toList ++ (" = \"".toList ++ rest.toList)) := by
    have hsign : " = \"".toList = " = ".toList ++ "\"".toList := rfl
    rw [Method.line, hrest, hsign]
    simp only [String.toList_append, List.append_assoc]
  rw [printedType, hline, List.drop_left]
  exact upTo_append h.hasArrows_bindingType.signs rest.toList

/-- **Callbacks do not change the arity.**  A well-typed declaration file that is plain throughout
has a record.  In the printed type of every method in it the parentheses match, and the arrows
outside of them count the parameters: one more than there are for a method with a receiver, and as
many as there are, but at least one, for a constructor, a maker or a static method. -/
theorem arity_of_bindings {line : Line} {path : String} {statements : List Node}
    (hfile : (Node.sourceFile line path statements).WellTyped)
    (hplain : (Node.sourceFile line path statements).PlainThroughout) (name : Option String) :
    ∃ module, (fileOf (.sourceFile line path statements) name).outcome = .ok module ∧
      ∀ method ∈ module.allMethods, ∀ library,
        Balanced (method.printedType library) ∧
        outerArrows 0 (method.printedType library) =
          if method.ctor || method.maker || method.static then max method.parameters.length 1
          else method.parameters.length + 1 := by
  obtain ⟨module, hmodule, -⟩ := exists_bindingsOf hfile name
  obtain ⟨root, hstems⟩ := stemsFrom_of_fileOf hmodule
  have hstatements : ∀ node ∈ statements, node.Tidy := fun node hmem =>
    Node.Tidy.child ⟨hfile, hplain⟩ hmem
  refine ⟨module, hmodule, fun method hmem library => ?_⟩
  have htidy := hstems.tidy hstatements method hmem
  have harrows := htidy.hasArrows_bindingType
  rw [htidy.printedType_eq library]
  exact ⟨harrows.balanced, harrows.outer⟩

/-- The type of functions from a number to a function without parameters. -/
def curriedType : Node :=
  .signature .functionType none .absent
    (.signature .functionType none .absent (.keywordType none "void") false [] [] []) false [] []
    [.parameter none (.identifier none "x") (.keywordType none "number") false false]

/-- An interface with a method that takes an event and, optionally, a callback, and a function that
takes an array of callbacks and gives one back. -/
def callbackSample : List Node :=
  [.interfaceDecl none (.identifier none "Emitter") [] []
      [.signature .methodSignature none (.identifier none "on") (.bare .thisType none) false [] []
        [.parameter none (.identifier none "event")
            (.unionType none [.text .stringLiteralType none "open",
              .text .stringLiteralType none "close"]) false false,
          .parameter none (.identifier none "listener") curriedType true false]],
    .signature .functionDeclaration none (.identifier none "compose") curriedType false [] []
      [.parameter none (.identifier none "steps") (.arrayType none curriedType) false true,
        .parameter none (.identifier none "last") (.typeReference none
          (.dottedTypeName none "Function" ["t"]) []) false false]]

/-- The sample is well typed and plain throughout, so its arrows count its parameters. -/
theorem arity_callbackSample :
    (Node.sourceFile none "emitter.d.ts" callbackSample).WellTyped ∧
    (Node.sourceFile none "emitter.d.ts" callbackSample).PlainThroughout ∧
    ∃ module, (fileOf (.sourceFile none "emitter.d.ts" callbackSample) none).outcome = .ok module ∧
      ∀ method ∈ module.allMethods, ∀ library,
        Balanced (method.printedType library) ∧
        outerArrows 0 (method.printedType library) =
          if method.ctor || method.maker || method.static then max method.parameters.length 1
          else method.parameters.length + 1 :=
  have hfile : (Node.sourceFile none "emitter.d.ts" callbackSample).WellTyped := by decide
  have hplain : (Node.sourceFile none "emitter.d.ts" callbackSample).PlainThroughout := by decide
  ⟨hfile, hplain, arity_of_bindings hfile hplain none⟩

end Model

end ReasonBindings
