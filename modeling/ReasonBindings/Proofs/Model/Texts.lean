import ReasonBindings.Model.Print
import ReasonBindings.Proofs.Layout.SingleLine
import ReasonBindings.Proofs.Text.UpperCase

/-!
# The texts of records

A record of bindings is made of texts: names, types, owners and templates.  The
module lists the texts of each kind of record and shows that records whose texts
have no line feed are printed with one line for each binding, so that the lines of
a printed module can be told apart.
-/

namespace ReasonBindings.Model

open Layout

/-- The texts of a parameter. -/
def Parameter.texts (parameter : Parameter) : List String :=
  [parameter.name, parameter.type]

/-- The texts of a property. -/
def Property.texts (property : Property) : List String :=
  property.name :: property.type :: property.template.toList

/-- The texts of a method and of its parameters. -/
def Method.texts (method : Method) : List String :=
  method.name :: method.type :: method.owner ::
    (method.template.toList ++ method.parameters.flatMap Parameter.texts)

/-- The texts of a variable. -/
def Variable.texts (value : Variable) : List String :=
  [value.name, value.type]

/-- The texts of an interface and of its members. -/
def Interface.texts (interface : Interface) : List String :=
  interface.name :: (interface.parents ++ interface.properties.flatMap Property.texts ++
    interface.methods.flatMap Method.texts)

mutual

/-- The texts of a module and of everything in it. -/
def Module.texts : Module → List String
  | ⟨name, modules, globals, interfaces, methods⟩ =>
    name :: (nestedTexts modules ++ globals.flatMap Variable.texts ++
      interfaces.flatMap Interface.texts ++ methods.flatMap Method.texts)

/-- The texts of nested modules. -/
def nestedTexts : List Module → List String
  | [] => []
  | inner :: others => inner.texts ++ nestedTexts others

end

/-- The name of a module is one of its texts. -/
lemma Module.name_mem_texts (module : Module) : module.name ∈ module.texts := by
  obtain ⟨name, modules, globals, interfaces, methods⟩ := module
  exact List.mem_cons_self

/-! ### Printed parameters -/

/-- A capitalized text is on one line when the text is. -/
lemma singleLine_capitalize {text : String} (h : SingleLine text) :
    SingleLine (Text.capitalize text) := by
  intro hmem
  rcases Text.mem_capitalize hmem with hin | habove
  · exact h hin
  · exact absurd habove (by decide)

/-- A parameter is printed on one line. -/
lemma Parameter.singleLine_text {parameter : Parameter} (labelled : Bool)
    (h : ∀ text ∈ parameter.texts, SingleLine text) : SingleLine (parameter.text labelled) := by
  have hname : SingleLine parameter.name := h _ (by simp [Parameter.texts])
  have htype : SingleLine parameter.type := h _ (by simp [Parameter.texts])
  unfold Parameter.text
  split
  · have hmark : SingleLine (if parameter.optional then "?" else "") := by split <;> decide
    exact SingleLine.append_iff.mpr
      ⟨SingleLine.append_iff.mpr ⟨SingleLine.append_iff.mpr ⟨hmark, hname⟩, by decide⟩, htype⟩
  · exact htype

/-- Parameters are printed on one line. -/
lemma singleLine_parameterChain {parameters : List Parameter} (labelled : Bool)
    (h : ∀ text ∈ parameters.flatMap Parameter.texts, SingleLine text) :
    SingleLine (parameterChain parameters labelled) := by
  refine SingleLine.intercalate (by decide) fun text htext => ?_
  obtain ⟨parameter, hparameter, rfl⟩ := List.mem_map.mp htext
  exact parameter.singleLine_text labelled fun t ht =>
    h t (List.mem_flatMap.mpr ⟨parameter, hparameter, ht⟩)

/-- What a function takes is printed on one line. -/
lemma singleLine_takenType {parameters : List Parameter} (labelled : Bool)
    (h : ∀ text ∈ parameters.flatMap Parameter.texts, SingleLine text) :
    SingleLine (takenType parameters labelled) := by
  unfold takenType
  dsimp only
  split
  · decide
  · exact singleLine_parameterChain labelled h

/-! ### Printed bindings -/

/-- The binding of a variable is one line. -/
lemma Variable.singleLine_line {value : Variable} (h : ∀ text ∈ value.texts, SingleLine text) :
    SingleLine value.line := by
  have hname : SingleLine value.name := h _ (by simp [Variable.texts])
  have htype : SingleLine value.type := h _ (by simp [Variable.texts])
  unfold Variable.line
  simp only [SingleLine.append_iff, hname, htype, and_true]
  decide

/-- The type in the binding of a method is on one line. -/
lemma Method.singleLine_bindingType {method : Method}
    (h : ∀ text ∈ method.texts, SingleLine text) : SingleLine method.bindingType := by
  have htype : SingleLine method.type := h _ (by simp [Method.texts])
  have hparameters : ∀ text ∈ method.parameters.flatMap Parameter.texts, SingleLine text := by
    intro text htext
    refine h text ?_
    simp only [Method.texts, List.mem_cons, List.mem_append]
    exact Or.inr (Or.inr (Or.inr (Or.inr htext)))
  have harrow : SingleLine TypeText.arrow := by decide
  have hinstance : SingleLine TypeText.instanceType := by decide
  have maker : SingleLine (takenType method.parameters true ++ TypeText.arrow ++
      TypeText.instanceType) := by
    simp only [SingleLine.append_iff, singleLine_takenType true hparameters, harrow, hinstance,
      and_true]
  unfold Method.bindingType
  split
  · exact maker
  · exact maker
  · have hchain := singleLine_parameterChain false hparameters
    have hreceiver : SingleLine (if parameterChain method.parameters false = "" then ""
        else TypeText.arrow ++ parameterChain method.parameters false) := by
      split
      · decide
      · exact SingleLine.append_iff.mpr ⟨harrow, hchain⟩
    simp only [SingleLine.append_iff, hreceiver, harrow, hinstance, htype, and_true]
  · simp only [SingleLine.append_iff, singleLine_takenType false hparameters, harrow, htype,
      and_true]

/-- The binding of a method is one line. -/
lemma Method.singleLine_line {method : Method} {library : String}
    (h : ∀ text ∈ method.texts, SingleLine text) (hlibrary : SingleLine library) :
    SingleLine (method.line library) := by
  have hname : SingleLine method.name := h _ (by simp [Method.texts])
  have howner : SingleLine method.owner := h _ (by simp [Method.texts])
  have hlinkage : SingleLine (method.linkage library) := by
    unfold Method.linkage
    split
    · simp only [SingleLine.append_iff, howner, hlibrary, and_true]
      decide
    · decide
    · decide
    · decide
  have htype : SingleLine method.bindingType := singleLine_bindingType h
  unfold Method.line
  simp only [SingleLine.append_iff, hname, htype, hlinkage, and_true]
  decide

/-- The type of the values of a property is on one line. -/
lemma Property.singleLine_valueType {property : Property}
    (h : ∀ text ∈ property.texts, SingleLine text) : SingleLine property.valueType := by
  have htype : SingleLine property.type := h _ (by simp [Property.texts])
  have hmark : SingleLine (if property.optional then "option " else "") := by split <;> decide
  exact SingleLine.append_iff.mpr ⟨hmark, htype⟩

/-- The binding that sets a property is one line. -/
lemma Property.singleLine_setter {property : Property}
    (h : ∀ text ∈ property.texts, SingleLine text) : SingleLine property.setter := by
  have hname : SingleLine property.name := h _ (by simp [Property.texts])
  have hvalue : SingleLine property.valueType := property.singleLine_valueType h
  have hcapital : SingleLine (Text.capitalize property.name) := singleLine_capitalize hname
  unfold Property.setter
  generalize Text.capitalize property.name = capital at hcapital ⊢
  simp only [SingleLine.append_iff, hname, hvalue, hcapital, and_true]
  decide

/-- The binding that gets a property is one line. -/
lemma Property.singleLine_getter {property : Property}
    (h : ∀ text ∈ property.texts, SingleLine text) : SingleLine property.getter := by
  have hname : SingleLine property.name := h _ (by simp [Property.texts])
  have hvalue : SingleLine property.valueType := property.singleLine_valueType h
  have hcapital : SingleLine (Text.capitalize property.name) := singleLine_capitalize hname
  have hreturn : SingleLine
      (if property.optional then " [@@bs.return null_undefined_to_opt]" else "") := by
    split <;> decide
  unfold Property.getter
  generalize Text.capitalize property.name = capital at hcapital ⊢
  simp only [SingleLine.append_iff, hname, hvalue, hcapital, hreturn, and_true]
  decide

/-- The bindings of a property are lines. -/
lemma Property.singleLine_lines {property : Property}
    (h : ∀ text ∈ property.texts, SingleLine text) : ∀ line ∈ property.lines, SingleLine line := by
  intro line hline
  simp only [Property.lines, List.mem_cons, List.not_mem_nil, or_false] at hline
  rcases hline with hsetter | hgetter | hblank
  · exact hsetter ▸ property.singleLine_setter h
  · exact hgetter ▸ property.singleLine_getter h
  · exact hblank ▸ (by decide)

/-- The bindings of an interface are lines. -/
lemma Interface.singleLine_lines {interface : Interface} {library : String}
    (h : ∀ text ∈ interface.texts, SingleLine text) (hlibrary : SingleLine library) :
    ∀ line ∈ interface.lines library, SingleLine line := by
  have hname : SingleLine interface.name := h _ (by simp [Interface.texts])
  refine SingleLine.block (SingleLine.append_iff.mpr ⟨by decide, hname⟩) fun line hline => ?_
  simp only [Interface.bodyLines, List.mem_cons, List.mem_append, List.mem_map,
    List.mem_flatMap] at hline
  rcases hline with rfl | rfl | ⟨method, hmethod, rfl⟩ | ⟨property, hproperty, hline⟩
  · decide
  · decide
  · refine method.singleLine_line (fun text htext => h text ?_) hlibrary
    simp only [Interface.texts, List.mem_cons, List.mem_append, List.mem_flatMap]
    exact Or.inr (Or.inr ⟨method, hmethod, htext⟩)
  · refine property.singleLine_lines (fun text htext => h text ?_) line hline
    simp only [Interface.texts, List.mem_cons, List.mem_append, List.mem_flatMap]
    exact Or.inr (Or.inl (Or.inr ⟨property, hproperty, htext⟩))

mutual

/-- The bindings of a module are lines. -/
theorem Module.singleLine_lines {library : String} (hlibrary : SingleLine library) :
    ∀ (module : Module), (∀ text ∈ module.texts, SingleLine text) →
      ∀ line ∈ module.lines library, SingleLine line
  | ⟨name, modules, globals, interfaces, methods⟩, h => by
    simp only [Module.texts, List.mem_cons, List.mem_append, List.mem_flatMap] at h
    intro line hline
    simp only [Module.lines, List.mem_append, List.mem_map, List.mem_flatMap,
      List.mem_singleton] at hline
    rcases hline with ((⟨value, hvalue, rfl⟩ | ⟨method, hmethod, rfl⟩) |
      ⟨interface, hinterface, hline | rfl⟩) | hline
    · exact value.singleLine_line fun text htext =>
        h text (Or.inr (Or.inl (Or.inl (Or.inr ⟨value, hvalue, htext⟩))))
    · exact method.singleLine_line
        (fun text htext => h text (Or.inr (Or.inr ⟨method, hmethod, htext⟩))) hlibrary
    · exact interface.singleLine_lines
        (fun text htext => h text (Or.inr (Or.inl (Or.inr ⟨interface, hinterface, htext⟩))))
        hlibrary line hline
    · decide
    · exact nestedLines_singleLine hlibrary modules
        (fun text htext => h text (Or.inr (Or.inl (Or.inl (Or.inl htext))))) line hline

/-- The bindings of nested modules are lines. -/
theorem nestedLines_singleLine {library : String} (hlibrary : SingleLine library) :
    ∀ (modules : List Module), (∀ text ∈ nestedTexts modules, SingleLine text) →
      ∀ line ∈ nestedLines library modules, SingleLine line
  | [], _ => by simp
  | inner :: others, h => by
    simp only [nestedTexts, List.mem_append] at h
    have hname : SingleLine inner.name := h _ (Or.inl inner.name_mem_texts)
    intro line hline
    simp only [nestedLines_cons, List.mem_append, List.mem_cons] at hline
    rcases hline with hline | rfl | hline
    · exact SingleLine.block (SingleLine.append_iff.mpr ⟨by decide, hname⟩)
        (Module.singleLine_lines hlibrary inner fun text htext => h text (Or.inl htext)) line hline
    · decide
    · exact nestedLines_singleLine hlibrary others (fun text htext => h text (Or.inr htext)) line
        hline

end

end ReasonBindings.Model
