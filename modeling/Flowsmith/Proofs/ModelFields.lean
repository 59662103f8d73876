import Flowsmith.DataModel
import Flowsmith.Proofs.WellFormed
import Mathlib.Data.List.Forall2
import Mathlib.Data.List.Nodup
import Mathlib.Data.Set.Function

/-!
Fields of data models. All models of a process are derived from the same variables after the same
checks, so they succeed or fail together. Where they succeed, the full model has a field for each
variable, and the models of what goes in and what comes out share these among them: only the marks
of a variable decide in which of them it is.
-/

namespace Flowsmith

/-- The variables of a definition make up models: they have names of their own that come to fields
    of their own, and none is marked as input and output at once. -/
structure Definition.Derivable (d : Definition) : Prop extends d.HasVariables where
  undivided : ∀ v ∈ d.declarations, ¬ (.input ∈ v.tags ∧ .output ∈ v.tags)
  separate : Set.InjOn Naming.field {name | name ∈ d.declarations.map Variable.name}

/-- A field tells all that is known of a variable. -/
structure ModelField.Describes (f : ModelField) (v : Variable) : Prop where
  name : f.name = v.name
  ident : f.ident = Naming.field v.name
  dataType : f.dataType = v.dataType
  sourceType : f.sourceType = v.dataType.sourceType
  required : f.required = true ↔ .required ∈ v.tags
  readonly : f.readonly = true ↔ .readonly ∈ v.tags

/-- A model has a field of the name of a variable. -/
def DataModel.Holds (m : DataModel) (v : Variable) : Prop :=
  v.name ∈ m.fields.map ModelField.name

/-- What the models of a definition hold of its variables. -/
structure Definition.CoveredBy (d : Definition) (model : ModelKind → DataModel) : Prop where
  full : List.Forall₂ ModelField.Describes (model .full).fields d.declarations
  distinct : ((model .full).fields.map ModelField.ident).Nodup
  input : (model .input).fields.Sublist (model .full).fields
  output : (model .output).fields.Sublist (model .full).fields
  internal : ∀ v ∈ d.declarations, .internal ∈ v.tags →
    ¬ (model .input).Holds v ∧ ¬ (model .output).Holds v
  either : ∀ v ∈ d.declarations, .internal ∉ v.tags →
    (model .input).Holds v ∨ (model .output).Holds v
  both : ∀ v ∈ d.declarations, .internal ∉ v.tags →
    ((model .input).Holds v ∧ (model .output).Holds v ↔ .input ∉ v.tags ∧ .output ∉ v.tags)

theorem Variable.hasTag_iff {v : Variable} {tag : VariableTag} :
    v.hasTag tag = true ↔ tag ∈ v.tags :=
  List.contains_iff_mem

section Checks

/-- A variable is refused for a blank name, for both marks, or for a field that a variable before it
    has. One that repeats a name repeats its field. -/
theorem variableFault?_eq_none_iff {index : Nat} {before : List Variable} {v : Variable} :
    variableFault? index before v = none ↔
      Text.IsVisible v.name ∧ ¬ (.input ∈ v.tags ∧ .output ∈ v.tags) ∧
        ∀ u ∈ before, Naming.field u.name ≠ Naming.field v.name := by
  unfold variableFault?
  cases blank : Text.blank v.name with
  | true =>
      have notVisible : ¬ Text.IsVisible v.name := by simp [← Text.blank_eq_false_iff, blank]
      simp [notVisible]
  | false =>
      have visible := Text.blank_eq_false_iff.1 blank
      by_cases again : ∃ u ∈ before, u.name = v.name
      · obtain ⟨u, member, same⟩ := again
        have taken : ¬ ∀ u ∈ before, Naming.field u.name ≠ Naming.field v.name :=
          fun apart => apart u member (congrArg Naming.field same)
        have found : before.any (fun u => u.name == v.name) = true :=
          List.any_eq_true.2 ⟨u, member, by simpa using same⟩
        simp [taken, found]
      · have fresh : before.any (fun u => u.name == v.name) = false := by simpa using again
        simp only [fresh, Bool.false_eq_true, if_false, Bool.and_eq_true, Variable.hasTag_iff,
          visible, true_and]
        by_cases divided : .input ∈ v.tags ∧ .output ∈ v.tags
        · simp [divided]
        · simp [divided, fieldOwner?]

/-- The variables after some others pass when each does by itself and no two of them come to one
    field. -/
theorem checkVariablesFrom_eq_ok_iff {before vs : List Variable} :
    checkVariablesFrom before vs = .ok () ↔
      (∀ v ∈ vs, Text.IsVisible v.name ∧ ¬ (.input ∈ v.tags ∧ .output ∈ v.tags) ∧
        ∀ u ∈ before, Naming.field u.name ≠ Naming.field v.name) ∧
      (vs.map fun v => Naming.field v.name).Nodup := by
  induction vs generalizing before with
  | nil => simp [checkVariablesFrom]
  | cons v rest ih =>
      unfold checkVariablesFrom
      cases fault : variableFault? before.length before v with
      | some e =>
          have refused : ¬ variableFault? before.length before v = none := by simp [fault]
          rw [variableFault?_eq_none_iff] at refused
          simp only [reduceCtorEq, false_iff, List.forall_mem_cons]
          exact fun passes => refused passes.1.1
      | none =>
          have fine := variableFault?_eq_none_iff.1 fault
          simp only [ih, List.forall_mem_cons, List.map_cons, List.nodup_cons, List.mem_map,
            List.mem_append, List.mem_singleton]
          constructor
          · rintro ⟨later, distinct⟩
            refine ⟨⟨fine, fun w member => ?_⟩, ?_, distinct⟩
            · obtain ⟨visible, undivided, apart⟩ := later w member
              exact ⟨visible, undivided, fun u inBefore => apart u (.inl inBefore)⟩
            · rintro ⟨w, member, same⟩
              exact (later w member).2.2 v (.inr rfl) same.symm
          · rintro ⟨⟨-, later⟩, once, distinct⟩
            refine ⟨fun w member => ?_, distinct⟩
            obtain ⟨visible, undivided, apart⟩ := later w member
            refine ⟨visible, undivided, ?_⟩
            rintro u (inBefore | rfl)
            · exact apart u inBefore
            · exact fun same => once ⟨w, member, same.symm⟩

theorem checkVariables_eq_ok_iff {d : Definition} :
    checkVariables d.declarations = .ok () ↔ d.Derivable := by
  have fields : d.declarations.map (fun v => Naming.field v.name) =
      (d.declarations.map Variable.name).map Naming.field := by
    simp only [List.map_map, Function.comp_def]
  rw [checkVariables, checkVariablesFrom_eq_ok_iff, fields]
  constructor
  · rintro ⟨each, distinct⟩
    exact {
      named := fun v member => (each v member).1
      distinct := .of_map _ distinct
      undivided := fun v member => (each v member).2.1
      separate := fun _ member _ other same => List.inj_on_of_nodup_map distinct member other same }
  · intro derivable
    refine ⟨fun v member => ⟨derivable.named v member, derivable.undivided v member, ?_⟩, ?_⟩
    · exact fun u inBefore => absurd inBefore List.not_mem_nil
    · exact derivable.distinct.map_on fun a member b other same =>
        derivable.separate member other same

end Checks

section Fields

theorem ModelField.ident_ofVariable (v : Variable) :
    (ofVariable v).ident = Naming.field v.name := by
  simp only [ofVariable]

theorem ModelField.describes_ofVariable (v : Variable) : (ofVariable v).Describes v :=
  ⟨rfl, ident_ofVariable v, rfl, rfl, Variable.hasTag_iff, Variable.hasTag_iff⟩

/-- The model of a kind, whatever the checks say. -/
def Definition.model (options : ModelOptions) (d : Definition) (kind : ModelKind) : DataModel :=
  { kind
    className := kind.className (Names.ofId d.id d.package)
    fields := (d.declarations.filter kind.includes).map ModelField.ofVariable
    validation := options.validation
    openapi := options.openapi }

theorem DataModel.derive_of_ok {d : Definition} (checked : checkVariables d.declarations = .ok ())
    (options : ModelOptions) (kind : ModelKind) :
    derive options d kind = .ok (d.model options kind) := by
  unfold derive
  rw [checked]
  rfl

theorem DataModel.derive_of_error {d : Definition} {e : ModelError}
    (refused : checkVariables d.declarations = .error e) (options : ModelOptions)
    (kind : ModelKind) :
    derive options d kind = .error e := by
  unfold derive
  rw [refused]
  rfl

variable {d : Definition} {options : ModelOptions} {v : Variable}

/-- Where names are distinct, a model holds the variables that its kind includes. -/
theorem Definition.holds_model_iff (distinct : (d.declarations.map Variable.name).Nodup)
    (member : v ∈ d.declarations) (kind : ModelKind) :
    (d.model options kind).Holds v ↔ kind.includes v = true := by
  have names : (d.model options kind).fields.map ModelField.name =
      (d.declarations.filter kind.includes).map Variable.name := by
    rw [model, List.map_map]
    rfl
  rw [DataModel.Holds, names, List.mem_map]
  constructor
  · rintro ⟨w, included, same⟩
    obtain ⟨inDeclarations, isIncluded⟩ := List.mem_filter.1 included
    rwa [List.inj_on_of_nodup_map distinct inDeclarations member same] at isIncluded
  · intro included
    exact ⟨v, List.mem_filter.2 ⟨member, included⟩, rfl⟩

theorem Definition.fields_model_full :
    (d.model options .full).fields = d.declarations.map ModelField.ofVariable := by
  have all : d.declarations.filter ModelKind.full.includes = d.declarations :=
    List.filter_eq_self.2 fun _ _ => rfl
  rw [model, all]

theorem Definition.sublist_model (kind : ModelKind) :
    (d.model options kind).fields.Sublist (d.model options .full).fields := by
  rw [fields_model_full]
  exact List.filter_sublist.map _

theorem ModelKind.includes_input_iff :
    ModelKind.input.includes v = true ↔ .internal ∉ v.tags ∧ .output ∉ v.tags := by
  simp only [includes, Bool.and_eq_true, Bool.not_eq_true', ← Bool.not_eq_true, Variable.hasTag_iff]

theorem ModelKind.includes_output_iff :
    ModelKind.output.includes v = true ↔ .internal ∉ v.tags ∧ .input ∉ v.tags := by
  simp only [includes, Bool.and_eq_true, Bool.not_eq_true', ← Bool.not_eq_true, Variable.hasTag_iff]

theorem Definition.Derivable.coveredBy (derivable : d.Derivable) (options : ModelOptions) :
    d.CoveredBy (d.model options) := by
  have holds (v : Variable) (member : v ∈ d.declarations) (kind : ModelKind) :
      (d.model options kind).Holds v ↔ kind.includes v = true :=
    holds_model_iff derivable.distinct member kind
  refine {
    full := ?_
    distinct := ?_
    input := sublist_model .input
    output := sublist_model .output
    internal := ?_
    either := ?_
    both := ?_ }
  · rw [fields_model_full, List.forall₂_map_left_iff, List.forall₂_same]
    exact fun v _ => ModelField.describes_ofVariable v
  · have idents : (d.declarations.map ModelField.ofVariable).map ModelField.ident =
        d.declarations.map fun v => Naming.field v.name := by
      simp only [List.map_map, Function.comp_def, ModelField.ident_ofVariable]
    rw [fields_model_full, idents]
    exact (checkVariablesFrom_eq_ok_iff.1 (checkVariables_eq_ok_iff.2 derivable)).2
  · intro v member isInternal
    rw [holds v member, holds v member, ModelKind.includes_input_iff, ModelKind.includes_output_iff]
    exact ⟨fun included => included.1 isInternal, fun included => included.1 isInternal⟩
  · intro v member notInternal
    rw [holds v member, holds v member, ModelKind.includes_input_iff, ModelKind.includes_output_iff]
    -- Only a variable with both marks would be left out of both models.
    by_cases isOutput : .output ∈ v.tags
    · exact .inr ⟨notInternal, fun isInput => derivable.undivided v member ⟨isInput, isOutput⟩⟩
    · exact .inl ⟨notInternal, isOutput⟩
  · intro v member notInternal
    rw [holds v member, holds v member, ModelKind.includes_input_iff, ModelKind.includes_output_iff]
    constructor
    · rintro ⟨⟨-, notOutput⟩, -, notInput⟩
      exact ⟨notInput, notOutput⟩
    · rintro ⟨notInput, notOutput⟩
      exact ⟨⟨notInternal, notOutput⟩, notInternal, notInput⟩

end Fields

/-- The models of all kinds are derived, and cover the variables, exactly when the variables make up
    models; otherwise there is one error for all of them. -/
theorem DataModel.derive_exact (d : Definition) :
    (d.Derivable ∧ ∀ options, ∃ model : ModelKind → DataModel,
      (∀ kind, derive options d kind = .ok (model kind)) ∧ d.CoveredBy model) ∨
    (¬ d.Derivable ∧ ∃ e, ∀ options kind, derive options d kind = .error e) := by
  cases checked : checkVariables d.declarations with
  | ok done =>
      have derivable := checkVariables_eq_ok_iff.1 checked
      exact .inl ⟨derivable, fun options =>
        ⟨d.model options, derive_of_ok checked options, derivable.coveredBy options⟩⟩
  | error e =>
      refine .inr ⟨?_, e, derive_of_error checked⟩
      rw [← checkVariables_eq_ok_iff, checked]
      simp

end Flowsmith
