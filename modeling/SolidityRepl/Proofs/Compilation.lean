import SolidityRepl.Compilation
import SolidityRepl.Proofs.Abi.Overload
import SolidityRepl.Proofs.Act
import SolidityRepl.Proofs.Keyed

/-!
# Results of outputs

An output with an error among its remarks refuses the program; any other has contracts. A remark
that says not how severe it is counts as an error.
-/

namespace SolidityRepl

open Abi

/-- A remark with which no program comes out: an error, or one that says not how severe it is. -/
def IsRefusal (remark : Keyed Json) : Prop :=
  Keyed.get? "severity" remark = none ∨ Keyed.get? "severity" remark = some (.str "error")

theorem Diagnostic.isError_ofFields (remark : Keyed Json) :
    (ofFields remark).isError = true ↔ IsRefusal remark := by
  rw [isError, ofFields, Json.same_str, IsRefusal]
  cases Keyed.get? "severity" remark with
  | none => exact iff_of_true rfl (.inl rfl)
  | some v => simp only [Option.getD_some, Option.some.injEq, reduceCtorEq, false_or]

/-- A remark to be passed on to the user. -/
def IsCaution (remark : Keyed Json) : Prop :=
  Keyed.get? "severity" remark = some (.str "warning")

theorem Diagnostic.isWarning_ofFields (remark : Keyed Json) :
    (ofFields remark).isWarning = true ↔ IsCaution remark := by
  rw [isWarning, ofFields, Json.same_str, IsCaution]
  cases Keyed.get? "severity" remark with
  | none => simp
  | some v => simp

instance : DecidablePred IsCaution :=
  fun remark => decidable_of_iff _ (Diagnostic.isWarning_ofFields remark)

namespace CompileResult

variable {output : Json} {errors : List (Keyed Json)} {contracts : Keyed (Keyed Json)}

/-- The code of a contract as an output has it. -/
def codeIn (data : Json) : Json :=
  (((data.get? "evm").getD (.obj [])).get? "bytecode").getD (.obj [])

/-- A contract as an output has it. What is left out is empty. -/
def contractIn (name : String) (data : Json) : Contract where
  name
  abi := (data.get? "abi").getD (.arr [])
  bytecode := ((codeIn data).get? "object").getD (.str "")
  opcodes := ((codeIn data).get? "opcodes").getD (.str "")
  layout := (data.get? "storageLayout").getD .null

/-- A contract that is written as one: an object, with an object of objects for its code. -/
structure IsContract (data : Json) : Prop where
  object : ∃ fields, data = .obj fields
  evm : ∃ fields, (data.get? "evm").getD (.obj []) = .obj fields
  code : ∃ fields, codeIn data = .obj fields

/-- An output with some remarks. -/
structure Reports (output : Json) (errors : List (Keyed Json)) : Prop where
  object : ∃ fields, output = .obj fields
  errors : (output.get? "errors").getD (.arr []) = .arr (errors.map .obj)

/-- An output with some remarks and the contracts of some units, each under its own name. -/
structure Describes (output : Json) (errors : List (Keyed Json)) (contracts : Keyed (Keyed Json)) :
    Prop extends Reports output errors where
  units : (output.get? "contracts").getD (.obj []) =
    .obj (contracts.map fun unit => (unit.1, .obj unit.2))
  distinct : ∀ unit ∈ contracts, (Keyed.keys unit.2).Nodup
  written : ∀ unit ∈ contracts, ∀ c ∈ unit.2, IsContract c.2

/-- The contracts of some units and no others: of contracts with one name that of the last unit. -/
structure Finds (contracts : Keyed (Keyed Json)) (units : List String) (found : Keyed Contract) :
    Prop where
  distinct : (Keyed.keys found).Nodup
  found : ∀ name, Keyed.get? name found =
    ((units.filterMap fun unit => (Keyed.get? unit contracts).bind (Keyed.get? name)).getLast?).map
      (contractIn name)

theorem optional_obj {value : Json} (key : String) (fallback : Json)
    (object : ∃ fields, value = .obj fields) :
    value.optional key fallback = .ok ((value.get? key).getD fallback) := by
  obtain ⟨fields, rfl⟩ := object
  rfl

theorem ofJson_contractIn {data : Json} (name : String) (written : IsContract data) :
    Contract.ofJson name data = .ok (contractIn name data) := by
  have own (key : String) (fallback : Json) := optional_obj key fallback written.object
  have evm := optional_obj "bytecode" (.obj []) written.evm
  have code (key : String) (fallback : Json) := optional_obj key fallback written.code
  rw [Contract.ofJson, bind_ok (own _ _), bind_ok evm, ← codeIn, bind_ok (own _ _),
    bind_ok (code _ _), bind_ok (code _ _), bind_ok (own _ _)]
  rfl

theorem remarks_objects (errors : List (Keyed Json)) :
    remarks (.arr (errors.map .obj)) = .ok (errors.map Diagnostic.ofFields) :=
  List.mapM_map.trans List.mapM_pure

def foundIn (contracts : Keyed (Keyed Json)) (unit : String) : Keyed Contract :=
  ((Keyed.get? unit contracts).getD []).map fun c => (c.1, contractIn c.1 c.2)

theorem keys_foundIn (unit : String) :
    Keyed.keys (foundIn contracts unit) = Keyed.keys ((Keyed.get? unit contracts).getD []) := by
  rw [foundIn, Keyed.keys, List.map_map]
  rfl

theorem get?_foundIn (unit name : String) :
    Keyed.get? name (foundIn contracts unit) =
      ((Keyed.get? unit contracts).bind (Keyed.get? name)).map (contractIn name) := by
  rw [foundIn, Keyed.get?_map]
  cases Keyed.get? unit contracts <;> rfl

/-- The contracts of a unit that an output describes. -/
theorem Describes.contractsOf (described : Describes output errors contracts) (unit : String) :
    contractsOf (.obj (contracts.map fun unit => (unit.1, .obj unit.2))) unit =
      .ok (foundIn contracts unit) := by
  have there : (Keyed.get? unit (contracts.map fun u => (u.1, Json.obj u.2))).getD (.obj []) =
      .obj ((Keyed.get? unit contracts).getD []) := by
    rw [Keyed.get?_map contracts (fun _ fields => Json.obj fields)]
    cases Keyed.get? unit contracts <;> rfl
  have fields : ∀ c ∈ (Keyed.get? unit contracts).getD [], IsContract c.2 := by
    intro c among
    cases found : Keyed.get? unit contracts with
    | none =>
      rw [found] at among
      cases among
    | some fields =>
      rw [found] at among
      exact described.written _ (Keyed.mem_of_get? found) c among
  rw [CompileResult.contractsOf, bind_ok (optional_obj unit _ ⟨_, rfl⟩), Json.get?, there]
  refine (bind_ok rfl _).trans (mapM_ok fun c among => ?_)
  obtain ⟨name, data⟩ := c
  show (Contract.ofJson name data).map (name, ·) = _
  rw [ofJson_contractIn name (fields _ among)]
  rfl

/-- The contracts of the given units, as they are put together. -/
theorem Describes.finds (described : Describes output errors contracts) (units : List String) :
    Finds contracts units (Keyed.putAll (units.map (foundIn contracts)).flatten []) where
  distinct := Keyed.nodup_keys_putAll _ List.nodup_nil
  found name := by
    have apart : ∀ l ∈ units.map (foundIn contracts), (Keyed.keys l).Nodup := by
      intro l among
      obtain ⟨unit, _, rfl⟩ := List.mem_map.mp among
      rw [keys_foundIn]
      cases found : Keyed.get? unit contracts with
      | none => exact List.nodup_nil
      | some fields => exact described.distinct _ (Keyed.mem_of_get? found)
    rw [Keyed.get?_putAll_flatten apart, List.filterMap_map, ← List.getLast?_map,
      List.map_filterMap]
    refine (Option.or_none).trans ?_
    congr 2
    funext unit
    exact get?_foundIn unit name

theorem Reports.remarks (reports : Reports output errors) :
    (output.optional "errors" (.arr []) >>= CompileResult.remarks) =
      .ok (errors.map Diagnostic.ofFields) := by
  rw [optional_obj _ _ reports.object, reports.errors]
  exact remarks_objects errors

theorem any_isError : (errors.map Diagnostic.ofFields).any Diagnostic.isError = true ↔
    ∃ e ∈ errors, IsRefusal e := by
  simp only [List.any_map, List.any_eq_true, Function.comp, Diagnostic.isError_ofFields]

theorem filter_isWarning :
    (errors.map Diagnostic.ofFields).filter Diagnostic.isWarning =
      (errors.filter IsCaution).map Diagnostic.ofFields := by
  rw [List.filter_map]
  congr 1
  refine List.filter_congr fun remark _ => ?_
  rw [Function.comp, Bool.eq_iff_iff, Diagnostic.isWarning_ofFields, decide_eq_true_iff]

/-- **An output with an error refuses the program**, with all its remarks. -/
theorem ofOutput_refused (reports : Reports output errors) (refused : ∃ e ∈ errors, IsRefusal e)
    (units : List String) :
    ofOutput output units = .ok (.failed (errors.map Diagnostic.ofFields)) := by
  rw [ofOutput, ← bind_assoc, bind_ok reports.remarks, if_pos (any_isError.mpr refused)]
  rfl

/-- **An output is refused for its errors only.** -/
theorem ofOutput_failed_iff (reports : Reports output errors) {units : List String}
    {diagnostics : List Diagnostic} :
    ofOutput output units = .ok (.failed diagnostics) ↔
      (∃ e ∈ errors, IsRefusal e) ∧ diagnostics = errors.map Diagnostic.ofFields := by
  constructor
  · intro failed
    by_cases refused : ∃ e ∈ errors, IsRefusal e
    · rw [ofOutput_refused reports refused] at failed
      cases failed
      exact ⟨refused, rfl⟩
    · rw [ofOutput, ← bind_assoc, bind_ok reports.remarks, if_neg (mt any_isError.mp refused),
        bind_ok (optional_obj _ _ reports.object)] at failed
      cases found : units.mapM (contractsOf ((output.get? "contracts").getD (.obj []))) with
      | ok lists =>
        rw [bind_ok found] at failed
        cases failed
      | error e =>
        rw [found] at failed
        cases failed
  · rintro ⟨refused, rfl⟩
    exact ofOutput_refused reports refused units

/-- **An output without errors has contracts**, those of the given units. -/
theorem ofOutput_accepted (described : Describes output errors contracts)
    (accepted : ¬∃ e ∈ errors, IsRefusal e) (units : List String) :
    ∃ found, ofOutput output units =
        .ok (.ok found ((errors.filter IsCaution).map Diagnostic.ofFields)) ∧
      Finds contracts units found := by
  refine ⟨_, ?_, described.finds units⟩
  have all : units.mapM (contractsOf (.obj (contracts.map fun unit => (unit.1, .obj unit.2)))) =
      .ok (units.map (foundIn contracts)) := mapM_ok fun unit _ => described.contractsOf unit
  rw [ofOutput, ← bind_assoc, bind_ok described.toReports.remarks,
    if_neg (mt any_isError.mp accepted), bind_ok (optional_obj _ _ described.object),
    described.units, bind_ok all, ← filter_isWarning]
  rfl

end CompileResult

end SolidityRepl
