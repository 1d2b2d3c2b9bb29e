import Mathlib.Data.List.Nodup
import SolidityRepl.Proofs.Abi.Written
import SolidityRepl.Proofs.Abi.Shape

/-!
# Names of structs and of their fields

Fields are named so that no two have one name: a name that is not fit is replaced by its place. They
may still be compatible with each other, but not if all are texts of ASCII characters, as the names
of a contract are.
-/

namespace SolidityRepl.Text

def IsAscii (s : String) : Prop := ∀ c ∈ s.toList, c.toNat < 128

theorem isAscii_of_all {s : String} (all : s.toList.all (fun c => c.toNat < 128) = true) :
    IsAscii s :=
  fun c among => of_decide_eq_true (List.all_eq_true.mp all c among)

theorem insertMark_ascii {n : Nat} {ms : List Nat} (ascii : ∀ m ∈ ms, m < 128) :
    insertMark n ms = n :: ms := by
  cases ms with
  | nil => rfl
  | cons m rest =>
    have low : m < 128 := ascii m List.mem_cons_self
    have unmarked : markClass m = 0 := if_pos low
    simp only [insertMark, unmarked, bne_self_eq_false, Bool.false_and, Bool.false_eq_true,
      if_false]

theorem takenApart_ascii {s : String} (ascii : IsAscii s) :
    takenApart s = s.toList.map Char.toNat := by
  have each : ∀ cs : List Char, (∀ c ∈ cs, c.toNat < 128) →
      (cs.flatMap simplest).foldr insertMark [] = cs.map Char.toNat := by
    intro cs low
    induction cs with
    | nil => rfl
    | cons c cs ih =>
      have simple : simplest c = [c.toNat] := if_pos (low c List.mem_cons_self)
      have others := ih fun d among => low d (List.mem_cons_of_mem _ among)
      rw [List.flatMap_cons, simple, List.singleton_append, List.foldr_cons, others, List.map_cons]
      apply insertMark_ascii
      intro m among
      obtain ⟨d, there, rfl⟩ := List.mem_map.mp among
      exact low d (List.mem_cons_of_mem _ there)
  exact each s.toList ascii

theorem takenApart_inj {s t : String} (first : IsAscii s) (second : IsAscii t)
    (same : takenApart s = takenApart t) : s = t := by
  rw [takenApart_ascii first, takenApart_ascii second] at same
  apply String.toList_inj.mp
  exact List.map_injective_iff.mpr (fun a b same => Char.toNat_inj.mp same) same

end SolidityRepl.Text

namespace SolidityRepl.Abi

open Text

/-! ## Names of fields -/

def placeName (k : Nat) : String := "_" ++ toString k

theorem toList_placeName (k : Nat) : (placeName k).toList = '_' :: Nat.toDigits 10 k := by
  show ("_" ++ toString k).toList = _
  rw [String.toList_append]
  exact congrArg (List.cons '_') Nat.toList_repr

theorem placeName_inj {j k : Nat} (same : placeName j = placeName k) : j = k := by
  have texts := congrArg String.toList same
  rw [toList_placeName, toList_placeName] at texts
  injection texts with _ digits
  rw [← decimalValue_toDigits j, ← decimalValue_toDigits k, digits]

theorem startsWith_placeName (k : Nat) : (placeName k).startsWith "_" = true := by
  rw [String.startsWith_string_iff, toList_placeName]
  exact List.cons_prefix_cons.mpr ⟨rfl, List.nil_prefix⟩

theorem isAscii_placeName (k : Nat) : IsAscii (placeName k) := by
  intro c among
  rw [toList_placeName] at among
  rcases List.mem_cons.mp among with rfl | among
  · decide
  · have digit := isDigit_of_mem among
    simp only [Char.isDigit, Bool.and_eq_true, decide_eq_true_eq, UInt32.le_iff_toNat_le] at digit
    have most : c.val.toNat ≤ 57 := digit.2
    show c.val.toNat < 128
    omega

/-- A field has its own name, if that is fit and was not there before, or one by its place. -/
theorem mem_fieldNamesFrom {place : Nat} {seen names : List String} {name : String}
    (among : name ∈ fieldNamesFrom place seen names) :
    (∃ k, place ≤ k ∧ name = placeName k) ∨
      (name ∈ names ∧ name.startsWith "_" = false ∧ name ∉ seen) := by
  induction names generalizing place seen with
  | nil => cases among
  | cons first rest ih =>
    rw [fieldNamesFrom] at among
    rcases List.mem_cons.mp among with rfl | among
    · by_cases unfit : isUnfit seen first = true
      · exact .inl ⟨place, Nat.le_refl _, if_pos unfit⟩
      · have fit := Bool.eq_false_iff.mpr unfit
        simp only [isUnfit, Bool.or_eq_false_iff, List.contains_eq_mem,
          decide_eq_false_iff_not] at fit
        rw [if_neg unfit]
        exact .inr ⟨List.mem_cons_self, fit.1.2, fit.2⟩
    · rcases ih among with ⟨k, later, rfl⟩ | ⟨among, plain, new⟩
      · exact .inl ⟨k, by omega, rfl⟩
      · have fresh := fun old => new (List.mem_cons_of_mem _ old)
        exact .inr ⟨List.mem_cons_of_mem _ among, plain, fresh⟩

/-- No two fields have one name, by induction on the names: a later field is named by a later place,
or by a name that is no earlier one. -/
theorem nodup_fieldNamesFrom (place : Nat) (seen names : List String) :
    (fieldNamesFrom place seen names).Nodup := by
  induction names generalizing place seen with
  | nil => exact List.nodup_nil
  | cons first rest ih =>
    rw [fieldNamesFrom, List.nodup_cons]
    refine ⟨?_, ih (place + 1) (first :: seen)⟩
    intro again
    by_cases unfit : isUnfit seen first = true
    · rw [if_pos unfit] at again
      rcases mem_fieldNamesFrom again with ⟨k, later, same⟩ | ⟨_, plain, _⟩
      · have := placeName_inj (same : placeName place = placeName k)
        omega
      · have underscore := startsWith_placeName place
        rw [placeName, plain] at underscore
        cases underscore
    · have fit := Bool.eq_false_iff.mpr unfit
      simp only [isUnfit, Bool.or_eq_false_iff] at fit
      rw [if_neg unfit] at again
      rcases mem_fieldNamesFrom again with ⟨k, _, rfl⟩ | ⟨_, _, new⟩
      · rw [startsWith_placeName] at fit
        cases fit.1.2
      · exact new List.mem_cons_self

/-- A name with an underscore in front is given to a field only by its place. -/
theorem not_mem_fieldNames {name : String} {c : Char} {cs : List Char} (names : List String)
    (text : name.toList = '_' :: c :: cs) (other : c.isDigit = false) :
    name ∉ fieldNames names := by
  intro among
  rcases mem_fieldNamesFrom among with ⟨k, _, rfl⟩ | ⟨_, plain, _⟩
  · rw [toList_placeName] at text
    injection text with _ digits
    have first : c ∈ Nat.toDigits 10 k := by
      rw [digits]
      exact List.mem_cons_self
    have digit := isDigit_of_mem first
    rw [other] at digit
    cases digit
  · rw [String.startsWith_string_eq_false_iff, text] at plain
    exact plain (List.cons_prefix_cons.mpr ⟨rfl, List.nil_prefix⟩)

/-- **Fields with names of ASCII characters stand together.** -/
theorem areDistinct_fieldNames {names : List String} (ascii : ∀ name ∈ names, IsAscii name) :
    areDistinct (fieldNames names) = true := by
  have fields : ∀ name ∈ "_cls" :: fieldNames names, IsAscii name := by
    intro name among
    rcases List.mem_cons.mp among with rfl | among
    · exact isAscii_of_all (by decide)
    · rcases mem_fieldNamesFrom among with ⟨k, _, rfl⟩ | ⟨among, _⟩
      · exact isAscii_placeName k
      · exact ascii name among
  have own : "_cls" ∉ fieldNames names := not_mem_fieldNames names rfl (by decide)
  have nodup : ("_cls" :: fieldNames names).Nodup :=
    List.nodup_cons.mpr ⟨own, nodup_fieldNamesFrom 0 [] names⟩
  have forms : (("_cls" :: fieldNames names).map takenApart).Nodup :=
    List.Nodup.map_on
      (fun s first t second same => takenApart_inj (fields s first) (fields t second) same) nodup
  have debug : takenApart "__debug__" ∉ ("_cls" :: fieldNames names).map takenApart := by
    intro among
    obtain ⟨name, among, same⟩ := List.mem_map.mp among
    have ascii : IsAscii "__debug__" := isAscii_of_all (by decide)
    have whole := takenApart_inj (fields name among) ascii same
    rcases List.mem_cons.mp among with rfl | among
    · exact absurd whole (by decide)
    · exact not_mem_fieldNames names rfl (by decide) (whole ▸ among)
  simp only [areDistinct, forms, decide_true, Bool.true_and, Bool.not_eq_true',
    List.contains_eq_mem, decide_eq_false_iff_not]
  exact debug

/-! ## Names of structs -/

/-- A name of letters and digits that begins with a letter. -/
def IsPlain (name : String) : Prop :=
  ∃ c cs, name.toList = c :: cs ∧ c.isAlpha = true ∧ ∀ d ∈ cs, d.isAlphanum = true

theorem isPlain_of_all {name : String} {c : Char} {cs : List Char} (spelled : name.toList = c :: cs)
    (letter : c.isAlpha = true) (others : cs.all Char.isAlphanum = true) : IsPlain name :=
  ⟨c, cs, spelled, letter, List.all_eq_true.mp others⟩

theorem toNat_of_isAlphanum {c : Char} (plain : c.isAlphanum = true) : c.toNat < 128 := by
  have either : (c.isAlpha || c.isDigit) = true := plain
  rcases Bool.or_eq_true_iff.mp either with letter | digit
  · rcases Text.isAlpha_toNat letter with ⟨-, most⟩ | ⟨-, most⟩ <;> omega
  · have most : c.toNat ≤ 57 := (Char.isDigit_iff_toNat.mp digit).2
    omega

theorem IsPlain.isAlphanum {name : String} (plain : IsPlain name) :
    ∀ c ∈ name.toList, c.isAlphanum = true := by
  obtain ⟨c, cs, text, letter, rest⟩ := plain
  rw [text]
  intro d among
  rcases List.mem_cons.mp among with rfl | among
  · simp only [Char.isAlphanum, letter, Bool.true_or]
  · exact rest d among

theorem IsPlain.isIdentifier {name : String} (plain : IsPlain name) : isIdentifier name = true := by
  obtain ⟨c, cs, text, letter, rest⟩ := plain
  have first : isIdentifierStart c = true := by
    have alphanum : c.isAlphanum = true := by simp only [Char.isAlphanum, letter, Bool.true_or]
    have low := toNat_of_isAlphanum alphanum
    simp only [isIdentifierStart, low, if_true, letter, Bool.true_or]
  have others : cs.all isIdentifierContinue = true := by
    rw [List.all_eq_true]
    intro d among
    have low := toNat_of_isAlphanum (rest d among)
    simp only [isIdentifierContinue, low, if_true, rest d among, Bool.true_or]
  simp only [Text.isIdentifier, text, first, others, Bool.and_self]

/-- The compiler's words for a struct: the contract it is in, if it is in one, its name, and the
sizes of the arrays around it. -/
def compilerWords (scope : Option String) (name : String) (around : List (Option Nat)) : String :=
  "struct " ++ (scope.elim "" (· ++ ".") ++ (name ++ String.ofList (dimensionTexts around)))

theorem mem_dimensionTexts {sizes : List (Option Nat)} {c : Char}
    (among : c ∈ dimensionTexts sizes) : c = '[' ∨ c = ']' ∨ c.isDigit = true := by
  obtain ⟨size, _, among⟩ := List.mem_flatMap.mp among
  cases size with
  | none =>
    rcases List.mem_cons.mp among with rfl | among
    · exact .inl rfl
    · exact .inr (.inl (List.mem_singleton.mp among))
  | some n =>
    rcases List.mem_cons.mp among with rfl | among
    · exact .inl rfl
    · rcases List.mem_append.mp among with among | among
      · exact .inr (.inr (isDigit_of_mem among))
      · exact .inr (.inl (List.mem_singleton.mp among))

/-- A struct's name with sizes behind has nothing in it that the compiler's words are cut at. -/
theorem ne_of_mem_name {name : String} {around : List (Option Nat)} {c stop : Char}
    (plain : IsPlain name) (among : c ∈ name.toList ++ dimensionTexts around)
    (cuts : stop = '.' ∨ stop = ' ') : c ≠ stop := by
  rintro rfl
  rcases List.mem_append.mp among with among | among
  · have letter := plain.isAlphanum c among
    rcases cuts with rfl | rfl <;> cases letter
  · rcases mem_dimensionTexts among with rfl | rfl | digit
    · rcases cuts with cut | cut <;> cases cut
    · rcases cuts with cut | cut <;> cases cut
    · rcases cuts with rfl | rfl <;> cases digit

/-- The sizes stay behind a struct's name. -/
theorem structName_compilerWords (scope : Option String) {name : String}
    (around : List (Option Nat)) (plain : IsPlain name) :
    structName (compilerWords scope name around) =
      String.ofList (name.toList ++ dimensionTexts around) := by
  have text : (compilerWords scope name around).toList = "struct ".toList ++
      ((scope.elim "" (· ++ ".")).toList ++ (name.toList ++ dimensionTexts around)) := by
    simp only [compilerWords, String.toList_append, String.toList_ofList]
  have noPoint : ∀ c ∈ name.toList ++ dimensionTexts around, c ≠ '.' :=
    fun c among => ne_of_mem_name plain among (.inl rfl)
  have stripped : (("struct ".toList.isPrefixOf?
      (afterLast '.' (compilerWords scope name around).toList)).getD
      (afterLast '.' (compilerWords scope name around).toList)) =
      name.toList ++ dimensionTexts around := by
    cases scope with
    | none =>
      have whole : ∀ c ∈ "struct ".toList ++ (name.toList ++ dimensionTexts around), c ≠ '.' := by
        intro c among
        rcases List.mem_append.mp among with among | among
        · rintro rfl
          exact absurd among (by decide)
        · exact noPoint c among
      have last : afterLast '.' (compilerWords none name around).toList =
          "struct ".toList ++ (name.toList ++ dimensionTexts around) := by
        rw [text]
        exact afterLast_absent whole
      rw [last, Text.isPrefixOf?_append]
      rfl
    | some contract =>
      have last : afterLast '.' (compilerWords (some contract) name around).toList =
          name.toList ++ dimensionTexts around := by
        have front := afterLast_append ("struct ".toList ++ contract.toList) noPoint
        rw [List.append_assoc] at front
        rw [text, Option.elim_some, String.toList_append, List.append_assoc]
        exact front
      have unmarked :
          "struct ".toList.isPrefixOf? (name.toList ++ dimensionTexts around) = none := by
        cases found : "struct ".toList.isPrefixOf? (name.toList ++ dimensionTexts around) with
        | none => rfl
        | some rest =>
          have whole := append_of_isPrefixOf? found
          have blank : ' ' ∈ name.toList ++ dimensionTexts around := by
            rw [← whole]
            exact List.mem_append_left _ (by decide)
          exact absurd rfl (ne_of_mem_name plain blank (.inr rfl))
      rw [last, unmarked]
      rfl
  have one : (name.toList ++ dimensionTexts around).isEmpty = false := by
    obtain ⟨c, cs, named, _⟩ := plain
    rw [named]
    rfl
  simp only [structName, stripped, one, Bool.false_eq_true, if_false]

/-- A struct's name with sizes behind is no name. -/
theorem isFreeIdentifier_sizes {name : String} {size : Option Nat} {sizes : List (Option Nat)}
    (plain : IsPlain name) :
    isFreeIdentifier (String.ofList (name.toList ++ dimensionTexts (size :: sizes))) = false := by
  obtain ⟨c, cs, text, _⟩ := plain
  have bracket : '[' ∈ cs ++ dimensionTexts (size :: sizes) := by
    refine List.mem_append_right _ (List.mem_append_left _ ?_)
    cases size <;> exact List.mem_cons_self
  have stops : (cs ++ dimensionTexts (size :: sizes)).all isIdentifierContinue = false :=
    List.all_eq_false.mpr ⟨'[', bracket, by decide⟩
  simp only [isFreeIdentifier, isIdentifier, String.toList_ofList, text, List.cons_append, stops,
    Bool.and_false, Bool.false_and]

end SolidityRepl.Abi
