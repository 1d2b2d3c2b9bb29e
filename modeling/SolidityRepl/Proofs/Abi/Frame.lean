import SolidityRepl.Proofs.Abi.Word

/-!
# Frames

Parts that are laid out are read one after the other: every place is where the parts before it end,
and every pointer leads to where its part stands.

* `AllRead`: parts each of which is read as its value;
* `Placed`: parts as they stand in a frame, and what is left when the first has been read;
* `AllRead.checkMembers`, `AllRead.decodeMembers`: such parts are gone through and decoded;
* `Param.reads`, `decodeAll_encodeAll`: what was encoded is decoded as it was.
-/

namespace SolidityRepl.Abi

namespace Part

variable {part : Part} {parts : List Part}

theorem length_heads (offset : Nat) (parts : List Part) :
    (heads offset parts).length = headLength parts := by
  induction parts generalizing offset with
  | nil => rfl
  | cons part rest ih =>
    cases dynamic : part.isDynamic <;> simp [heads, headLength, dynamic, ih, Bytes.length_ofNat]

theorem length_layout (parts : List Part) :
    (layout parts).length = headLength parts + (tails parts).length := by
  rw [layout, List.length_append, length_heads]

theorem length_le_layout (among : part ∈ parts) : part.bytes.length ≤ (layout parts).length := by
  rw [length_layout]
  induction parts with
  | nil => cases among
  | cons first rest ih =>
    rcases List.mem_cons.mp among with rfl | among
    · cases dynamic : part.isDynamic <;> simp [headLength, tails, dynamic] <;> omega
    · have later := ih among
      simp only [headLength, tails, List.length_append]
      omega

theorem tails_eq_nil (still : parts.any (·.isDynamic) = false) : tails parts = [] := by
  induction parts with
  | nil => rfl
  | cons part rest ih =>
    rw [List.any_cons, Bool.or_eq_false_iff] at still
    rw [tails, still.1, ih still.2]
    rfl

end Part

open Abi.Part

/-- Parts each of which is read as the value of its type. -/
inductive AllRead : List AbiType → List Part → List Value → Prop
  | nil : AllRead [] [] []
  | cons {type : AbiType} {types : List AbiType} {part : Part} {parts : List Part} {value : Value}
      {values : List Value} (same : part.isDynamic = type.isDynamic)
      (reads : Reads type part.bytes value) (rest : AllRead types parts values) :
      AllRead (type :: types) (part :: parts) (value :: values)

/-- Parts whose places begin at `pos`. If there are dynamic ones, the first stands at `offset`, and
the others follow it. -/
structure Placed (frame : Bytes) (pos offset : Nat) (parts : List Part) : Prop where
  within : ∃ front middle back,
    frame = front ++ (heads offset parts ++ (middle ++ (tails parts ++ back))) ∧
      pos = front.length ∧
      (parts.any (·.isDynamic) = true → offset = pos + (headLength parts + middle.length))

namespace Placed

variable {frame : Bytes} {pos offset : Nat} {part : Part} {parts : List Part}

/-- Parts at the start of a frame. -/
theorem start (parts : List Part) (back : Bytes) :
    Placed (layout parts ++ back) 0 (headLength parts) parts := by
  refine ⟨[], [], back, ?_, rfl, fun _ => by simp⟩
  rw [layout, List.append_assoc]
  rfl

/-- Parts of fixed size, wherever they are. -/
theorem static (front back : Bytes) (still : parts.any (·.isDynamic) = false) :
    Placed (front ++ (layout parts ++ back)) front.length (headLength parts) parts := by
  refine ⟨front, [], back, ?_, rfl, fun moves => ?_⟩
  · rw [layout, List.append_assoc]
    rfl
  · rw [still] at moves
    cases moves

/-- A first part of fixed size is in its place. -/
theorem inPlace (placed : Placed frame pos offset (part :: parts)) (here : part.isDynamic = false) :
    ∃ front back, frame = front ++ (part.bytes ++ back) ∧ pos = front.length ∧
      Placed frame (pos + part.bytes.length) offset parts := by
  obtain ⟨front, middle, back, whole, begins, pointed⟩ := placed.within
  simp only [heads, tails, headLength, here, Bool.false_eq_true, if_false, List.nil_append,
    List.any_cons, Bool.false_or, List.append_assoc] at whole pointed
  refine ⟨front, _, whole, begins, front ++ part.bytes, middle, back, ?_, ?_, fun moves => ?_⟩
  · rw [whole, List.append_assoc]
  · rw [begins, List.length_append]
  · rw [pointed moves]
    omega

/-- A first part that is dynamic stands where its pointer leads. -/
theorem apart (placed : Placed frame pos offset (part :: parts)) (there : part.isDynamic = true)
    (short : offset < Nat.pow 2 63) :
    numberAt frame pos = .ok offset ∧ (∃ back, frame.drop offset = part.bytes ++ back) ∧
      offset + part.bytes.length ≤ frame.length ∧
      Placed frame (pos + 32) (offset + part.bytes.length) parts := by
  obtain ⟨front, middle, back, whole, begins, pointed⟩ := placed.within
  simp only [heads, tails, headLength, there, if_true, List.any_cons, Bool.true_or, true_implies,
    List.append_assoc] at whole pointed
  have before : frame = (front ++ (Bytes.ofNat 32 offset ++
      (heads (offset + part.bytes.length) parts ++ middle))) ++
        (part.bytes ++ (tails parts ++ back)) := by
    rw [whole]
    simp only [List.append_assoc]
  have reached : (front ++ (Bytes.ofNat 32 offset ++
      (heads (offset + part.bytes.length) parts ++ middle))).length = offset := by
    simp only [List.length_append, Bytes.length_ofNat, length_heads]
    omega
  refine ⟨?_, ⟨tails parts ++ back, ?_⟩, ?_, front ++ Bytes.ofNat 32 offset, middle ++ part.bytes,
    back, ?_, ?_, fun _ => ?_⟩
  · rw [whole, begins]
    exact numberAt_word _ _ (counts_in_word short)
  · rw [before]
    exact List.drop_left' reached
  · rw [before, List.length_append, reached, List.length_append]
    omega
  · rw [whole]
    simp only [List.append_assoc]
  · rw [begins, List.length_append, Bytes.length_ofNat]
  · rw [List.length_append]
    omega

end Placed

/-! ## Members -/

theorem headWords_of_dynamic {type : AbiType} (dynamic : type.isDynamic = true) :
    headWords type = 1 := by
  cases type with
  | array item size =>
    cases size with
    | none => rfl
    | some n =>
      have inside : item.isDynamic = true := dynamic
      simp [headWords, inside]
  | _ => rfl

theorem headSize_cons (type : AbiType) (types : List AbiType) :
    headSize (type :: types) = headWords type + headSize types := by
  have total (types : List AbiType) : headSize types = (types.map headWords).sum :=
    List.sum_eq_foldl_nat.symm
  rw [total, total, List.map_cons, List.sum_cons]

namespace AllRead

variable {types : List AbiType} {parts : List Part} {values : List Value} {frame : Bytes}
  {pos offset head : Nat}

theorem anyDynamic (read : AllRead types parts values) :
    AbiType.anyDynamic types = parts.any (·.isDynamic) := by
  induction read with
  | nil => rfl
  | cons same _ _ ih => rw [AbiType.anyDynamic, List.any_cons, same, ih]

/-- A place is a word at least. -/
theorem places_le (read : AllRead types parts values) :
    32 * types.length ≤ headLength parts := by
  induction read with
  | nil => exact Nat.le_refl 0
  | cons _ reads _ ih =>
    have long := reads.long
    rw [List.length_cons, headLength]
    split <;> omega

/-- The words that members count for are no more than their places take up. -/
theorem headSize_le (read : AllRead types parts values) :
    32 * headSize types ≤ headLength parts := by
  induction read with
  | nil => exact Nat.le_refl 0
  | cons same reads _ ih =>
    rename_i type _ part _ _ _ _
    rw [headSize_cons, headLength, same]
    cases dynamic : type.isDynamic with
    | true =>
      rw [headWords_of_dynamic dynamic, if_pos rfl]
      omega
    | false =>
      have words := reads.words
      rw [if_neg (by decide)]
      omega

/-- Pointers lead behind all places and not beyond the end, and what is in place can be decoded. -/
theorem checkMembers (read : AllRead types parts values) (placed : Placed frame pos offset parts)
    (short : offset + (tails parts).length < Nat.pow 2 63) (behind : 32 * head ≤ offset) :
    AbiType.checkMembers head types frame pos = .ok () := by
  induction read generalizing pos offset with
  | nil => rfl
  | @cons type types part parts value values same reads _ ih =>
    cases dynamic : type.isDynamic with
    | true =>
      rw [dynamic] at same
      simp only [tails, same, if_true, List.length_append] at short
      obtain ⟨pointer, -, inside, next⟩ := placed.apart same (by omega)
      have long := reads.long
      have fine : (offset < 32 * head || frame.length ≤ offset) = false := by
        simp only [Bool.or_eq_false_iff, decide_eq_false_iff_not]
        omega
      simp only [AbiType.checkMembers, dynamic, if_true, pointerAt, pointer, bind, Except.bind]
      rw [fine]
      exact ih next (by omega) (by omega)
    | false =>
      rw [dynamic] at same
      simp only [tails, same, Bool.false_eq_true, if_false, List.nil_append] at short
      obtain ⟨front, back, rfl, rfl, next⟩ := placed.inPlace same
      simp only [AbiType.checkMembers, dynamic, Bool.false_eq_true, if_false,
        reads.inPlace dynamic front back, bind, Except.bind]
      exact ih next short behind

/-- Members that are laid out are decoded as what they are. -/
theorem decodeMembers (read : AllRead types parts values) (placed : Placed frame pos offset parts)
    (short : offset + (tails parts).length < Nat.pow 2 63) :
    AbiType.decodeMembers types frame pos = .ok (values, pos + headLength parts) := by
  induction read generalizing pos offset with
  | nil => rfl
  | @cons type types part parts value values same reads _ ih =>
    cases dynamic : type.isDynamic with
    | true =>
      rw [dynamic] at same
      simp only [tails, same, if_true, List.length_append] at short
      obtain ⟨pointer, ⟨back, frame'⟩, -, next⟩ := placed.apart same (by omega)
      obtain ⟨after, decoded⟩ := reads.apart dynamic back
      have rest := ih next (by omega)
      simp only [AbiType.decodeMembers, member, dynamic, if_true, pointer, frame', decoded, rest,
        bind, Except.bind, pure, Except.pure, headLength, same]
      rw [Nat.add_assoc]
    | false =>
      rw [dynamic] at same
      simp only [tails, same, Bool.false_eq_true, if_false, List.nil_append] at short
      obtain ⟨front, back, rfl, rfl, next⟩ := placed.inPlace same
      have rest := ih next short
      simp only [AbiType.decodeMembers, member, dynamic, Bool.false_eq_true, if_false,
        reads.inPlace dynamic front back, rest, bind, Except.bind, pure, Except.pure, headLength,
        same]
      rw [Nat.add_assoc]

/-- **Members that are laid out are read together.** -/
theorem tuple (read : AllRead types parts values) (one : types ≠ [])
    (short : (layout parts).length < Nat.pow 2 63) :
    Reads (.tuple types) (layout parts) (.tuple values) := by
  rw [length_layout] at short
  have places := read.places_le
  have members := List.length_pos_iff.mpr one
  have behind := read.headSize_le
  refine ⟨?_, ?_, fun _ back => ⟨headLength parts, ?_⟩, fun static front back => ?_⟩
  · rw [length_layout]
    omega
  · show 32 * 1 ≤ _
    rw [length_layout]
    omega
  · have placed := Placed.start parts back
    have decoded := read.decodeMembers placed short
    rw [Nat.zero_add] at decoded
    simp only [AbiType.decode, read.checkMembers placed short behind, decoded, bind, Except.bind]
    rfl
  · have still : parts.any (·.isDynamic) = false := by
      rw [← read.anyDynamic]
      exact static
    have placed := Placed.static front back still
    have decoded := read.decodeMembers placed short
    have flat : (layout parts).length = headLength parts := by
      rw [length_layout, tails_eq_nil still]
      rfl
    simp only [AbiType.decode, read.checkMembers placed short behind, decoded, bind, Except.bind]
    rw [flat]
    rfl

end AllRead

/-! ## Items -/

/-- Items are members that all have the same type. -/
theorem many_eq_decodeMembers (type : AbiType) (frame : Bytes) (count pos : Nat) :
    many (member type.isDynamic type.decode) frame count pos =
      AbiType.decodeMembers (List.replicate count type) frame pos := by
  induction count generalizing pos with
  | zero => rfl
  | succ count ih => simp only [many, List.replicate_succ, AbiType.decodeMembers, ih]

theorem checkPointers_eq_checkMembers {type : AbiType} (dynamic : type.isDynamic = true)
    (head : Nat) (frame : Bytes) (count pos : Nat) :
    checkPointers head frame count pos =
      AbiType.checkMembers head (List.replicate count type) frame pos := by
  induction count generalizing pos with
  | zero => rfl
  | succ count ih =>
    rw [checkPointers, List.replicate_succ, AbiType.checkMembers, dynamic, if_pos rfl]
    congr
    funext _
    rw [ih]

namespace AllRead

variable {item : AbiType} {parts : List Part} {values : List Value} {frame : Bytes}
  {count pos offset : Nat}

theorem headLength_of_dynamic (read : AllRead (List.replicate count item) parts values)
    (dynamic : item.isDynamic = true) : headLength parts = 32 * count := by
  induction count generalizing parts values with
  | zero =>
    cases read
    rfl
  | succ count ih =>
    cases read with
    | cons same _ rest =>
      rw [headLength, same, dynamic, if_pos rfl, ih rest]
      omega

theorem items (read : AllRead (List.replicate count item) parts values)
    (placed : Placed frame pos (headLength parts) parts)
    (short : (layout parts).length < Nat.pow 2 63) :
    Abi.items item.isDynamic item.decode count frame pos =
      .ok (values, pos + headLength parts) := by
  rw [length_layout] at short
  have decoded := read.decodeMembers placed short
  rw [Abi.items, many_eq_decodeMembers, decoded]
  cases dynamic : item.isDynamic with
  | true =>
    have behind : 32 * count ≤ headLength parts :=
      Nat.le_of_eq (read.headLength_of_dynamic dynamic).symm
    rw [if_pos rfl, checkPointers_eq_checkMembers dynamic, read.checkMembers placed short behind]
    rfl
  | false => rfl

/-- Items of fixed size are all in place. -/
theorem still (read : AllRead (List.replicate count item) parts values)
    (static : item.isDynamic = false) : parts.any (·.isDynamic) = false := by
  rw [← read.anyDynamic]
  clear read
  induction count with
  | zero => rfl
  | succ count ih => rw [List.replicate_succ, AbiType.anyDynamic, static, ih, Bool.or_false]

/-- **Items that are laid out are read as an array of their number.** -/
theorem array_some (read : AllRead (List.replicate count item) parts values) (one : 1 ≤ count)
    (short : (layout parts).length < Nat.pow 2 63) :
    Reads (.array item (some count)) (layout parts) (.tuple values) := by
  have places := read.places_le
  rw [List.length_replicate] at places
  have whole := length_layout parts
  refine ⟨by omega, ?_, fun _ back => ⟨headLength parts, ?_⟩, fun static front back => ?_⟩
  · rw [headWords]
    split <;> omega
  · have decoded := read.items (Placed.start parts back) short
    rw [Nat.zero_add] at decoded
    simp only [AbiType.decode, decoded, bind, Except.bind]
    rfl
  · have still := read.still static
    have decoded := read.items (Placed.static front back still) short
    rw [tails_eq_nil still, List.length_nil, Nat.add_zero] at whole
    simp only [AbiType.decode, decoded, bind, Except.bind]
    rw [whole]
    rfl

/-- Behind their number they are read as an array of any number. -/
theorem array_none (read : AllRead (List.replicate count item) parts values)
    (short : (layout parts).length < Nat.pow 2 63) :
    Reads (.array item none) (Bytes.ofNat 32 count ++ layout parts) (.tuple values) := by
  have places := read.places_le
  rw [List.length_replicate] at places
  have whole := length_layout parts
  have total : (Bytes.ofNat 32 count ++ layout parts).length = 32 + (layout parts).length := by
    rw [List.length_append, Bytes.length_ofNat]
  refine ⟨by omega, ?_, fun _ back => ⟨0 + 32 + headLength parts, ?_⟩, fun static => nomatch static⟩
  · show 32 * 1 ≤ _
    omega
  · have decoded := read.items (Placed.start parts back) short
    have counts : numberAt (Bytes.ofNat 32 count ++ layout parts ++ back) 0 = .ok count := by
      rw [List.append_assoc]
      exact numberAt_start (counts_in_word (by omega))
    have behind : (Bytes.ofNat 32 count ++ layout parts ++ back).drop (0 + 32) =
        layout parts ++ back := by
      rw [List.append_assoc]
      exact List.drop_left' (Bytes.length_ofNat 32 count)
    rw [Nat.zero_add] at decoded
    simp only [AbiType.decode, counts, behind, decoded, bind, Except.bind]
    rfl

/-- The values of an array, if each of them is read. -/
theorem ofItems {item : Param} {values : List Value}
    (reads : ∀ v ∈ values, Reads item.type (item.encode v) v.raw) :
    AllRead (List.replicate values.length item.type)
      (values.map fun v => ⟨item.type.isDynamic, item.encode v⟩) (Value.rawAll values) := by
  induction values with
  | nil => exact .nil
  | cons v rest ih =>
    rw [List.length_cons, List.replicate_succ, List.map_cons, Value.rawAll]
    exact .cons rfl (reads v List.mem_cons_self)
      (ih fun w among => reads w (List.mem_cons_of_mem v among))

end AllRead

/-! ## Parameters -/

theorem Param.types_ne_nil {fields : List Param} (one : fields ≠ []) : Param.types fields ≠ [] := by
  cases fields with
  | nil => exact absurd rfl one
  | cons p rest => simp [Param.types]

mutual

/-- **What was encoded is read as it was**, by induction on the parameter: the items of an array and
the fields of a struct are read because each of them is. -/
theorem Param.reads : ∀ (p : Param) {v : Value}, p.IsSized → p.Fits v →
    (p.encode v).length < Nat.pow 2 63 → Reads p.type (p.encode v) v.raw
  | .leaf _, _, sized, fits, short => Leaf.reads sized fits short
  | .array item size, v, sized, fits, short => by
    cases v with
    | list values =>
      obtain ⟨counts, each⟩ := fits
      have items (held : (layout (values.map fun v =>
          ⟨item.type.isDynamic, item.encode v⟩)).length < Nat.pow 2 63) :
          AllRead (List.replicate values.length item.type)
            (values.map fun v => ⟨item.type.isDynamic, item.encode v⟩) (Value.rawAll values) := by
        refine .ofItems fun v among => item.reads sized.1 (each v among) ?_
        have part := Part.length_le_layout
          (List.mem_map_of_mem (f := fun v => (⟨item.type.isDynamic, item.encode v⟩ : Part)) among)
        exact Nat.lt_of_le_of_lt part held
      cases size with
      | none =>
        have held : (layout (values.map fun v =>
            ⟨item.type.isDynamic, item.encode v⟩)).length < Nat.pow 2 63 := by
          rw [Param.encode, List.length_append] at short
          omega
        exact (items held).array_none held
      | some n =>
        obtain rfl := counts n rfl
        exact (items short).array_some (sized.2 _ rfl).1 short
    | _ => exact fits.elim
  | .struct name names fields, v, sized, fits, short => by
    cases v with
    | struct _ values =>
      have read := Param.allRead fields sized.2 fits.2.2 fun part among =>
        Nat.lt_of_le_of_lt (Part.length_le_layout among) short
      rw [Value.raw, Value.rawFields_eq]
      exact read.tuple (Param.types_ne_nil sized.1) short
    | _ => exact fits.elim

/-- The values of several parameters are. -/
theorem Param.allRead : ∀ (params : List Param) {values : List Value}, Param.AreSized params →
    Param.FitAll params values →
    (∀ part ∈ Param.parts params values, part.bytes.length < Nat.pow 2 63) →
    AllRead (Param.types params) (Param.parts params values) (Value.rawAll values)
  | [], values, _, fit, _ => by
    cases values with
    | nil => exact .nil
    | cons _ _ => exact fit.elim
  | p :: rest, values, sized, fit, short => by
    cases values with
    | nil => exact fit.elim
    | cons v values =>
      rw [Param.parts] at short ⊢
      have others := Param.allRead rest sized.2 fit.2 fun part among =>
        short part (List.mem_cons_of_mem _ among)
      exact .cons rfl (p.reads sized.1 fit.1 (short _ List.mem_cons_self)) others

end

/-- **The values of several parameters are decoded as they were encoded**, if the encoding can be
held. -/
theorem decodeAll_encodeAll {params : List Param} {values : List Value}
    (sized : Param.AreSized params) (fit : Param.FitAll params values)
    (short : (encodeAll params values).length < Nat.pow 2 63) :
    decodeAll (Param.types params) (encodeAll params values) = .ok (Value.rawAll values) := by
  have read := Param.allRead params sized fit fun part among =>
    Nat.lt_of_le_of_lt (Part.length_le_layout among) short
  have placed := Placed.start (Param.parts params values) []
  rw [List.append_nil] at placed
  rw [encodeAll, length_layout] at short
  have checked := read.checkMembers placed short read.headSize_le
  have decoded := read.decodeMembers placed short
  rw [encodeAll]
  simp only [decodeAll, checked, decoded, bind, Except.bind]
  rfl

end SolidityRepl.Abi
