import SolidityRepl.Proofs.Abi.Outputs

/-!
# Bytes of any kind

Bytes that come from elsewhere may be no encoding of what is declared. What is decoded from them has
the form of the declared types, and what fails does so in few ways: mostly because the bytes are no
encoding, and where bytes of any number or texts are declared, because these are too long or no
texts.

* `Yields`: what an attempt gives, and how it fails;
* `decodeAll_yields`: decoding any bytes by any types;
* `outputsOf_yields`: the value of a function, from any bytes;
* `PointsTo`, `PointsTo.decodeAll`: a text alone, read where a pointer leads.
-/

namespace SolidityRepl

namespace Abi

/-! ## Attempts that fail in few ways -/

/-- A fault of bytes: they are no encoding, or, among bytes of any number, there are too many or
they are no text. -/
def Malformed (unbounded : Bool) (e : Failure) : Prop :=
  e.isUndecodable = true ∨ unbounded = true ∧ (e = .tooLarge ∨ e = .badText)

variable {α β : Type} {bad : Failure → Prop}

/-- An attempt that gives what is good, or fails with what is bad. -/
def Yields (bad : Failure → Prop) (good : α → Prop) (r : Except Failure α) : Prop :=
  match r with
  | .ok a => good a
  | .error e => bad e

theorem Yields.of_ok {good : α → Prop} {r : Except Failure α} {a : α} (given : r = .ok a)
    (fine : good a) : Yields bad good r := by
  rw [given]
  exact fine

theorem Yields.weaken {good : α → Prop} {worse : Failure → Prop} {r : Except Failure α}
    (yields : Yields bad good r) (imp : ∀ e, bad e → worse e) : Yields worse good r := by
  cases r with
  | ok a => exact yields
  | error e => exact imp e yields

theorem Yields.bind {good : α → Prop} {better : β → Prop} {r : Except Failure α}
    {next : α → Except Failure β} (first : Yields bad good r)
    (rest : ∀ a, good a → Yields bad better (next a)) : Yields bad better (r >>= next) := by
  cases r with
  | ok a => exact rest a first
  | error e => exact first

theorem Yields.map {good : α → Prop} {better : β → Prop} {r : Except Failure α} {f : α → β}
    (first : Yields bad good r) (imp : ∀ a, good a → better (f a)) :
    Yields bad better (r.map f) := by
  cases r with
  | ok a => exact imp a first
  | error e => exact first

/-- A guard that stops an attempt before the rest of it. -/
theorem Yields.unless {good : α → Prop} {p : Prop} [Decidable p] {stop rest : Except Failure α}
    {e : Failure} (stops : stop = .error e) (fault : bad e)
    (others : Yields bad good rest) : Yields bad good (if p then stop else rest) := by
  by_cases holds : p
  · rw [if_pos holds, stops]
    exact fault
  · rw [if_neg holds]
    exact others

theorem Yields.guard {good : α → Prop} {p : Prop} [Decidable p] {a : α} {e : Failure}
    (fine : good a) (fault : bad e) : Yields bad good (if p then .ok a else .error e) := by
  by_cases holds : p
  · rw [if_pos holds]
    exact fine
  · rw [if_neg holds]
    exact fault

end Abi

/-! ## Forms of decoded values -/

mutual

/-- Whether bytes of any number, or a text, are in a value. -/
def AbiType.isCounted : AbiType → Bool
  | .bytes | .string => true
  | .array item _ => item.isCounted
  | .tuple types => AbiType.anyCounted types
  | _ => false

def AbiType.anyCounted : List AbiType → Bool
  | [] => false
  | t :: rest => t.isCounted || AbiType.anyCounted rest

end

mutual

/-- The values that have the form of a type. -/
def AbiType.Holds : AbiType → Value → Prop
  | .address, v => ∃ a : Address, v = .text (Bytes.prefixedHex a.bytes)
  | .array item _, v => ∃ values, v = .tuple values ∧ ∀ w ∈ values, item.Holds w
  | .tuple types, v => ∃ values, v = .tuple values ∧ AbiType.HoldAll types values
  | _, v => ∀ values, v ≠ .tuple values

def AbiType.HoldAll : List AbiType → List Value → Prop
  | [], [] => True
  | t :: rest, v :: values => t.Holds v ∧ AbiType.HoldAll rest values
  | _, _ => False

end

namespace Abi

variable {unbounded : Bool} {frame : Bytes} {pos : Nat}

/-! ## Words -/

theorem wordAt_yields :
    Yields (Malformed unbounded) (fun word => word.length = 32) (wordAt frame pos) := by
  by_cases few : ((frame.drop pos).take 32).length < 32
  · simp only [wordAt, if_pos few]
    exact .inl rfl
  · have most : ((frame.drop pos).take 32).length ≤ 32 := List.length_take_le 32 _
    simp only [wordAt, if_neg few]
    show ((frame.drop pos).take 32).length = 32
    omega

theorem numberAt_yields : Yields (Malformed unbounded) (fun _ => True) (numberAt frame pos) :=
  wordAt_yields.map fun _ _ => trivial

theorem lowBytes_yields (size : Nat) {word : Bytes} (full : word.length = 32) :
    Yields (Malformed unbounded) (fun low => low.length = 32 - (32 - size))
      (lowBytes size word) := by
  refine .guard ?_ (.inl rfl)
  rw [List.length_drop, full]

theorem highBytes_yields (size : Nat) (word : Bytes) :
    Yields (Malformed unbounded) (fun _ => True) (highBytes size word) := .guard trivial (.inl rfl)

theorem signedNumber_yields (size : Nat) (word : Bytes) :
    Yields (Malformed unbounded) (fun _ => True) (signedNumber size word) :=
  .guard trivial (.inl rfl)

theorem truth_yields {word : Bytes} (full : word.length = 32) :
    Yields (Malformed unbounded) (fun _ => True) (truth word) := by
  refine (lowBytes_yields 1 full).bind fun low _ => ?_
  split
  · exact trivial
  · exact trivial
  · exact .inl rfl

/-- The types of values that a word stands for. -/
def IsSingle : AbiType → Prop
  | .bytes | .string | .array _ _ | .tuple _ => False
  | _ => True

theorem leafOf_yields {type : AbiType} {word : Bytes} (one : IsSingle type)
    (full : word.length = 32) : Yields (Malformed unbounded) type.Holds (leafOf type word) := by
  cases type with
  | uint bits => exact (lowBytes_yields _ full).map fun _ _ _ same => nomatch same
  | int bits => exact (signedNumber_yields _ _).map fun _ _ _ same => nomatch same
  | bool => exact (truth_yields full).map fun _ _ _ same => nomatch same
  | address => exact (lowBytes_yields 20 full).map fun low size => ⟨⟨low, size⟩, rfl⟩
  | fixedBytes size => exact (highBytes_yields _ _).map fun _ _ _ same => nomatch same
  | fixed signed bits places =>
    cases signed with
    | true => exact (signedNumber_yields _ _).map fun _ _ _ same => nomatch same
    | false => exact (lowBytes_yields _ full).map fun _ _ _ same => nomatch same
  | bytes | string | array _ _ | tuple _ => exact one.elim

theorem decode_single_yields {type : AbiType} (one : IsSingle type) :
    Yields (Malformed unbounded) (fun r => type.Holds r.1) (type.decode frame pos) := by
  have words : type.decode frame pos =
      (wordAt frame pos >>= fun word =>
        leafOf type word >>= fun value => pure (value, pos + 32)) := by
    cases type with
    | bytes | string | array _ _ | tuple _ => exact one.elim
    | _ => simp only [AbiType.decode]
  rw [words]
  refine wordAt_yields.bind fun word full => ?_
  exact (leafOf_yields one full).bind fun value holds => holds

/-! ## Bytes of any number -/

theorem bytesAt_yields : Yields (Malformed true) (fun _ => True) (bytesAt frame pos) := by
  refine numberAt_yields.bind fun size _ => ?_
  refine .unless rfl (.inr ⟨rfl, .inl rfl⟩) ?_
  refine .unless rfl (.inl rfl) ?_
  refine .unless rfl (.inl rfl) ?_
  exact trivial

theorem textAt_yields : Yields (Malformed true) (fun _ => True) (textAt frame pos) := by
  refine bytesAt_yields.bind fun (bytes, next) _ => ?_
  cases read : Text.decode? bytes with
  | some s =>
    simp only [read]
    exact trivial
  | none =>
    simp only [read]
    exact .inr ⟨rfl, .inr rfl⟩

/-! ## Members and items -/

theorem pointerAt_yields (head : Nat) :
    Yields (Malformed unbounded) (fun _ => True) (pointerAt head frame pos) := by
  refine numberAt_yields.bind fun pointer _ => ?_
  exact .unless rfl (.inl rfl) trivial

theorem checkPointers_yields (head count : Nat) :
    Yields (Malformed unbounded) (fun _ => True) (checkPointers head frame count pos) := by
  induction count generalizing pos with
  | zero => exact trivial
  | succ count ih => exact (pointerAt_yields head).bind fun _ _ => ih

/-- A reader that yields good values from any bytes. -/
def ReadsAny (unbounded : Bool) (good : Value → Prop) (read : Reader) : Prop :=
  ∀ frame pos, Yields (Malformed unbounded) (fun r => good r.1) (read frame pos)

variable {good : Value → Prop} {read : Reader}

theorem member_yields (isDynamic : Bool) (reads : ReadsAny unbounded good read) :
    ReadsAny unbounded good (member isDynamic read) := by
  intro frame pos
  cases isDynamic with
  | false => exact reads frame pos
  | true =>
    refine numberAt_yields.bind fun pointer _ => ?_
    exact (reads (frame.drop pointer) 0).bind fun (value, _) holds => holds

theorem many_yields (reads : ReadsAny unbounded good read) (frame : Bytes) (count pos : Nat) :
    Yields (Malformed unbounded) (fun r => ∀ v ∈ r.1, good v) (many read frame count pos) := by
  induction count generalizing pos with
  | zero => exact fun v among => nomatch among
  | succ count ih =>
    refine (reads frame pos).bind fun (value, next) holds => ?_
    refine (ih next).bind fun (values, _) all => ?_
    intro v among
    rcases List.mem_cons.mp among with rfl | among
    · exact holds
    · exact all v among

theorem items_yields (isDynamic : Bool) (reads : ReadsAny unbounded good read) (count : Nat) :
    Yields (Malformed unbounded) (fun r => ∀ v ∈ r.1, good v)
      (items isDynamic read count frame pos) := by
  have all := many_yields (member_yields isDynamic reads) frame count pos
  cases isDynamic with
  | false => exact all
  | true => exact (checkPointers_yields count count).bind fun _ _ => all

theorem counted_cons {t : AbiType} {rest : List AbiType}
    (all : AbiType.anyCounted (t :: rest) = true → unbounded = true) :
    (t.isCounted = true → unbounded = true) ∧
      (AbiType.anyCounted rest = true → unbounded = true) := by
  rw [AbiType.anyCounted, Bool.or_eq_true] at all
  exact ⟨fun here => all (.inl here), fun there => all (.inr there)⟩

/-! ## Values of any type -/

mutual

/-- **Any bytes are decoded to a value that has the form of the type**, or they are malformed; by
induction on the type. -/
theorem decode_yields : ∀ (type : AbiType) (frame : Bytes) (pos : Nat),
    (type.isCounted = true → unbounded = true) →
    Yields (Malformed unbounded) (fun r => type.Holds r.1) (type.decode frame pos)
  | .bytes, frame, pos, all => by
    obtain rfl := all rfl
    rw [AbiType.decode]
    exact bytesAt_yields.map fun _ _ _ same => nomatch same
  | .string, frame, pos, all => by
    obtain rfl := all rfl
    rw [AbiType.decode]
    exact textAt_yields.map fun _ _ _ same => nomatch same
  | .array item (some count), frame, pos, all => by
    rw [AbiType.decode]
    have reads := fun frame pos => decode_yields item frame pos all
    refine (items_yields item.isDynamic reads count).bind fun (values, next) holds => ?_
    exact ⟨values, rfl, holds⟩
  | .array item none, frame, pos, all => by
    rw [AbiType.decode]
    refine numberAt_yields.bind fun count _ => ?_
    have reads := fun frame pos => decode_yields item frame pos all
    refine (items_yields item.isDynamic reads count).bind fun (values, next) holds => ?_
    exact ⟨values, rfl, holds⟩
  | .tuple types, frame, pos, all => by
    rw [AbiType.decode]
    refine (checkMembers_yields (headSize types) types frame pos all).bind fun _ _ => ?_
    refine (decodeMembers_yields types frame pos all).bind fun (values, next) holds => ?_
    exact ⟨values, rfl, holds⟩
  | .uint _, frame, pos, _ | .int _, frame, pos, _ | .bool, frame, pos, _
  | .address, frame, pos, _ | .fixedBytes _, frame, pos, _ | .fixed _ _ _, frame, pos, _ => by
    exact decode_single_yields trivial

/-- Members are checked, or they are malformed. -/
theorem checkMembers_yields : ∀ (head : Nat) (types : List AbiType) (frame : Bytes) (pos : Nat),
    (AbiType.anyCounted types = true → unbounded = true) →
    Yields (Malformed unbounded) (fun _ => True) (AbiType.checkMembers head types frame pos)
  | _, [], _, _, _ => trivial
  | head, t :: rest, frame, pos, all => by
    obtain ⟨own, others⟩ := counted_cons all
    rw [AbiType.checkMembers]
    cases t.isDynamic with
    | true =>
      exact (pointerAt_yields head).bind fun _ _ =>
        checkMembers_yields head rest frame (pos + 32) others
    | false =>
      exact (decode_yields t frame pos own).bind fun (_, next) _ =>
        checkMembers_yields head rest frame next others

/-- Members are decoded, or they are malformed. -/
theorem decodeMembers_yields : ∀ (types : List AbiType) (frame : Bytes) (pos : Nat),
    (AbiType.anyCounted types = true → unbounded = true) →
    Yields (Malformed unbounded) (fun r => AbiType.HoldAll types r.1)
      (AbiType.decodeMembers types frame pos)
  | [], _, _, _ => trivial
  | t :: rest, frame, pos, all => by
    obtain ⟨own, others⟩ := counted_cons all
    rw [AbiType.decodeMembers]
    have reads := fun frame pos => decode_yields t frame pos own
    refine (member_yields t.isDynamic reads frame pos).bind fun (value, next) holds => ?_
    exact (decodeMembers_yields rest frame next others).bind fun (values, _) hold => ⟨holds, hold⟩

end

/-- **Any bytes are decoded to values that have the forms of the types, or they are malformed**: too
long or no text only if bytes of any number or texts are among the types. -/
theorem decodeAll_yields (types : List AbiType) (data : Bytes) :
    Yields (Malformed (AbiType.anyCounted types)) (AbiType.HoldAll types)
      (decodeAll types data) := by
  refine (checkMembers_yields (headSize types) types data 0 id).bind fun _ _ => ?_
  exact (decodeMembers_yields types data 0 id).bind fun (values, _) hold => hold

/-! ## What decoded values are meant as -/

variable {wording : Wording} {test : Bool → String → Bool}

/-- A fault of a description: a struct gets no name. -/
def Misnamed (test : Bool → String → Bool) (e : Failure) : Prop :=
  e = .invalidValue ∧ ∃ inArray name, test inArray name = false

theorem structOf_yields (gives : wording.Gives test) {name : String} {names : List String}
    {fields : List Param} {around : List (Option Nat)} {d : Json} {components : List Json}
    (described : (Param.struct name names fields).Described wording around d)
    (given : d.get? "components" = some (.arr components)) :
    Yields (Misnamed test) (fun r => r.1 = components) (structOf d) := by
  rw [structOf_described gives described given]
  by_cases passes : test (!around.isEmpty) name = true
  · rw [if_pos passes]
    exact rfl
  · rw [if_neg passes]
    exact ⟨rfl, _, _, Bool.eq_false_iff.mpr passes⟩

theorem Leaf.shapeAs_yields {l : Leaf} {v : Value} (d : Json) (holds : l.type.Holds v) :
    Yields (Misnamed test) (fun _ => True) (shapeAs d l.text v) := by
  cases l with
  | address =>
    obtain ⟨a, rfl⟩ := holds
    exact .of_ok (Leaf.shapeAs_raw (l := .address) (v := .address a) d trivial) trivial
  | uint _ | int _ | bool | fixedBytes _ | bytes | string =>
    exact .of_ok (shapeAs_single d rfl (by decide) holds) trivial

theorem shapeItems_yields {d : Json} {type : List Char} {values : List Value}
    (each : ∀ v ∈ values, Yields (Misnamed test) (fun _ => True) (shapeAs d type v)) :
    Yields (Misnamed test) (fun _ => True) (shapeItems d type values) := by
  induction values with
  | nil => exact trivial
  | cons v rest ih =>
    refine (each v List.mem_cons_self).bind fun _ _ => ?_
    exact (ih fun v among => each v (List.mem_cons_of_mem _ among)).bind fun _ _ => trivial

mutual

/-- Values that have the form of a parameter's type are what they are meant as, or a struct gets no
name. -/
theorem Param.shapeAs_yields (gives : wording.Gives test) : ∀ (p : Param)
    (around : List (Option Nat)) {d : Json} {v : Value}, p.Described wording around d →
    p.type.Holds v → Yields (Misnamed test) (fun _ => True) (shapeAs d p.text v)
  | .leaf l, _, d, _, _, holds => Leaf.shapeAs_yields d holds
  | .array item size, around, d, _, described, ⟨values, rfl, hold⟩ => by
    have each := shapeItems_yields fun v among =>
      Param.shapeAs_yields gives item (size :: around) described (hold v among)
    rw [Param.text, shapeAs, itemType?_text]
    exact each.map fun _ _ => trivial
  | .struct name names fields, around, d, _, described, ⟨values, rfl, hold⟩ => by
    have described' := described
    obtain ⟨_, _, components, given, _, all⟩ := described'
    have word : itemType? "tuple".toList = none := by decide
    rw [Param.text, shapeAs, word]
    refine (structOf_yields gives described given).bind
      fun (components', itsName, itsNames) same => ?_
    obtain rfl : components' = components := same
    exact (Param.shapeFields_yields gives fields all hold).bind fun _ _ => trivial

/-- The same of several values. -/
theorem Param.shapeFields_yields (gives : wording.Gives test) : ∀ (params : List Param)
    {descriptions : List Json} {values : List Value},
    Param.AllDescribed wording params descriptions → AbiType.HoldAll (Param.types params) values →
    Yields (Misnamed test) (fun _ => True) (shapeFields descriptions values)
  | [], [], [], _, _ => trivial
  | p :: params, d :: descriptions, v :: values, ⟨first, rest⟩, ⟨holds, hold⟩ => by
    have type := typeIn_described p [] first
    rw [dimensionTexts, List.flatMap_nil, List.append_nil] at type
    rw [shapeFields, type]
    refine (Param.shapeAs_yields gives p [] first holds).bind fun _ _ => ?_
    exact (Param.shapeFields_yields gives params rest hold).bind fun _ _ => trivial

end

/-- **From any bytes a function's value is decoded, or they are no encoding**, or else they are too
long or no text where bytes of any number are declared, or a struct gets no name. -/
theorem outputsOf_yields {function : Json} {params : List Param} (gives : wording.Gives test)
    (returns : Returns wording function params) (sized : Param.AreSized params) (data : Bytes) :
    Yields (fun e => Malformed (AbiType.anyCounted (Param.types params)) e ∨ Misnamed test e)
      (fun _ => True) (outputsOf function data) := by
  obtain ⟨outputs, given, described⟩ := returns
  rw [outputsOf_described given described sized]
  have decoded := decodeAll_yields (Param.types params) data
  refine Yields.bind (decoded.weaken fun _ => .inl) fun raws hold => ?_
  exact ((Param.shapeFields_yields gives params described hold).weaken fun _ => .inr).map
    fun _ _ => trivial

/-- A function whose outputs are described, by whatever words. -/
def IsDescribed (function : Json) : Prop :=
  ∃ wording test params, Wording.Gives wording test ∧ Returns wording function params ∧
    Param.AreSized params

/-- The faults of what a function that is described gave back. -/
theorem outputsOf_error {function : Json} {data : Bytes} {e : Failure}
    (described : IsDescribed function) (fails : outputsOf function data = .error e) :
    e.isUndecodable = true ∨ e = .tooLarge ∨ e = .badText ∨ e = .invalidValue := by
  obtain ⟨wording, test, params, gives, returns, sized⟩ := described
  have yields := outputsOf_yields gives returns sized data
  rw [fails] at yields
  rcases yields with (undecodable | ⟨_, large | text⟩) | ⟨invalid, _⟩
  · exact .inl undecodable
  · exact .inr (.inl large)
  · exact .inr (.inr (.inl text))
  · exact .inr (.inr (.inr invalid))

/-! ## Texts -/

section

variable {data target bytes : Bytes}

/-- A text alone is read where the pointer at the start leads. -/
theorem decodeAll_string (data : Bytes) :
    decodeAll [.string] data =
      pointerAt 1 data 0 >>= fun p => (textAt (data.drop p) 0).map fun r => [.text r.1] := by
  have one : headSize [.string] = 1 := rfl
  simp only [decodeAll, one, AbiType.checkMembers, AbiType.decodeMembers, AbiType.isDynamic, member,
    if_true, pointerAt, AbiType.decode]
  cases numberAt data 0 with
  | error e => rfl
  | ok p =>
    simp only [bind, Except.bind]
    -- the pointer is read twice, and is checked only the first time
    cases (decide (p < 32 * 1) || decide (data.length ≤ p)) with
    | true => rfl
    | false =>
      simp only [Bool.false_eq_true, if_false, pure, Except.pure]
      cases textAt (data.drop p) 0 <;> rfl

/-- Bytes that begin with a pointer to a part of them. What is in between does not count. -/
def PointsTo (data target : Bytes) : Prop :=
  ∃ gap : Bytes, 32 + gap.length < Nat.pow 256 32 ∧ target ≠ [] ∧
    data = Bytes.ofNat 32 (32 + gap.length) ++ (gap ++ target)

theorem PointsTo.start (filled : target ≠ []) : PointsTo (Bytes.ofNat 32 32 ++ target) target := by
  refine ⟨[], by decide, filled, ?_⟩
  rw [List.length_nil, Nat.add_zero, List.nil_append]

theorem PointsTo.decodeAll (points : PointsTo data target) :
    decodeAll [.string] data = (textAt target 0).map fun r => [.text r.1] := by
  obtain ⟨gap, near, filled, cut⟩ := points
  have pointer : numberAt data 0 = .ok (32 + gap.length) := by
    rw [cut]
    exact numberAt_start near
  have behind : data.drop (32 + gap.length) = target := by
    rw [cut, ← List.append_assoc]
    apply List.drop_left'
    rw [List.length_append, Bytes.length_ofNat]
  have inside : ¬data.length ≤ 32 + gap.length := by
    have positive := List.length_pos_iff.mpr filled
    rw [cut, List.length_append, List.length_append, Bytes.length_ofNat]
    omega
  have fine : pointerAt 1 data 0 = .ok (32 + gap.length) := by
    simp only [pointerAt, pointer, bind, Except.bind, inside, decide_false, Bool.or_false]
    rw [if_neg (by simp)]
    rfl
  rw [decodeAll_string, fine]
  show (textAt (data.drop (32 + gap.length)) 0).map _ = _
  rw [behind]

theorem counted_ne_nil (bytes back : Bytes) : counted bytes ++ back ≠ [] := by
  intro same
  have size := congrArg List.length same
  rw [List.length_append, length_counted, List.length_nil] at size
  omega

theorem textAt_noText (back : Bytes) (held : wholeWords bytes.length < Nat.pow 2 63)
    (noText : Text.decode? bytes = none) : textAt (counted bytes ++ back) 0 = .error .badText := by
  rw [textAt, bytesAt_start back held]
  simp only [bind, Except.bind, noText]
  rfl

/-- What should be the encoding of a text, and is one of bytes that are no text, is a fault of its
own. -/
theorem decodeAll_noText (short : (Bytes.ofNat 32 32 ++ counted data).length < Nat.pow 2 63)
    (noText : Text.decode? data = none) :
    decodeAll [.string] (Bytes.ofNat 32 32 ++ counted data) = .error .badText := by
  rw [List.length_append, length_counted] at short
  have whole : counted data = counted data ++ [] := (List.append_nil _).symm
  rw [whole, (PointsTo.start (counted_ne_nil data [])).decodeAll, textAt_noText [] _ noText]
  · rfl
  · omega

end

end Abi

end SolidityRepl
