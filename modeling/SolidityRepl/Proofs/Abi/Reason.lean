import SolidityRepl.Proofs.Abi.Revert

/-!
# Which bytes give a reason

Bytes of an error with a text begin with a pointer to where the text stands, with its number of
bytes in front of it and filled up with zeros behind it. What stands between the pointer and that
place does not count, and neither does what is left over. Bytes that are no encoding have no reason;
but where the bytes of the text are those of no text, or are said to be too many, there is a fault
instead.
-/

namespace SolidityRepl.Abi

variable {frame data target word : Bytes} {n : Nat}

/-! ## Words -/

theorem wordAt_start_iff :
    wordAt frame 0 = .ok word ↔ word.length = 32 ∧ ∃ back, frame = word ++ back := by
  constructor
  · intro read
    simp only [wordAt, List.drop_zero] at read
    by_cases few : (frame.take 32).length < 32
    · rw [if_pos few] at read
      cases read
    · rw [if_neg few] at read
      cases read
      have most := List.length_take_le 32 frame
      exact ⟨by omega, frame.drop 32, (List.take_append_drop 32 frame).symm⟩
  · rintro ⟨full, back, rfl⟩
    show wordAt ([] ++ (word ++ back)) ([] : Bytes).length = .ok word
    exact wordAt_word full

theorem numberAt_start_iff :
    numberAt frame 0 = .ok n ↔ n < Nat.pow 256 32 ∧ ∃ back, frame = Bytes.ofNat 32 n ++ back := by
  constructor
  · intro read
    cases first : wordAt frame 0 with
    | error e =>
      rw [numberAt, first] at read
      cases read
    | ok word =>
      rw [numberAt, first] at read
      cases read
      obtain ⟨full, back, rfl⟩ := wordAt_start_iff.mp first
      have small := Bytes.toNat_lt word
      have same := Bytes.ofNat_toNat word
      rw [full] at small same
      exact ⟨small, back, by rw [same]⟩
  · rintro ⟨small, back, cut⟩
    rw [cut]
    exact numberAt_start small

theorem numberAt_cases (frame : Bytes) :
    (∃ n back, n < Nat.pow 256 32 ∧ frame = Bytes.ofNat 32 n ++ back) ∨
      ∃ e, e.isUndecodable = true ∧ numberAt frame 0 = .error e := by
  cases read : numberAt frame 0 with
  | ok n =>
    obtain ⟨small, back, cut⟩ := numberAt_start_iff.mp read
    exact .inl ⟨n, back, small, cut⟩
  | error e =>
    have yields : Yields (Malformed false) (fun _ => True) (numberAt frame 0) := numberAt_yields
    rw [read] at yields
    obtain undecodable | ⟨never, -⟩ := yields
    · exact .inr ⟨e, undecodable, rfl⟩
    · cases never

/-! ## Bytes of any number -/

theorem areAll_iff {b : UInt8} {bytes : Bytes} :
    areAll b bytes = true ↔ bytes = List.replicate bytes.length b := by
  rw [areAll, List.all_eq_true, List.eq_replicate_iff]
  simp

/-- A number of bytes that cannot be held. -/
theorem bytesAt_large (small : n < Nat.pow 256 32) (large : Nat.pow 2 63 ≤ wholeWords n)
    (back : Bytes) : bytesAt (Bytes.ofNat 32 n ++ back) 0 = .error .tooLarge := by
  simp only [bytesAt, numberAt_start small, bind, Except.bind, if_pos large]
  rfl

/-- **Bytes of any number are read where they stand, or there are too many, or they are no
encoding.** -/
theorem bytesAt_cases (frame : Bytes) :
    (∃ bytes back, wholeWords bytes.length < Nat.pow 2 63 ∧ frame = counted bytes ++ back) ∨
    (∃ n back, n < Nat.pow 256 32 ∧ Nat.pow 2 63 ≤ wholeWords n ∧
      frame = Bytes.ofNat 32 n ++ back) ∨
    ∃ e, e.isUndecodable = true ∧ bytesAt frame 0 = .error e := by
  obtain ⟨n, back, small, cut⟩ | ⟨e, undecodable, unread⟩ := numberAt_cases frame
  · rw [cut]
    by_cases large : Nat.pow 2 63 ≤ wholeWords n
    · exact .inr (.inl ⟨n, back, small, large, rfl⟩)
    have behind : (Bytes.ofNat 32 n ++ back).drop (0 + 32) = back :=
      List.drop_left' (Bytes.length_ofNat 32 n)
    by_cases few : (back.take (wholeWords n)).length < wholeWords n
    · refine .inr (.inr ⟨.tooFewBytes, rfl, ?_⟩)
      simp only [bytesAt, numberAt_start small, bind, Except.bind, if_neg large, behind, if_pos few]
      rfl
    by_cases padded : areAll 0 ((back.take (wholeWords n)).drop n) = true
    · left
      have long := wholeWords_le n
      rw [List.length_take] at few
      have size : ((back.take (wholeWords n)).take n).length = n := by
        rw [List.length_take, List.length_take]
        omega
      refine ⟨(back.take (wholeWords n)).take n, back.drop (wholeWords n), ?_, ?_⟩
      · rw [size]
        exact Nat.not_le.mp large
      · have zeros := areAll_iff.mp padded
        rw [List.length_drop, List.length_take, Nat.min_eq_left (by omega)] at zeros
        rw [counted, size, ← zeros, List.take_append_drop, List.append_assoc,
          List.take_append_drop]
    · refine .inr (.inr ⟨.nonZeroPadding, rfl, ?_⟩)
      rw [Bool.not_eq_true] at padded
      simp only [bytesAt, numberAt_start small, bind, Except.bind, if_neg large, behind,
        if_neg few, padded, Bool.not_false, if_true]
      rfl
  · refine .inr (.inr ⟨e, undecodable, ?_⟩)
    simp only [bytesAt, unread, bind, Except.bind]

/-! ## A text alone -/

/-- Where a pointer leads in bytes, unless they have none. -/
theorem pointsTo_cases (data : Bytes) :
    (∃ target, PointsTo data target) ∨
      ∃ e, e.isUndecodable = true ∧ decodeAll [.string] data = .error e := by
  rw [decodeAll_string, pointerAt]
  obtain ⟨n, back, small, cut⟩ | ⟨e, undecodable, unread⟩ := numberAt_cases data
  · by_cases astray : n < 32 * 1 ∨ data.length ≤ n
    · refine .inr ⟨.badPointer, rfl, ?_⟩
      have stops : (decide (n < 32 * 1) || decide (data.length ≤ n)) = true := by simpa using astray
      rw [cut, numberAt_start small, ← cut]
      simp only [bind, Except.bind, stops, if_true]
      rfl
    · left
      obtain ⟨behind, inside⟩ : 32 ≤ n ∧ n < data.length := by omega
      rw [cut, List.length_append, Bytes.length_ofNat] at inside
      have gap : (back.take (n - 32)).length = n - 32 := by
        rw [List.length_take]
        omega
      refine ⟨back.drop (n - 32), back.take (n - 32), ?_, ?_, ?_⟩
      · omega
      · rw [List.ne_nil_iff_length_pos, List.length_drop]
        omega
      · rw [cut, gap, List.take_append_drop, Nat.add_sub_cancel' behind]
  · refine .inr ⟨e, undecodable, ?_⟩
    rw [unread]
    rfl

/-- **A text is read where it stands, or it is none, or too long, or no encoding.** -/
theorem textAt_cases (frame : Bytes) :
    (∃ s back, wholeWords (Text.encode s).length < Nat.pow 2 63 ∧
      frame = counted (Text.encode s) ++ back) ∨
    (∃ bytes back, wholeWords bytes.length < Nat.pow 2 63 ∧ Text.decode? bytes = none ∧
      frame = counted bytes ++ back) ∨
    (∃ n back, n < Nat.pow 256 32 ∧ Nat.pow 2 63 ≤ wholeWords n ∧
      frame = Bytes.ofNat 32 n ++ back) ∨
    ∃ e, e.isUndecodable = true ∧ textAt frame 0 = .error e := by
  obtain ⟨bytes, back, held, cut⟩ | large | ⟨e, undecodable, unread⟩ := bytesAt_cases frame
  · cases text : Text.decode? bytes with
    | none => exact .inr (.inl ⟨bytes, back, held, text, cut⟩)
    | some s =>
      obtain rfl := Text.encode_of_decode? text
      exact .inl ⟨s, back, held, cut⟩
  · exact .inr (.inr (.inl large))
  · refine .inr (.inr (.inr ⟨e, undecodable, ?_⟩))
    rw [textAt, unread]
    rfl

/-! ## The number of a panic -/

theorem decodeAll_uint (data : Bytes) :
    decodeAll [.uint 256] data = (numberAt data 0).map fun n => [.int n] := by
  have whole : ∀ word, leafOf (.uint 256) word = .ok (.int (Bytes.toNat word)) := fun _ => rfl
  simp only [decodeAll, AbiType.checkMembers, AbiType.decodeMembers, AbiType.isDynamic, member,
    AbiType.decode, whole, numberAt]
  cases wordAt data 0 <;> rfl

/-! ## Reasons of any bytes -/

/-- What bytes say: a reason, or a text that makes a fault. -/
inductive Says : Bytes → Except Failure String → Prop
  /-- A text, wherever it stands. -/
  | text {data back : Bytes} {s : String} (points : PointsTo data (counted (Text.encode s) ++ back))
    (held : wholeWords (Text.encode s).length < Nat.pow 2 63) : Says (errorSelector ++ data) (.ok s)
  /-- Bytes that are no text. -/
  | noText {data bytes back : Bytes} (points : PointsTo data (counted bytes ++ back))
    (held : wholeWords bytes.length < Nat.pow 2 63) (isNone : ∀ s, Text.encode s ≠ bytes) :
    Says (errorSelector ++ data) (.error .badText)
  /-- More bytes than can be held, whether they follow or not. -/
  | tooLong {data back : Bytes} {n : Nat} (points : PointsTo data (Bytes.ofNat 32 n ++ back))
    (small : n < Nat.pow 256 32) (large : Nat.pow 2 63 ≤ wholeWords n) :
    Says (errorSelector ++ data) (.error .tooLarge)
  /-- The number of a panic. -/
  | panic {n : Nat} (small : n < Nat.pow 2 256) (back : Bytes) :
    Says (panicSelector ++ (Bytes.ofNat 32 n ++ back))
      (.ok ("Panic(0x" ++ String.ofList (Nat.toDigits 16 n) ++ ")"))

theorem decode?_eq_none {bytes : Bytes} (isNone : ∀ s, Text.encode s ≠ bytes) :
    Text.decode? bytes = none := by
  cases text : Text.decode? bytes with
  | none => rfl
  | some s => exact absurd (Text.encode_of_decode? text) (isNone s)

theorem pow_word : Nat.pow 2 256 = Nat.pow 256 32 := by decide

theorem revertReason_errorSelector (data : Bytes) :
    revertReason (errorSelector ++ data) = unlessUndecodable (errorText data) :=
  revertReason_text rfl

theorem revertReason_panicSelector (data : Bytes) :
    revertReason (panicSelector ++ data) = unlessUndecodable (panicText data) :=
  revertReason_panic rfl

/-- What bytes say is what is answered. -/
theorem Says.answered {r : Except Failure String} (said : Says data r) :
    revertReason data = r.map some := by
  cases said with
  | @text data back s points held =>
    rw [revertReason_errorSelector, errorText, points.decodeAll, textAt_start back held]
    rfl
  | @noText data bytes back points held isNone =>
    have noText := decode?_eq_none isNone
    rw [revertReason_errorSelector, errorText, points.decodeAll, textAt_noText back held noText]
    rfl
  | @tooLong data back n points small large =>
    rw [revertReason_errorSelector, errorText, points.decodeAll, textAt,
      bytesAt_large small large]
    rfl
  | @panic n small back =>
    rw [pow_word] at small
    rw [revertReason_panicSelector, panicText, decodeAll_uint, numberAt_start small]
    rfl

theorem revertReason_undecodable {e : Failure} (undecodable : e.isUndecodable = true)
    (unread : decodeAll [.string] data = .error e) :
    revertReason (errorSelector ++ data) = .ok none := by
  rw [revertReason_errorSelector, errorText_error.mpr unread, unlessUndecodable, if_pos undecodable]

theorem says_or_none_text (data : Bytes) :
    (∃ r, Says (errorSelector ++ data) r) ∨ revertReason (errorSelector ++ data) = .ok none := by
  obtain ⟨target, points⟩ | ⟨e, undecodable, unread⟩ := pointsTo_cases data
  · obtain ⟨s, back, held, cut⟩ | ⟨bytes, back, held, noText, cut⟩ |
      ⟨n, back, small, large, cut⟩ | ⟨e, undecodable, unread⟩ := textAt_cases target
    · rw [cut] at points
      exact .inl ⟨_, .text points held⟩
    · rw [cut] at points
      refine .inl ⟨_, .noText points held fun s same => ?_⟩
      rw [← same, Text.decode?_encode] at noText
      cases noText
    · rw [cut] at points
      exact .inl ⟨_, .tooLong points small large⟩
    · refine .inr (revertReason_undecodable undecodable ?_)
      rw [points.decodeAll, unread]
      rfl
  · exact .inr (revertReason_undecodable undecodable unread)

theorem says_or_none_panic (data : Bytes) :
    (∃ r, Says (panicSelector ++ data) r) ∨ revertReason (panicSelector ++ data) = .ok none := by
  obtain ⟨n, back, small, cut⟩ | ⟨e, undecodable, unread⟩ := numberAt_cases data
  · rw [← pow_word] at small
    rw [cut]
    exact .inl ⟨_, .panic small back⟩
  · right
    rw [revertReason_panicSelector, panicText, decodeAll_uint, unread]
    show unlessUndecodable (.error e) = _
    rw [unlessUndecodable, if_pos undecodable]

/-- Bytes say something, or they have no reason. -/
theorem says_or_none (data : Bytes) : (∃ r, Says data r) ∨ revertReason data = .ok none := by
  by_cases error : data.take 4 = errorSelector
  · rw [← List.take_append_drop 4 data, error]
    exact says_or_none_text (data.drop 4)
  by_cases panic : data.take 4 = panicSelector
  · rw [← List.take_append_drop 4 data, panic]
    exact says_or_none_panic (data.drop 4)
  · exact .inr (revertReason_other error panic)

theorem revertReason_eq_none :
    revertReason data = .ok none ↔ ∀ r, ¬Says data r := by
  constructor
  · intro silent r said
    have answered := said.answered
    rw [silent] at answered
    cases r <;> cases answered
  · intro silent
    obtain ⟨r, said⟩ | silent := says_or_none data
    · exact absurd said (silent r)
    · exact silent

-- a pointer to nothing
example : revertReason (errorSelector ++ Bytes.ofNat 32 64) = .ok none := by cbv

theorem revertReason_eq_map {r : Except Failure String} :
    revertReason data = r.map some ↔ Says data r := by
  constructor
  · intro answered
    obtain ⟨r', said⟩ | silent := says_or_none data
    · have answered' := said.answered
      rw [answered] at answered'
      cases r <;> cases r' <;> cases answered' <;> exact said
    · rw [silent] at answered
      cases r <;> cases answered
  · exact Says.answered

theorem Payload.bytes_text (s : String) :
    (text s).bytes = errorSelector ++ (Bytes.ofNat 32 32 ++ (counted (Text.encode s) ++ [])) := by
  simp only [bytes, selector, leaf, value, encodeAll, Param.parts, Param.type, Param.encode,
    Leaf.type, AbiType.isDynamic, Leaf.encode, Part.layout, Part.headLength, Part.heads, Part.tails,
    if_true, Nat.add_zero, List.append_nil]

theorem Payload.bytes_panic (n : Nat) :
    (panic n).bytes = panicSelector ++ (Bytes.ofNat 32 n ++ []) := by
  simp only [bytes, selector, leaf, value, encodeAll, Param.parts, Param.type, Param.encode,
    Leaf.type, AbiType.isDynamic, Leaf.encode, Part.layout, Part.heads, Part.tails,
    Bool.false_eq_true, if_false, Int.toNat_natCast, List.append_nil]

/-- **A reason is given of exactly the bytes that say one**: of a text that was encoded the text
itself, and of a panic its number. Bytes of any other kind have none, but for those of a text that
is none or is too long, which are a fault. -/
theorem revertReason_says (data : Bytes) :
    (∀ s, revertReason data = .ok (some s) ↔ Says data (.ok s)) ∧
    (∀ e, revertReason data = .error e ↔ Says data (.error e)) ∧
    (revertReason data = .ok none ↔ ∀ r, ¬Says data r) ∧
    (data.take 4 ≠ errorSelector → data.take 4 ≠ panicSelector → revertReason data = .ok none) ∧
    (∀ s, wholeWords (Text.encode s).length < Nat.pow 2 63 → data = (Payload.text s).bytes →
      revertReason data = .ok (some s)) ∧
    ∀ n : Nat, n < Nat.pow 2 256 → data = (Payload.panic n).bytes → revertReason data =
      .ok (some ("Panic(0x" ++ String.ofList (Nat.toDigits 16 n) ++ ")")) := by
  refine ⟨fun s => ?_, fun e => ?_, revertReason_eq_none, revertReason_other, ?_, ?_⟩
  · exact revertReason_eq_map (r := .ok s)
  · exact revertReason_eq_map (r := .error e)
  · rintro s held rfl
    rw [Payload.bytes_text]
    exact revertReason_eq_map.mpr (.text (.start (counted_ne_nil _ [])) held)
  · rintro n small rfl
    rw [Payload.bytes_panic]
    exact revertReason_eq_map.mpr (.panic small [])

/-- A text of two letters and a division by zero are told, and no bytes at all say nothing. -/
theorem revertReason_says_division :
    revertReason (Payload.text "no").bytes = .ok (some "no") ∧
      revertReason (Payload.panic 18).bytes = .ok (some "Panic(0x12)") ∧
      revertReason [] = .ok none := by
  obtain ⟨-, -, -, -, text, -⟩ := revertReason_says (Payload.text "no").bytes
  obtain ⟨-, -, -, -, -, panic⟩ := revertReason_says (Payload.panic 18).bytes
  obtain ⟨-, -, -, other, -, -⟩ := revertReason_says []
  exact ⟨text "no" (by decide) rfl, panic 18 (by decide) rfl, other (by decide) (by decide)⟩

/-- **A text of the one byte that is in no text is a fault, and so is one of more bytes than can be
held**, of which there is none behind its length. -/
theorem revertReason_noText :
    revertReason (errorSelector ++ (Bytes.ofNat 32 32 ++ counted [255])) = .error .badText ∧
      revertReason (errorSelector ++ (Bytes.ofNat 32 32 ++ Bytes.ofNat 32 (Nat.pow 2 63))) =
        .error .tooLarge := by
  have isNone : ∀ s, Text.encode s ≠ [255] := by
    intro s same
    have read := Text.decode?_encode s
    rw [same] at read
    cases read
  have start (target : Bytes) (filled : target ≠ []) :
      PointsTo (Bytes.ofNat 32 32 ++ target) (target ++ []) := by
    rw [List.append_nil]
    exact .start filled
  constructor
  · exact Says.answered (.noText (start _ (by decide)) (by decide) isNone)
  · exact Says.answered (.tooLong (n := Nat.pow 2 63) (start _ (by decide)) (by decide) (by decide))

end SolidityRepl.Abi
