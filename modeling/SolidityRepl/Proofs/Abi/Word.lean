import SolidityRepl.Proofs.Abi.Param
import SolidityRepl.Proofs.Bytes

/-!
# Words

A single value of fixed size fills a word, and is read from it as it was.
-/

namespace SolidityRepl.Abi

variable {front back word : Bytes}

/-! ## Places -/

theorem wordAt_word (full : word.length = 32) :
    wordAt (front ++ (word ++ back)) front.length = .ok word := by
  have taken : ((front ++ (word ++ back)).drop front.length).take 32 = word := by
    rw [List.drop_left, ← full, List.take_left]
  have enough : ¬ word.length < 32 := by omega
  simp only [wordAt, taken, if_neg enough]

theorem numberAt_word (front back : Bytes) {n : Nat} (small : n < Nat.pow 256 32) :
    numberAt (front ++ (Bytes.ofNat 32 n ++ back)) front.length = .ok n := by
  rw [numberAt, wordAt_word (Bytes.length_ofNat 32 n)]
  show Except.ok (Bytes.toNat (Bytes.ofNat 32 n)) = .ok n
  rw [Bytes.toNat_ofNat_of_lt small]

theorem numberAt_start {n : Nat} (small : n < Nat.pow 256 32) :
    numberAt (Bytes.ofNat 32 n ++ back) 0 = .ok n := by
  have number := numberAt_word [] back small
  rwa [List.nil_append, List.length_nil] at number

/-! ## Parts of a word -/

theorem areAll_replicate (b : UInt8) (n : Nat) : areAll b (List.replicate n b) = true := by
  simp [areAll]

theorem lowBytes_padded (size : Nat) (low : Bytes) :
    lowBytes size (List.replicate (32 - size) 0 ++ low) = .ok low := by
  have upper : (List.replicate (32 - size) (0 : UInt8)).length = 32 - size := List.length_replicate
  have taken : (List.replicate (32 - size) 0 ++ low).take (32 - size) =
      List.replicate (32 - size) 0 := List.take_left' upper
  have left : (List.replicate (32 - size) 0 ++ low).drop (32 - size) = low := List.drop_left' upper
  simp only [lowBytes, taken, left, areAll_replicate, if_true]

theorem highBytes_padded {size : Nat} (high : Bytes) (full : high.length = size) :
    highBytes size (high ++ List.replicate (32 - size) 0) = .ok high := by
  have taken : (high ++ List.replicate (32 - size) 0).take size = high := List.take_left' full
  have left : (high ++ List.replicate (32 - size) 0).drop size = List.replicate (32 - size) 0 :=
    List.drop_left' full
  simp only [highBytes, taken, left, areAll_replicate, if_true]

/-- A number of some lowest bytes of a word, with zeros above. -/
theorem lowBytes_ofNat {size n : Nat} (fits : size ≤ 32) (small : n < Nat.pow 256 size) :
    lowBytes size (Bytes.ofNat 32 n) = .ok (Bytes.ofNat size n) := by
  rw [Bytes.ofNat_padded fits small, lowBytes_padded]

theorem complement_of_nonneg {n : Int} (positive : 0 ≤ n) (high : n < Nat.pow 256 32) :
    complement n = n.toNat := by
  rw [complement, Int.emod_eq_of_lt positive high]

theorem complement_of_neg {n : Int} (negative : n < 0) (low : -Nat.pow 256 32 ≤ n) :
    (complement n : Int) = Nat.pow 256 32 + n := by
  have wrapped : n % Nat.pow 256 32 = Nat.pow 256 32 + n := by
    rw [← Int.add_emod_left]
    exact Int.emod_eq_of_lt (by omega) (by omega)
  rw [complement, wrapped]
  exact Int.toNat_of_nonneg (by omega)

/-- The sign repeated, and below it bytes that stand for a number of that sign. -/
theorem signedNumber_padded (size : Nat) {n : Int} {low : Bytes} (meant : signed low = n) :
    signedNumber size (List.replicate (32 - size) (if n < 0 then 255 else 0) ++ low) = .ok n := by
  have upper : (List.replicate (32 - size) (if n < 0 then (255 : UInt8) else 0)).length =
      32 - size := List.length_replicate
  simp only [signedNumber, List.take_left' upper, List.drop_left' upper, meant, areAll_replicate,
    if_true]

/-- The lowest bytes of a number in two's complement stand for the number, and the other bytes
repeat its sign. -/
theorem signedNumber_complement {size : Nat} {n : Int} (fits : size ≤ 32)
    (low : -(Nat.pow 256 size : Int) ≤ 2 * n) (high : 2 * n < Nat.pow 256 size) :
    signedNumber size (Bytes.ofNat 32 (complement n)) = .ok n := by
  have larger : Nat.pow 256 size ≤ Nat.pow 256 32 := Nat.pow_le_pow_right (by decide) fits
  by_cases negative : n < 0
  · -- the number lies below the largest, by less than the lower bytes can say
    have wrapped := complement_of_neg negative (by omega)
    obtain ⟨m, lowest⟩ : ∃ m : Nat, (m : Int) = Nat.pow 256 size + n :=
      ⟨_, Int.toNat_of_nonneg (by omega)⟩
    have split : complement n = Nat.pow 256 32 - Nat.pow 256 size + m := by omega
    have small : m < Nat.pow 256 size := by omega
    have rest : complement n % Nat.pow 256 size = m := by
      have whole : Nat.pow 256 size ∣ Nat.pow 256 32 - Nat.pow 256 size :=
        Nat.dvd_sub (Nat.pow_dvd_pow 256 fits) (Nat.dvd_refl _)
      obtain ⟨k, times⟩ := whole
      rw [split, times, Nat.mul_add_mod, Nat.mod_eq_of_lt small]
    have meant : signed (Bytes.ofNat size (complement n)) = n := by
      have upper : ¬ 2 * m < Nat.pow 256 size := by omega
      simp only [signed, Bytes.toNat_ofNat, Bytes.length_ofNat, rest, if_neg upper]
      omega
    have padded := signedNumber_padded size meant
    rw [if_pos negative] at padded
    rw [split] at padded ⊢
    rw [Bytes.ofNat_filled fits small]
    exact padded
  · have plain := complement_of_nonneg (n := n) (by omega) (by omega)
    have small : n.toNat < Nat.pow 256 size := by omega
    have meant : signed (Bytes.ofNat size n.toNat) = n := by
      have lower : 2 * n.toNat < Nat.pow 256 size := by omega
      simp only [signed, Bytes.toNat_ofNat_of_lt small, Bytes.length_ofNat, if_pos lower]
      omega
    have padded := signedNumber_padded size meant
    rw [if_neg negative] at padded
    rw [plain, Bytes.ofNat_padded fits small]
    exact padded

/-! ## Single values -/

/-- Bytes that are read as a value of a type, whatever follows them: a dynamic value at the start of
a frame of its own, any other in its place among other bytes. -/
structure Reads (type : AbiType) (bytes : Bytes) (value : Value) : Prop where
  long : 32 ≤ bytes.length
  words : 32 * headWords type ≤ bytes.length
  apart : type.isDynamic = true → ∀ back, ∃ next, type.decode (bytes ++ back) 0 = .ok (value, next)
  inPlace : type.isDynamic = false → ∀ front back,
    type.decode (front ++ (bytes ++ back)) front.length = .ok (value, front.length + bytes.length)

/-- A value of fixed size that fills a word. -/
theorem Reads.ofWord {type : AbiType} {value : Value} (static : type.isDynamic = false)
    (one : headWords type = 1)
    (decode : ∀ frame pos, type.decode frame pos = do
      let value ← leafOf type (← wordAt frame pos)
      return (value, pos + 32))
    (full : word.length = 32) (meant : leafOf type word = .ok value) : Reads type word value where
  long := by omega
  words := by omega
  apart dynamic := by
    rw [static] at dynamic
    cases dynamic
  inPlace _ front back := by
    rw [decode, wordAt_word full]
    show (leafOf type word >>= fun value => pure (value, front.length + 32)) = _
    rw [meant, full]
    rfl

theorem wholeWords_le (n : Nat) : n ≤ wholeWords n := by
  unfold wholeWords
  omega

theorem length_counted (data : Bytes) : (counted data).length = 32 + wholeWords data.length := by
  have long := wholeWords_le data.length
  simp only [counted, List.length_append, Bytes.length_ofNat, List.length_replicate]
  omega

/-- What can be held can be counted in a word. -/
theorem counts_in_word {n : Nat} (short : n < Nat.pow 2 63) : n < Nat.pow 256 32 := by
  have smaller : Nat.pow 2 63 < Nat.pow 256 32 := by decide
  omega

/-- Bytes of any number are read if so many can be held. -/
theorem bytesAt_counted (front back : Bytes) {data : Bytes}
    (short : wholeWords data.length < Nat.pow 2 63) :
    bytesAt (front ++ (counted data ++ back)) front.length =
      .ok (data, front.length + (counted data).length) := by
  have long := wholeWords_le data.length
  rw [length_counted]
  have padding :
      (data ++ List.replicate (wholeWords data.length - data.length) (0 : UInt8)).length =
        wholeWords data.length := by
    rw [List.length_append, List.length_replicate]
    omega
  have size : numberAt (front ++ (counted data ++ back)) front.length = .ok data.length := by
    rw [counted, List.append_assoc]
    exact numberAt_word _ _ (counts_in_word (by omega))
  have filled : ((front ++ (counted data ++ back)).drop (front.length + 32)).take
      (wholeWords data.length) =
        data ++ List.replicate (wholeWords data.length - data.length) 0 := by
    rw [counted, List.append_assoc, ← List.append_assoc front,
      List.drop_left' (by rw [List.length_append, Bytes.length_ofNat]), List.take_left' padding]
  have held : ¬ Nat.pow 2 63 ≤ wholeWords data.length := by omega
  simp only [bytesAt, size, bind, Except.bind, if_neg held, filled, padding, Nat.lt_irrefl,
    if_false, List.drop_left, areAll_replicate, List.take_left, Bool.not_true, Bool.false_eq_true]
  rw [Nat.add_assoc]
  rfl

theorem textAt_counted (front back : Bytes) {s : String}
    (short : wholeWords (Text.encode s).length < Nat.pow 2 63) :
    textAt (front ++ (counted (Text.encode s) ++ back)) front.length =
      .ok (s, front.length + (counted (Text.encode s)).length) := by
  rw [textAt, bytesAt_counted front back short]
  simp only [bind, Except.bind, Text.decode?_encode]
  rfl

theorem bytesAt_start (back : Bytes) {data : Bytes}
    (short : wholeWords data.length < Nat.pow 2 63) :
    bytesAt (counted data ++ back) 0 = .ok (data, (counted data).length) := by
  have read := bytesAt_counted [] back short
  rwa [List.nil_append, List.length_nil, Nat.zero_add] at read

theorem textAt_start (back : Bytes) {s : String}
    (short : wholeWords (Text.encode s).length < Nat.pow 2 63) :
    textAt (counted (Text.encode s) ++ back) 0 =
      .ok (s, (counted (Text.encode s)).length) := by
  have read := textAt_counted [] back short
  rwa [List.nil_append, List.length_nil, Nat.zero_add] at read

theorem width_bytes {bits : Nat} (width : IsWidth bits) : 1 ≤ bits / 8 ∧ bits / 8 ≤ 32 := by
  obtain ⟨whole, least, most⟩ := width
  omega

/-- A number of some bits is one of whole bytes. -/
theorem pow_width {bits : Nat} (width : IsWidth bits) :
    Nat.pow 2 bits = Nat.pow 256 (bits / 8) := by
  have bytes : bits = 8 * (bits / 8) := by
    obtain ⟨whole, -⟩ := width
    omega
  show 2 ^ bits = (2 ^ 8) ^ (bits / 8)
  rw [← Nat.pow_mul, ← bytes]

theorem leafOf_uint {bits : Nat} {n : Int} (width : IsWidth bits) (positive : 0 ≤ n)
    (high : n < Nat.pow 2 bits) : leafOf (.uint bits) (Bytes.ofNat 32 n.toNat) = .ok (.int n) := by
  have few := width_bytes width
  have small : n.toNat < Nat.pow 256 (bits / 8) := by
    rw [← pow_width width]
    omega
  rw [leafOf, lowBytes_ofNat few.2 small]
  show Except.ok (Value.int (Bytes.toNat (Bytes.ofNat (bits / 8) n.toNat))) = _
  rw [Bytes.toNat_ofNat_of_lt small, Int.toNat_of_nonneg positive]

theorem leafOf_int {bits : Nat} {n : Int} (width : IsWidth bits)
    (low : -Nat.pow 2 (bits - 1) ≤ n) (high : n < Nat.pow 2 (bits - 1)) :
    leafOf (.int bits) (Bytes.ofNat 32 (complement n)) = .ok (.int n) := by
  have few := width_bytes width
  have twice : Nat.pow 256 (bits / 8) = 2 * Nat.pow 2 (bits - 1) := by
    have least := width.2.1
    rw [← pow_width width]
    show 2 ^ bits = 2 * 2 ^ (bits - 1)
    rw [← Nat.pow_succ']
    congr 1
    omega
  rw [leafOf, signedNumber_complement few.2 (by omega) (by omega)]
  rfl

theorem leafOf_bool (b : Bool) : leafOf .bool (Bytes.ofNat 32 b.toNat) = .ok (.bool b) := by
  have small : b.toNat < Nat.pow 256 1 := by cases b <;> decide
  rw [leafOf, truth, lowBytes_ofNat (by decide) small]
  cases b <;> rfl

theorem leafOf_address (a : Address) :
    leafOf .address (List.replicate 12 0 ++ a.bytes) = .ok (Value.address a).raw := by
  rw [leafOf, show 12 = 32 - 20 from rfl, lowBytes_padded]
  rfl

theorem leafOf_fixedBytes {size : Nat} {data : Bytes} (full : data.length = size) :
    leafOf (.fixedBytes size) (data ++ List.replicate (32 - size) 0) = .ok (.bytes data) := by
  rw [leafOf, highBytes_padded data full]
  rfl

/-- Bytes of any number, or a text, are read from a frame that they begin. -/
theorem Reads.ofCounted {type : AbiType} {value : Value} {data : Bytes}
    (dynamic : type.isDynamic = true) (one : headWords type = 1)
    (decode : ∀ back, type.decode (counted data ++ back) 0 = .ok (value, (counted data).length)) :
    Reads type (counted data) value where
  long := by
    rw [length_counted]
    omega
  words := by
    rw [length_counted]
    omega
  apart _ back := ⟨_, decode back⟩
  inPlace static := by
    rw [dynamic] at static
    cases static

theorem reads_bytes {data : Bytes} (short : (counted data).length < Nat.pow 2 63) :
    Reads .bytes (counted data) (.bytes data) := by
  refine .ofCounted rfl rfl fun back => ?_
  rw [length_counted] at short
  simp only [AbiType.decode, bytesAt_start back (Nat.lt_of_add_left_lt short), Except.map]

theorem reads_string {s : String} (short : (counted (Text.encode s)).length < Nat.pow 2 63) :
    Reads .string (counted (Text.encode s)) (.text s) := by
  refine .ofCounted rfl rfl fun back => ?_
  rw [length_counted] at short
  simp only [AbiType.decode, textAt_start back (Nat.lt_of_add_left_lt short), Except.map]

/-- **A single value that was encoded is read as it was.** -/
theorem Leaf.reads {l : Leaf} {v : Value} (sized : l.IsSized) (fits : l.Fits v)
    (short : (l.encode v).length < Nat.pow 2 63) : Reads l.type (l.encode v) v.raw := by
  cases l with
  | uint bits =>
    cases v with
    | int n =>
      exact .ofWord rfl rfl (fun _ _ => by simp only [Leaf.type, AbiType.decode])
        (Bytes.length_ofNat 32 _) (leafOf_uint sized fits.1 fits.2)
    | _ => exact fits.elim
  | int bits =>
    cases v with
    | int n =>
      exact .ofWord rfl rfl (fun _ _ => by simp only [Leaf.type, AbiType.decode])
        (Bytes.length_ofNat 32 _) (leafOf_int sized fits.1 fits.2)
    | _ => exact fits.elim
  | bool =>
    cases v with
    | bool b =>
      exact .ofWord rfl rfl (fun _ _ => by simp only [Leaf.type, AbiType.decode])
        (Bytes.length_ofNat 32 _) (leafOf_bool b)
    | _ => exact fits.elim
  | address =>
    cases v with
    | address a =>
      have full : (List.replicate 12 (0 : UInt8) ++ a.bytes).length = 32 := by
        rw [List.length_append, List.length_replicate, a.size]
      exact .ofWord rfl rfl (fun _ _ => by simp only [Leaf.type, AbiType.decode]) full
        (leafOf_address a)
    | _ => exact fits.elim
  | fixedBytes size =>
    cases v with
    | bytes data =>
      have exact' : data.length = size := fits
      have full : (data ++ List.replicate (32 - size) (0 : UInt8)).length = 32 := by
        have most := sized.2
        rw [List.length_append, List.length_replicate, exact']
        omega
      exact .ofWord rfl rfl (fun _ _ => by simp only [Leaf.type, AbiType.decode]) full
        (leafOf_fixedBytes exact')
    | _ => exact fits.elim
  | bytes =>
    cases v with
    | bytes data => exact reads_bytes short
    | _ => exact fits.elim
  | string =>
    cases v with
    | text s => exact reads_string short
    | _ => exact fits.elim

end SolidityRepl.Abi
