import SolidityRepl.Proofs.Json.Spelling
import SolidityRepl.Proofs.Store
import SolidityRepl.Compiler.Basic
import SolidityRepl.Version.Parser

/-!
# What outputs are stored under

The key of an output is a version with an input behind it, and nothing between them. No version has
the brace in it that an input begins with, so the key tells where the input begins; and the name of
its file tells the key, as long as no two keys have the same hash.
-/

namespace SolidityRepl

namespace Version

def IsRead (v : Version) : Prop := ∃ cs, ofChars? cs = some v

def Braceless (s : String) : Prop := ∀ c ∈ s.toList, c ≠ '\x7b'

instance (s : String) : Decidable (Braceless s) :=
  List.decidableBAll (fun c => c ≠ '\x7b') s.toList

theorem Braceless.append {s t : String} (first : Braceless s) (second : Braceless t) :
    Braceless (s ++ t) := fun c among => by
  rw [String.toList_append] at among
  obtain among | among := List.mem_append.mp among
  · exact first c among
  · exact second c among

theorem braceless_pointed {texts : List String} (all : ∀ s ∈ texts, Braceless s) :
    Braceless (".".intercalate texts) := by
  induction texts with
  | nil => decide
  | cons first texts ih =>
    obtain ⟨head, rest⟩ := List.forall_mem_cons.mp all
    cases texts with
    | nil =>
      rw [String.intercalate_singleton]
      exact head
    | cons second texts =>
      rw [String.intercalate_cons_cons]
      exact (head.append (by decide)).append (ih rest)

theorem braceless_toString (n : Nat) : Braceless (toString n) := fun c among => by
  rintro rfl
  exact absurd (Json.isDigit_toString among) (by decide)

/-- A local part that was read has no brace in it. -/
theorem braceless_vendor {cs : List Char} {vendor : List Segment}
    (read : vendor? cs = some vendor) : ∀ segment ∈ vendor, Braceless segment.shown := by
  rw [vendor?] at read
  split at read
  · rename_i pieces
    cases read
    intro segment among
    obtain ⟨piece, inside, rfl⟩ := List.mem_map.mp among
    have fine := (Bool.and_eq_true_iff.mp (List.all_eq_true.mp pieces piece inside)).2
    rw [segmentOf]
    split
    · exact braceless_toString _
    · rintro c within rfl
      rw [Segment.shown, String.toList_ofList] at within
      exact absurd (List.all_eq_true.mp fine _ within) (by decide)
  · cases read

theorem vendor_of_core? {cs rest : List Char} {v : Version} (read : core? cs = some (v, rest)) :
    v.vendor = [] := by
  simp only [core?, Option.bind_eq_bind, Option.bind_eq_some_iff] at read
  obtain ⟨⟨release, behind⟩, -, read⟩ := read
  cases read
  rfl

theorem braceless_of_isRead {v : Version} (read : v.IsRead) :
    ∀ segment ∈ v.vendor, Braceless segment.shown := by
  obtain ⟨cs, read⟩ := read
  rw [ofChars?] at read
  obtain ⟨⟨bare, rest⟩, core, read⟩ := Option.bind_eq_some_iff.mp read
  dsimp only at read
  split at read
  · cases read
    rw [vendor_of_core? core]
    exact fun segment among => nomatch among
  · obtain ⟨vendor, known, rfl⟩ := Option.map_eq_some_iff.mp read
    exact braceless_vendor known
  · cases read

/-- **A version is written without an opening brace.** -/
theorem braceless_shown {v : Version} (read : v.IsRead) : Braceless v.shown := by
  have mark : ∀ (mark : String) (n : Nat), Braceless mark → Braceless (mark ++ toString n) :=
    fun mark n plain => plain.append (braceless_toString n)
  rw [shown]
  refine .append (.append (.append (.append (.append ?_ ?_) ?_) ?_) ?_) ?_
  · split
    · decide
    · exact (braceless_toString v.epoch).append (by decide)
  · refine braceless_pointed fun s among => ?_
    obtain ⟨n, -, rfl⟩ := List.mem_map.mp among
    exact braceless_toString n
  · split
    · rename_i stage n _
      exact mark stage.label n (by cases stage <;> decide)
    · decide
  · split
    · exact mark ".post" _ (by decide)
    · decide
  · split
    · exact mark ".dev" _ (by decide)
    · decide
  · split
    · decide
    · refine .append (by decide) (braceless_pointed fun s among => ?_)
      obtain ⟨segment, inside, rfl⟩ := List.mem_map.mp among
      exact braceless_of_isRead read segment inside

/-- Where the first brace is, a braceless text ends. -/
theorem splits_at_brace {s t : String} {rest rest' : List Char} (plain : Braceless s)
    (plain' : Braceless t) (same : s.toList ++ '\x7b' :: rest = t.toList ++ '\x7b' :: rest') :
    s.toList = t.toList ∧ rest = rest' := by
  have front : ∀ (s : String) (rest : List Char), Braceless s →
      (s.toList ++ '\x7b' :: rest).takeWhile (· != '\x7b') = s.toList := fun s rest plain => by
    rw [List.takeWhile_append_of_pos fun c among => bne_iff_ne.mpr (plain c among)]
    simp
  have fronts := congrArg (List.takeWhile (· != '\x7b')) same
  rw [front s rest plain, front t rest' plain'] at fronts
  rw [fronts] at same
  exact ⟨fronts, (List.cons.inj (List.append_cancel_left same)).2⟩

end Version

namespace Compiler

/-- The key of what the compilers of a version say about an input. -/
def key (v : Version) (input : Json) : String := keyOf { version := v, store := .null } input

/-- Inputs are objects. -/
theorem render_inputOf (sources : Keyed Json) (machine : Json) :
    ∃ rest, (inputOf sources machine).sorted.render.toList = '{' :: rest := by
  rw [inputOf.eq_def, Json.sorted, Json.render, Json.renderChars, String.toList_ofList]
  exact ⟨_, rfl⟩

/-- **A key tells how its version is written, and its input up to the order of fields.** -/
theorem key_inj {v w : Version} {sources sources' : Keyed Json} {machine machine' : Json}
    (read : v.IsRead) (read' : w.IsRead)
    (same : key v (inputOf sources machine) = key w (inputOf sources' machine')) :
    v.shown = w.shown ∧
      (inputOf sources machine).sorted.Alike (inputOf sources' machine').sorted := by
  obtain ⟨rest, first⟩ := render_inputOf sources machine
  obtain ⟨rest', first'⟩ := render_inputOf sources' machine'
  have chars : v.shown.toList ++ '{' :: rest = w.shown.toList ++ '{' :: rest' := by
    rw [← first, ← first', ← String.toList_append, ← String.toList_append]
    exact congrArg String.toList same
  obtain ⟨versions, inputs⟩ := Version.splits_at_brace (Version.braceless_shown read)
    (Version.braceless_shown read') chars
  refine ⟨String.toList_inj.mp versions, Json.alike_of_render (String.toList_inj.mp ?_)⟩
  rw [first, first', inputs]

/-- What the name of a file is the hash of. -/
def preimage (v : Version) (input : Json) : Bytes := Text.encode (salt ++ key v input)

/-- Versions and inputs no two of which have the same hash, unless they have the same key. -/
def Apart (Used : Version → Json → Prop) : Prop :=
  ∀ v w i j, Used v i → Used w j →
    Hash.sha256 (preimage v i) = Hash.sha256 (preimage w j) → preimage v i = preimage w j

/-- The name of a file tells the hash that it is made of. -/
theorem hash_of_fileName {store : Store} {k l : String}
    (same : store.fileName k = store.fileName l) :
    Hash.sha256 (Text.encode (store.salt ++ k)) = Hash.sha256 (Text.encode (store.salt ++ l)) := by
  have digits : Bytes.hex (Hash.sha256 (Text.encode (store.salt ++ k))) =
      Bytes.hex (Hash.sha256 (Text.encode (store.salt ++ l))) :=
    (String.append_left_inj _).mp same
  have back := congrArg Bytes.ofHex? digits
  rw [Bytes.ofHex?_hex, Bytes.ofHex?_hex] at back
  exact Option.some.inj back

end Compiler

end SolidityRepl
