import SolidityRepl.Proofs.Act
import SolidityRepl.Proofs.World.Making
import SolidityRepl.Store

/-!
# What stores keep

A look-up sweeps the store if it is time to, makes its folder, and looks at the file of its key.
None of this adds a file; only a value that was made is put into one. Files elsewhere stay as they
are.

* `Store.tidied`, `Store.looked`: the world after the sweep, and when the file is looked at;
* `Store.IsWritable`: a world in which a look-up can do all this;
* `Store.lookUp_run`: what a look-up does;
* `Store.Beside`, `Store.Tended`: what the work of a store leaves alone;
* `Store.Keeps`: a store all of whose files are as they should be;
* `Store.prepare_of_isPassable`, `Store.keep_of_place`, `Store.isWritable_of_clear`: stores whose
  folder no file stands in the way to.
-/

namespace SolidityRepl.Store

open Folder

variable {O T : Type} {store : Store} {key : String} {w t : World O T}

/-! ## The steps of a look-up -/

/-- The names that lead to the folder of all files. -/
def spot (store : Store) : List String := lexical [] store.steps

/-- The world after a content was kept. -/
def filed (store : Store) (key : String) (content : Content) (w : World O T) : World O T :=
  ((store.keep key content).run w).2

/-- A file that can be kept. -/
theorem keep_run (key : String) (content : Content)
    (kept : ((store.keep key content).run w).1 = .ok ()) :
    (store.keep key content).run w = (.ok (), store.filed key content w) := Prod.ext kept rfl

section

variable [Duration T]

/-- The world after the sweep of a look-up, if it is time for one. -/
def tidied (store : Store) (w : World O T) : World O T :=
  if store.isDue w then ((store.sweep false).run w).2 else w

/-- The world in which a look-up looks at its file. -/
def looked (store : Store) (w : World O T) : World O T :=
  (store.prepare.run (store.tidied w)).2

/-- A world in which the folder of a store can be swept and made, and the file of a key be put into
it. -/
structure IsWritable (store : Store) (key : String) (w : World O T) : Prop where
  swept : ((store.sweep false).run w).1 = .ok ()
  made : (store.prepare.run (store.tidied w)).1 = .ok ()
  kept : ∀ content, ((store.keep key content).run (store.looked w)).1 = .ok ()

/-- The value of a key, with no sweep before. -/
def take (store : Store) (key : String) (make : Act (World O T) Json) : Act (World O T) Json := do
  store.prepare
  match store.contentOf key (← get) with
  | some (.value value) =>
    store.keep key (.value value)
    return value
  | some (.bytes _) => throw .badEntry
  | none =>
    let value ← make
    store.keep key (.value value)
    return value

theorem lookUp_eq_take (swept : ((store.sweep false).run w).1 = .ok ())
    (make : Act (World O T) Json) :
    (store.lookUp key make).run w = (store.take key make).run (store.tidied w) := by
  rw [lookUp, Act.run_bind_ok (Act.run_get w), tidied]
  by_cases due : store.isDue w = true
  · have swept' : (store.sweep false).run w = (.ok (), ((store.sweep false).run w).2) :=
      Prod.ext swept rfl
    rw [if_pos due, if_pos due, Act.run_bind_ok swept']
    rfl
  · rw [if_neg due, if_neg due]
    rfl

/-- **What a look-up does in a world that can be written to.** -/
theorem lookUp_run (writable : IsWritable store key w) (make : Act (World O T) Json) :
    (store.lookUp key make).run w =
      match store.contentOf key (store.looked w) with
      | some (.value value) => (.ok value, store.filed key (.value value) (store.looked w))
      | some (.bytes _) => (.error .badEntry, store.looked w)
      | none =>
        (do
          let value ← make
          store.keep key (.value value)
          return value : Act (World O T) Json).run (store.looked w) := by
  have prepared : store.prepare.run (store.tidied w) = (.ok (), store.looked w) :=
    Prod.ext writable.made rfl
  rw [lookUp_eq_take writable.swept, take, Act.run_bind_ok prepared,
    Act.run_bind_ok (Act.run_get (store.looked w))]
  split
  · rename_i value _
    exact Act.run_bind_ok (keep_run key (.value value) (writable.kept _))
  · rfl
  · rfl

end

/-! ## What the work of a store leaves alone -/

def root (store : Store) : List String := lexical [] store.folder

/-- Worlds that are the same but for the files of a store, the time of its last sweep and the
journal. -/
structure Beside (store : Store) (w t : World O T) : Prop where
  outside : t.outside = w.outside
  now : t.now = w.now
  installed : t.installed = w.installed
  files : ∀ path, ¬ store.root <+: path → t.disk.fileAt? path = w.disk.fileAt? path

theorem Beside.refl (w : World O T) : Beside store w w := ⟨rfl, rfl, rfl, fun _ _ => rfl⟩

theorem Beside.symm (beside : Beside store w t) : Beside store t w where
  outside := beside.outside.symm
  now := beside.now.symm
  installed := beside.installed.symm
  files path outside := (beside.files path outside).symm

theorem Beside.trans {u : World O T} (first : Beside store w t) (second : Beside store t u) :
    Beside store w u where
  outside := second.outside.trans first.outside
  now := second.now.trans first.now
  installed := second.installed.trans first.installed
  files path outside := (second.files path outside).trans (first.files path outside)

/-- What the work of a store makes of a world. -/
structure Tended (store : Store) (w t : World O T) : Prop extends Beside store w t where
  journal : t.journal = w.journal

theorem Tended.refl (w : World O T) : Tended store w w := ⟨.refl w, rfl⟩

theorem Tended.trans {u : World O T} (first : Tended store w t) (second : Tended store t u) :
    Tended store w u :=
  ⟨first.toBeside.trans second.toBeside, second.journal.trans first.journal⟩

/-- Making the folder of a store makes no file. -/
theorem prepare_tended (store : Store) (w : World O T) :
    Tended store w (store.prepare.run w).2 ∧ Sparser (store.prepare.run w).2.disk w.disk := by
  rw [prepare]
  cases Path.isNowhere store.steps with
  | true => exact ⟨.refl w, .refl _⟩
  | false =>
    cases Path.isEndless store.steps with
    | true => exact ⟨.refl w, .refl _⟩
    | false =>
      exact ⟨⟨⟨rfl, rfl, rfl, fun path _ => fileAt?_makeAll store.steps.reverse path w.disk⟩, rfl⟩,
        makeAll_sparser store.steps.reverse w.disk⟩

section

variable [Duration T]

/-- **A sweep takes files of its store away, and changes no others.** -/
theorem sweep_tended (store : Store) (all : Bool) (w : World O T) :
    Tended store w ((store.sweep all).run w).2 ∧
      Sparser ((store.sweep all).run w).2.disk w.disk := by
  rw [sweep]
  cases Path.isNowhere store.folder with
  | true => exact ⟨.refl w, .refl _⟩
  | false =>
    have top : Leads w.disk [] [] w.disk := rfl
    simp only [Bool.false_eq_true, if_false, Act.run_modify]
    cases placed : w.disk.place [] [] store.folder with
    | error e => exact ⟨⟨⟨rfl, rfl, rfl, fun _ _ => rfl⟩, rfl⟩, .refl _⟩
    | ok p =>
      obtain ⟨spot, here⟩ := p
      obtain ⟨rfl, _⟩ := place_eq_ok top placed
      exact ⟨⟨⟨rfl, rfl, rfl, fun _ outside => fileAt?_updateIn _ outside w.disk⟩, rfl⟩,
        updateIn_sparser (sweep_sparser _) _ w.disk⟩

theorem tidied_tended (store : Store) (w : World O T) :
    Tended store w (store.tidied w) ∧ Sparser (store.tidied w).disk w.disk := by
  rw [tidied]
  split
  · exact sweep_tended store false w
  · exact ⟨.refl w, .refl _⟩

theorem looked_tended (store : Store) (w : World O T) :
    Tended store w (store.looked w) ∧ Sparser (store.looked w).disk w.disk := by
  obtain ⟨tidied, fewer⟩ := tidied_tended store w
  obtain ⟨prepared, fewer'⟩ := prepare_tended store (store.tidied w)
  exact ⟨tidied.trans prepared, fewer'.trans fewer⟩

end

/-! ## What stores keep -/

/-- The salt of a store leads down from its folder. -/
def IsBelow (store : Store) : Prop := ∀ step ∈ Path.steps store.salt, step ≠ ".."

theorem root_prefix_spot (below : store.IsBelow) : store.root <+: store.spot := by
  rw [root, spot, steps, lexical_append below]
  exact List.prefix_append _ _

/-- A content is put into the folder of its store, or nothing is done. -/
theorem filed_eq (store : Store) (key : String) (content : Content) (w : World O T) :
    store.filed key content w = w ∨ store.filed key content w = { w with
      disk := w.disk.updateIn (fun f => f.put (store.fileName key) (.file content w.now))
        store.spot } := by
  rw [filed, keep, Act.run_ofRun]
  have top : Leads w.disk [] [] w.disk := rfl
  split
  · exact .inl rfl
  · rw [putFile]
    cases placed : w.disk.place [] [] store.steps with
    | error e => exact .inl rfl
    | ok p =>
      obtain ⟨spot, here⟩ := p
      obtain ⟨rfl, _⟩ := place_eq_ok top placed
      exact .inr rfl

theorem filed_tended (below : store.IsBelow) (key : String) (content : Content) (w : World O T) :
    Tended store w (store.filed key content w) := by
  obtain same | filed := filed_eq store key content w
  · rw [same]
    exact .refl w
  · rw [filed]
    refine ⟨⟨rfl, rfl, rfl, fun path outside => ?_⟩, rfl⟩
    have beside : ¬ store.spot <+: path :=
      fun inside => outside ((root_prefix_spot below).trans inside)
    exact fileAt?_updateIn _ beside w.disk

/-- **What is put into a store is all that its disk gets.** -/
theorem holds_filed {content c : Content} {path : List String}
    (held : (store.filed key content w).disk.Holds path c) :
    path = store.spot ++ [store.fileName key] ∧ c = content ∨ w.disk.Holds path c := by
  obtain same | filed := filed_eq store key content w
  · rw [same] at held
    exact .inr held
  · rw [filed] at held
    have known : (∃ rest, path = store.spot ++ rest ∧
        rest = [store.fileName key] ∧ c = content) ∨ w.disk.Holds path c :=
      @holds_updateIn T _ (fun rest c => rest = [store.fileName key] ∧ c = content)
        (fun f path c held => holds_put_file held) store.spot w.disk path c held
    obtain ⟨_, rfl, rfl, rfl⟩ | before := known
    · exact .inl ⟨rfl, rfl⟩
    · exact .inr before

/-- The name of a file is longer than a step back. -/
theorem fileName_ne_back (store : Store) (key : String) : store.fileName key ≠ ".." := by
  intro same
  have long := congrArg String.length same
  have ending : ".pickle".length = 7 := rfl
  have back : "..".length = 2 := rfl
  rw [fileName, String.length_append, ending, back] at long
  omega

/-- **A content that is found is held under the name of its key.** -/
theorem holds_of_contentOf {content : Content} (there : store.contentOf key w = some content) :
    w.disk.Holds (store.spot ++ [store.fileName key]) content := by
  have top : Leads w.disk [] [] w.disk := rfl
  have down : ∀ name ∈ [store.fileName key], name ≠ ".." := fun name among =>
    List.mem_singleton.mp among ▸ fileName_ne_back store key
  rw [spot, ← lexical_append down]
  rw [contentOf] at there
  split at there
  · rename_i found
    cases there
    exact holds_of_fileAt? (fileAt?_of_walk top found)
  · cases there

/-- What is written into the journal does not matter to a file that is kept. -/
theorem keep_journal (store : Store) (key : String) (content : Content) (w : World O T)
    (journal : List (Event T)) :
    (store.keep key content).run { w with journal } =
      (((store.keep key content).run w).1, { store.filed key content w with journal }) := by
  rw [filed, keep, Act.run_ofRun, Act.run_ofRun]
  dsimp only
  split
  · rfl
  · cases w.disk.putFile content w.now (store.fileName key) store.steps <;> rfl

/-- The world after something in the folder of a store, or below it, was deleted. -/
def lost (store : Store) (below : List String) (name : String) (w : World O T) : World O T :=
  { w with disk := w.disk.updateIn (Folder.erase name) (store.root ++ below) }

theorem lost_beside (store : Store) (below : List String) (name : String) (w : World O T) :
    Beside store w (store.lost below name w) ∧
      Sparser (store.lost below name w).disk w.disk := by
  refine ⟨⟨rfl, rfl, rfl, fun path outside => ?_⟩, updateIn_sparser (erase_sparser name) _ w.disk⟩
  have beside : ¬ store.root ++ below <+: path :=
    fun inside => outside ((List.prefix_append _ below).trans inside)
  exact fileAt?_updateIn _ beside w.disk

/-- All files of a store are as they should be by their names. -/
def Keeps (store : Store) (Right : String → Content → Prop) (f : Folder T) : Prop :=
  ∀ name content, f.Holds (store.spot ++ [name]) content → Right name content

theorem Keeps.sparser {Right : String → Content → Prop} {f g : Folder T}
    (keeps : store.Keeps Right g) (sparser : Sparser f g) : store.Keeps Right f :=
  fun name content held => keeps name content (sparser _ _ held)

/-- **A store keeps what it should as long as what it should is put into it.** -/
theorem Keeps.filed {Right : String → Content → Prop} {content : Content}
    (keeps : store.Keeps Right w.disk) (right : Right (store.fileName key) content) :
    store.Keeps Right (store.filed key content w).disk := by
  intro name c held
  obtain ⟨path, rfl⟩ | before := holds_filed held
  · obtain rfl : name = store.fileName key := List.singleton_inj.mp (List.append_cancel_left path)
    exact right
  · exact keeps name c before

theorem Keeps.contentOf {Right : String → Content → Prop} {content : Content}
    (keeps : store.Keeps Right w.disk) (there : store.contentOf key w = some content) :
    Right (store.fileName key) content := keeps _ _ (holds_of_contentOf there)

/-! ## Stores that can be written to -/

/-- The folder of a store can be made if no file stands in the way to it. -/
theorem prepare_of_isPassable (somewhere : Path.isNowhere store.steps = false)
    (ends : Path.isEndless store.steps = false) (passable : w.disk.IsPassable store.steps) :
    (store.prepare.run w).1 = .ok () ∧
      ∃ p, (store.prepare.run w).2.disk.place [] [] store.steps = .ok p := by
  rw [← List.reverse_reverse store.steps] at passable
  obtain ⟨made, makes, placed⟩ := place_makeAll passable
  rw [List.reverse_reverse] at placed
  rw [prepare, somewhere, ends]
  simp only [Bool.false_eq_true, if_false]
  rw [Act.run_ofRun, makes]
  exact ⟨rfl, placed⟩

/-- A file can be kept if the folder of its store is there. -/
theorem keep_of_place (content : Content) (short : Path.isEndless (store.location key) = false)
    (placed : ∃ p, w.disk.place [] [] store.steps = .ok p) :
    (store.keep key content).run w = (.ok (), store.filed key content w) := by
  obtain ⟨p, placed⟩ := placed
  refine keep_run key content ?_
  rw [keep, Act.run_ofRun, short, putFile, placed]
  rfl

/-- A store whose folder has a plain path, so short that the path of a file is not too long. -/
structure IsProper (store : Store) : Prop where
  plain : ∀ step ∈ store.steps, IsPlain step
  somewhere : Path.isNowhere store.steps = false
  ends : Path.isEndless store.steps = false
  short : ∀ key, Path.isEndless (store.location key) = false

theorem IsProper.spot_eq (proper : store.IsProper) : store.spot = store.steps := by
  have down : ∀ step ∈ store.steps, step ≠ ".." := fun step among => (proper.plain step among).1
  exact @lexical_append store.steps down [] []

/-- No character has more than four bytes. -/
theorem utf8ByteSize_ofList_le (cs : List Char) :
    (String.ofList cs).utf8ByteSize ≤ 4 * cs.length := by
  induction cs with
  | nil => decide
  | cons c cs ih =>
    have split : String.ofList (c :: cs) = String.singleton c ++ String.ofList cs := by
      rw [← String.toList_inj]
      simp
    have most := Char.utf8Size_le_four c
    rw [split, String.utf8ByteSize_append, String.utf8ByteSize_singleton, List.length_cons]
    omega

theorem length_sha256 (message : Bytes) : (Hash.sha256 message).length = 32 := by
  simp [Hash.sha256, Hash.Mix.words, Bytes.length_ofNat]

theorem length_hexDigits (bytes : Bytes) : bytes.hexDigits.length = 2 * bytes.length := by
  simp [Bytes.hexDigits, Nat.mul_comm]

/-- Names of files are short. -/
theorem utf8ByteSize_fileName_le (store : Store) (key : String) :
    (store.fileName key).utf8ByteSize ≤ 263 := by
  have digits := utf8ByteSize_ofList_le (Hash.sha256 (Text.encode (store.salt ++ key))).hexDigits
  have ending : ".pickle".utf8ByteSize = 7 := by decide
  rw [length_hexDigits, length_sha256] at digits
  rw [fileName, String.utf8ByteSize_append, ending, Bytes.hex]
  omega

theorem utf8ByteSize_intercalate_concat_le (steps : List String) (last : String) :
    ("/".intercalate (steps ++ [last])).utf8ByteSize ≤
      ("/".intercalate steps).utf8ByteSize + 1 + last.utf8ByteSize := by
  have slash : "/".utf8ByteSize = 1 := by decide
  induction steps with
  | nil =>
    rw [List.nil_append, String.intercalate_singleton]
    omega
  | cons first steps ih =>
    cases steps with
    | nil =>
      rw [List.cons_append, List.nil_append, String.intercalate_cons_cons,
        String.intercalate_singleton, String.intercalate_singleton, String.utf8ByteSize_append,
        String.utf8ByteSize_append, slash]
    | cons second steps =>
      rw [List.cons_append] at ih
      rw [List.cons_append, List.cons_append, String.intercalate_cons_cons,
        String.intercalate_cons_cons, String.utf8ByteSize_append, String.utf8ByteSize_append,
        String.utf8ByteSize_append, String.utf8ByteSize_append]
      omega

/-- The path of a file is not too long if that of its folder leaves room for its name. -/
theorem isEndless_location (room : ("/".intercalate store.steps).utf8ByteSize ≤ 3831)
    (key : String) : Path.isEndless (store.location key) = false := by
  have size := store.utf8ByteSize_fileName_le key
  have whole := utf8ByteSize_intercalate_concat_le store.steps (store.fileName key)
  rw [Path.isEndless, location, decide_eq_false_iff_not]
  omega

section

variable [Duration T]

/-- **A store can be written to if no file stands in the way to its folder.** -/
theorem isWritable_of_clear (proper : store.IsProper) (clear : w.disk.Clear store.spot) :
    store.IsWritable key w := by
  have clear' : (store.tidied w).disk.Clear store.steps := by
    rw [← proper.spot_eq]
    exact clear.sparser (store.tidied_tended w).2
  obtain ⟨made, placed⟩ := prepare_of_isPassable proper.somewhere proper.ends
    (isPassable_of_clear proper.plain clear')
  have somewhere : Path.isNowhere store.folder = false := by
    have all := proper.somewhere
    rw [steps, Path.isNowhere, List.any_append, Bool.or_eq_false_iff] at all
    exact all.1
  refine ⟨?_, made, fun content => ?_⟩
  · rw [sweep, somewhere]
    rfl
  · rw [looked, keep_of_place content (proper.short key) placed]

end

end SolidityRepl.Store
