import Mathlib.Data.Rat.Floor
import SolidityRepl.Proofs.Node.Talk

/-!
# Waiting for receipts

The receipt of a transaction is asked for again after every pause, as long as the next pause ends in
time. There is time for as many pauses as fit into it, and so for one poll more; the first answer
that is not void ends the wait.
-/

namespace SolidityRepl.Node

section

variable {O T : Type} [Duration T] {host : Host O} {transaction : Json} {deadline latency : T}
  {s : At O T} {polls : Nat}

/-- **What is polled comes to what the last poll comes to**, if no bound on the polls is reached
before the time is over. By induction on the polls before the last one. -/
theorem poll_run {most last : Nat} (enough : most ≤ polls)
    (h : IsLast (· = .ok .null)
      (fun i => (Act.nth (receiptCall host transaction) (pauseFor latency) s i).1) most last)
    (late : ∀ i, Duration.isBelow deadline
      ((Act.nth (receiptCall host transaction) (pauseFor latency) s i).2.2.now + latency) = true ↔
        most ≤ i + 1) :
    (poll host transaction deadline latency polls).run s =
      (concluded transaction (Act.nth (receiptCall host transaction) (pauseFor latency) s last).1,
        (Act.nth (receiptCall host transaction) (pauseFor latency) s last).2) := by
  induction last generalizing most polls s with
  | zero =>
    obtain ⟨polls, rfl⟩ := Nat.exists_eq_succ_of_ne_zero (Nat.ne_zero_of_lt (h.lt.trans_le enough))
    exact poll_ends rfl fun void => (late 0).mpr (h.ends void).ge
  | succ last ih =>
    obtain ⟨polls, rfl⟩ := Nat.exists_eq_succ_of_ne_zero (Nat.ne_zero_of_lt (h.lt.trans_le enough))
    obtain ⟨most, rfl⟩ := Nat.exists_eq_succ_of_ne_zero (Nat.ne_zero_of_lt h.lt)
    have void : ((receiptCall host transaction).run s).1 = .ok .null :=
      h.before 0 (Nat.succ_pos last)
    have asked : (receiptCall host transaction).run s =
        (.ok .null, ((receiptCall host transaction).run s).2) := Prod.ext void rfl
    have early : ¬ Duration.isBelow deadline
        (((receiptCall host transaction).run s).2.2.now + latency) = true := fun passed =>
      absurd ((late 0).mp passed) (by have := h.lt; omega)
    have rest := h.tail
    simp only [Act.nth_succ] at rest ⊢
    rw [poll_again asked (Bool.eq_false_iff.mpr early)]
    refine ih (Nat.le_of_succ_le_succ enough) rest fun i => ?_
    have later := late (i + 1)
    rw [Act.nth_succ] at later
    exact later.trans Nat.succ_le_succ_iff

end

/-! ## Exact times -/

variable {O : Type} {host : Host O} {transaction : Json} {timeout latency : Rat}

/-- The poll of a number, as it is written down. -/
def pollAt (node : Node) (transaction : Json) (n : Nat) : Event Rat :=
  .requested (.post node.url
    (bodyOf "eth_getTransactionReceipt" (.arr [transaction]) (node.calls + n + 1)))

/-- A poll takes no time. -/
theorem receiptCall_at (host : Host O) (transaction : Json) (s : At O Rat) :
    let t := ((receiptCall host transaction).run s).2
    t.1 = { s.1 with calls := s.1.calls + 1 } ∧ t.2.now = s.2.now ∧
      t.2.journal = s.2.journal ++ [pollAt s.1 transaction 0] := by
  obtain ⟨answer, w', does, called⟩ :=
    call_run host "eth_getTransactionReceipt" (.arr [transaction]) s
  have now : w'.now = s.2.now := by rw [does.rest]; rfl
  have journal : w'.journal = s.2.journal ++ [pollAt s.1 transaction 0] := by rw [does.rest]; rfl
  rw [receiptCall, called]
  exact ⟨rfl, now, journal⟩

/-- **When a poll is made**, and what was done before. By induction on the polls before. -/
theorem turn_at (host : Host O) (transaction : Json) (latency : Rat) (node : Node)
    (w : World O Rat) (n : Nat) :
    let t := Act.turn (receiptCall host transaction) (pauseFor latency) (node, w) n
    t.1 = { node with calls := node.calls + n } ∧ t.2.now = w.now + n * latency ∧
      t.2.journal = w.journal ++
        (List.range n).flatMap fun i => [pollAt node transaction i, .slept latency] := by
  induction n with
  | zero => simp [Act.turn]
  | succ n ih =>
    obtain ⟨url, now, journal⟩ := ih
    obtain ⟨url', now', journal'⟩ := receiptCall_at host transaction
      (Act.turn (receiptCall host transaction) (pauseFor latency) (node, w) n)
    refine ⟨?_, ?_, ?_⟩
    · rw [url] at url'
      exact url'
    · show _ + latency = _
      rw [now', now]
      push_cast
      ring
    · show _ ++ [Event.slept latency] = _
      rw [journal', journal, url, List.range_succ, List.flatMap_append]
      simp [pollAt]

/-- There is time for as many pauses as fit into it. -/
theorem late_iff (patient : 0 ≤ timeout) (pausing : 0 < latency) (node : Node) (w : World O Rat)
    (n : Nat) :
    Duration.isBelow (w.now + timeout)
      ((Act.nth (receiptCall host transaction) (pauseFor latency) (node, w) n).2.2.now + latency) =
        true ↔ ⌊timeout / latency⌋₊ + 1 ≤ n + 1 := by
  have now : (Act.nth (receiptCall host transaction) (pauseFor latency) (node, w) n).2.2.now =
      w.now + n * latency :=
    (receiptCall_at host transaction _).2.1.trans (turn_at host transaction latency node w n).2.1
  have fits : ⌊timeout / latency⌋₊ < n + 1 ↔ timeout < (n + 1) * latency := by
    rw [Nat.floor_lt (div_nonneg patient pausing.le), div_lt_iff₀ pausing]
    push_cast
    rfl
  rw [Duration.isBelow_rat, now, Nat.succ_le_iff, fits]
  constructor <;> intro passed <;> linarith

/-- The bound on the polls is one that is not reached. -/
theorem enoughPolls_rat (pausing : 0 < latency) :
    ⌊timeout / latency⌋₊ + 1 ≤ enoughPolls timeout latency := by
  have positive : Duration.isBelow (Duration.ofInt 0) latency = true := by
    rw [Duration.isBelow_rat, Duration.ofInt_rat]
    exact pausing
  have fits : Duration.fits timeout latency = ⌊timeout / latency⌋₊ := rfl
  rw [enoughPolls, positive, if_pos rfl, fits]
  omega

/-- The time is over just if every poll that there was time for came to nothing. No poll has failed
then; a failure of a poll itself is passed on as it is. -/
theorem overdue_iff {answer : Nat → Except Failure Json} {most last : Nat}
    (h : IsLast (· = .ok .null) answer most last) :
    (∃ e, concluded transaction (answer last) = .error e ∧ e.isInvalidValue = true ∧
      ∀ i < most, answer i ≠ .error e) ↔ ∀ i < most, answer i = .ok .null := by
  constructor
  · rintro ⟨e, failed, -, unfailed⟩ i early
    by_cases void : answer last = .ok .null
    · have limit := h.ends void
      obtain before | rfl := Nat.lt_succ_iff_lt_or_eq.mp (limit ▸ early)
      · exact h.before i before
      · exact void
    · have same : concluded transaction (answer last) = answer last := by
        unfold concluded
        split
        · rename_i void'
          exact absurd void' void
        · rfl
      exact absurd (same.symm.trans failed) (unfailed last h.lt)
  · intro all
    refine ⟨.unanswered transaction, ?_, rfl, fun i early failed => ?_⟩
    · rw [all last h.lt]
      rfl
    · rw [all i early] at failed
      cases failed

/-- **A wait for a receipt ends in time and misses nothing.** With `most` the number of pauses that
fit into the time, and one, it is over after at most as many polls, with exactly one pause between
two of them, none of which ends too late. It comes to what the last poll came to, and that is the
first one that is answered with anything. No bound on the polls has any part in this. The time is
over without a failure of the node just if all polls that there is time for come to nothing. -/
theorem receipt_in_time (host : Host O) (transaction : Json) (patient : 0 ≤ timeout)
    (pausing : 0 < latency) (node : Node) (w : World O Rat) :
    let most := ⌊timeout / latency⌋₊ + 1
    let turn := Act.turn (receiptCall host transaction) (pauseFor latency) (node, w)
    let nth := Act.nth (receiptCall host transaction) (pauseFor latency) (node, w)
    let waited := (receipt host transaction timeout latency).run (node, w)
    ∃ last, IsLast (· = .ok .null) (fun i => (nth i).1) most last ∧
      waited = (concluded transaction (nth last).1, (nth last).2) ∧
      (∀ polls, most ≤ polls →
        (poll host transaction (w.now + timeout) latency polls).run (node, w) = waited) ∧
      (∀ i, (turn i).2.now = w.now + i * latency) ∧ waited.2.2.now ≤ w.now + timeout ∧
      waited.2.2.journal = w.journal ++
        ((List.range last).flatMap fun i => [pollAt node transaction i, .slept latency]) ++
        [pollAt node transaction last] ∧
      ((∃ e, waited.1 = .error e ∧ e.isInvalidValue = true ∧ ∀ i < most, (nth i).1 ≠ .error e) ↔
        ∀ i < most, (nth i).1 = .ok .null) := by
  intro most turn nth waited
  obtain ⟨last, h⟩ := IsLast.exists_of_pos (· = .ok .null) (fun i => (nth i).1)
    (Nat.succ_ne_zero ⌊timeout / latency⌋₊)
  have ends (polls : Nat) (enough : most ≤ polls) :
      (poll host transaction (w.now + timeout) latency polls).run (node, w) =
        (concluded transaction (nth last).1, (nth last).2) :=
    poll_run enough h (late_iff patient pausing node w)
  have came : waited = (concluded transaction (nth last).1, (nth last).2) :=
    ends _ (enoughPolls_rat pausing)
  obtain ⟨calls, now, journal⟩ := turn_at host transaction latency node w last
  obtain ⟨-, now', journal'⟩ := receiptCall_at host transaction (turn last)
  refine ⟨last, h, came, fun polls enough => (ends polls enough).trans came.symm,
    fun i => (turn_at host transaction latency node w i).2.1, ?_, ?_, ?_⟩
  · have fits : (last : Rat) * latency ≤ timeout := by
      rw [← le_div_iff₀ pausing]
      exact (Nat.cast_le.mpr (Nat.lt_succ_iff.mp h.lt)).trans
        (Nat.floor_le (div_nonneg patient pausing.le))
    rw [came]
    show ((receiptCall host transaction).run (turn last)).2.2.now ≤ _
    rw [now', now]
    linarith
  · rw [came]
    show ((receiptCall host transaction).run (turn last)).2.2.journal = _
    rw [journal', journal, calls]
    rfl
  · rw [came]
    exact overdue_iff h

def answering (text : String) : Host Unit where
  compile _ _ := throw .unsupported
  request _ := pure { status := 200, reason := "", text }
  spawn _ := throw .unsupported
  poll := pure none
  wait _ := pure true
  installable := []

theorem receiptCall_answering (text : String) (transaction : Json) (s : At Unit Rat) :
    ((receiptCall (answering text) transaction).run s).1 = resultOf text := by
  obtain ⟨answer, w', does, called⟩ :=
    call_run (answering text) "eth_getTransactionReceipt" (.arr [transaction]) s
  obtain rfl : answer = .ok ⟨200, "", text⟩ := (congrArg Prod.fst does.asks).symm
  rw [receiptCall, called]
  rfl

/-- The answer of a node that has no receipt. -/
def unknown : String := "\x7b\"result\": null\x7d"

theorem resultOf_unknown : resultOf unknown = .ok .null := by
  have void : (resultOf unknown).toBool = true ∧
      (concluded .null (resultOf unknown)).toBool = false := by decide +kernel
  generalize resultOf unknown = answer at void ⊢
  cases answer with
  | error e => cases void.1
  | ok receipt =>
    cases receipt with
    | null => rfl
    | _ => cases void.2

/-- Five polls, a quarter of a second apart, fit into one second. -/
theorem receipt_in_time_second :
    (0 : Rat) ≤ 1 ∧ (0 : Rat) < 1 / 4 ∧
      ∃ t : At Unit Rat, (receipt (answering unknown) (.str "0xabc") 1 (1 / 4)).run
          ({ url := "http://node" }, ⟨(), .empty, 10, [], [], []⟩) =
        (.error (.unanswered (.str "0xabc")), t) ∧ t.2.now = 11 ∧ t.2.journal.length = 9 := by
  have patient : (0 : Rat) ≤ 1 := by norm_num
  have pausing : (0 : Rat) < 1 / 4 := by norm_num
  have four : ⌊(1 : Rat) / (1 / 4)⌋₊ = 4 := by norm_num
  refine ⟨patient, pausing, ?_⟩
  -- the answer is kept as it is, so that it is not read at every poll
  generalize unknown = text, resultOf_unknown = void
  have silent (s : At Unit Rat) :
      ((receiptCall (answering text) (.str "0xabc")).run s).1 = .ok .null :=
    (receiptCall_answering text _ s).trans void
  obtain ⟨last, h, came, -, times, -, journal, -⟩ := receipt_in_time (answering text)
    (.str "0xabc") patient pausing { url := "http://node" } ⟨(), .empty, 10, [], [], []⟩
  have limit := h.ends (silent _)
  obtain rfl : last = 4 := by omega
  refine ⟨_, came.trans (Prod.ext ?_ rfl), ?_, ?_⟩
  · show concluded _ ((receiptCall _ _).run _).1 = _
    rw [silent]
    rfl
  · refine ((receiptCall_at _ _ _).2.1.trans (times 4)).trans ?_
    norm_num
  · rw [came] at journal
    rw [journal]
    rfl

end SolidityRepl.Node
