import Encounter.Drive.Waiting
import Mathlib.Data.Nat.Notation

/-!
# A drive that waits goes through its rounds

However the interval answers when it is polled, a drive that waits is always where some number of
its rounds leads.  If the beats never cease it gets through any number of rounds.
-/

namespace Encounter

variable {ε : Type}

theorem StopChannel.stopWait_eq (channel : StopChannel) :
    channel.stopWait = if channel.requested then .ready ⟨⟩ else .pending := by
  unfold stopWait requestWait
  cases channel.requested <;> cases channel.held <;> rfl

/-- The interval never stops beating. -/
def Unceasing (beats : ℕ → Poll PUnit) : Prop :=
  ∀ n, ∃ m, n ≤ m ∧ beats m = .ready ⟨⟩

namespace Drive

variable (around : Surroundings ε) (held : ε → Bool) (beats : ℕ → Poll PUnit)

/-- One round of a drive that has not ended. -/
def next (d : Drive ε) : Drive ε :=
  if d.ending.isSome then d else d.round around

/-- A round stands still, halts or advances, and which of these is known before it. -/
theorem next_cases (d : Drive ε) :
    (d.ending.isSome = true ∧ d.next around = d) ∨
      (d.ending = none ∧ around.stopRequested d.env = true ∧ d.next around = d.halt around) ∨
      (d.ending = none ∧ around.stopRequested d.env = false ∧
        d.next around = d.advance around) := by
  unfold next round
  cases hending : d.ending with
  | some ending => simp
  | none => cases hstop : around.stopRequested d.env <;> simp

theorem run_of_ended {d : Drive ε} (hended : d.ending.isSome = true) (rounds : ℕ) :
    d.run around rounds = d := by
  cases rounds with
  | zero => rfl
  | succ rounds => rw [run, if_pos hended]

theorem run_succ (d : Drive ε) (rounds : ℕ) :
    d.run around (rounds + 1) = (d.run around rounds).next around := by
  induction rounds generalizing d with
  | zero => rfl
  | succ rounds ih =>
      by_cases hended : d.ending.isSome = true
      · rw [run_of_ended around hended, run_of_ended around hended, next, if_pos hended]
      · rw [run, if_neg hended, ih, run, if_neg hended]

theorem poll_of_ready (d : Drive ε) : d.poll around held (.ready ⟨⟩) = d.next around := by
  unfold poll next round
  rw [StopChannel.stopWait_eq]
  by_cases hstop : around.stopRequested d.env = true <;>
    simp [Surroundings.channel, hstop, Wakeup.select]

theorem poll_eq_or (beat : Poll PUnit) (d : Drive ε) :
    d.poll around held beat = d ∨ d.poll around held beat = d.next around := by
  cases beat with
  | ready => exact .inr (poll_of_ready around held d)
  | pending =>
      unfold poll next round
      rw [StopChannel.stopWait_eq]
      by_cases hstop : around.stopRequested d.env = true <;>
        simp [Surroundings.channel, hstop, Wakeup.select]

theorem polled_of_ended {d : Drive ε} {n : ℕ}
    (hended : (d.polled around held beats n).ending.isSome = true) {m : ℕ} (hnm : n ≤ m) :
    d.polled around held beats m = d.polled around held beats n := by
  induction hnm with
  | refl => rfl
  | step _ ih => rw [polled, ih, poll, if_pos hended]

theorem exists_run_eq_polled (d : Drive ε) (n : ℕ) :
    ∃ rounds, d.polled around held beats n = d.run around rounds := by
  induction n with
  | zero => exact ⟨0, rfl⟩
  | succ n ih =>
      obtain ⟨rounds, hrounds⟩ := ih
      rw [polled]
      rcases poll_eq_or around held (beats n) (d.polled around held beats n) with hsame | hnext
      · exact ⟨rounds, hsame.trans hrounds⟩
      · exact ⟨rounds + 1, by rw [hnext, hrounds, run_succ]⟩

/-- By the next beat at the latest the drive has gone on by one round. -/
theorem exists_polled_eq_next (d : Drive ε) {gap n : ℕ} (hbeat : beats (n + gap) = .ready ⟨⟩) :
    ∃ m, d.polled around held beats m = (d.polled around held beats n).next around := by
  induction gap generalizing n with
  | zero => exact ⟨n + 1, by rw [polled, ← poll_of_ready around held, ← hbeat, Nat.add_zero]⟩
  | succ gap ih =>
      rcases poll_eq_or around held (beats n) (d.polled around held beats n) with hsame | hnext
      · have hbeat' : beats (n + 1 + gap) = .ready ⟨⟩ := by
          rw [← hbeat]
          congr 1
          omega
        obtain ⟨m, hm⟩ := ih hbeat'
        refine ⟨m, ?_⟩
        rw [hm, polled, hsame]
      · exact ⟨n + 1, hnext⟩

theorem exists_polled_eq_run {beats : ℕ → Poll PUnit} (hbeats : Unceasing beats) (d : Drive ε)
    (rounds : ℕ) : ∃ n, d.polled around held beats n = d.run around rounds := by
  induction rounds with
  | zero => exact ⟨0, rfl⟩
  | succ rounds ih =>
      obtain ⟨n, hn⟩ := ih
      obtain ⟨m, hnm, hbeat⟩ := hbeats n
      obtain ⟨gap, rfl⟩ := Nat.exists_eq_add_of_le hnm
      obtain ⟨m, hm⟩ := exists_polled_eq_next around held beats d hbeat
      exact ⟨m, by rw [hm, hn, run_succ]⟩

/-- From some poll on, a drive that ends in its rounds is where they lead. -/
theorem exists_forall_polled_eq_run {beats : ℕ → Poll PUnit} (hbeats : Unceasing beats)
    (d : Drive ε) {rounds : ℕ} (hended : (d.run around rounds).ending.isSome = true) :
    ∃ n, ∀ m, n ≤ m → d.polled around held beats m = d.run around rounds := by
  obtain ⟨n, hn⟩ := exists_polled_eq_run around held hbeats d rounds
  refine ⟨n, fun m hnm => ?_⟩
  rw [polled_of_ended around held beats (by rw [hn, hended]) hnm, hn]

end Drive

end Encounter
