import Encounter.Replay.Reel
import Mathlib.Data.List.Induction

/-!
# What a reel shows

The target that is shared with a reel may change any number of times between two snapshots.  How far
the reel has been wound on depends on the number of snapshots alone: each is of the next frame, or
of the last one again, and the target of the moment is put into it and into no other.  A stop is
requested from the snapshot on that leaves nothing to wind on to.
-/

namespace Encounter.Reel

/-- What may happen to a reel: the target shared with it changes, or a snapshot is taken. -/
inductive Cue where
  | aim (target : Option Guid)
  | snapshot
  deriving DecidableEq, Repr

def Cue.aimed? : Cue → Option (Option Guid)
  | .aim target => some target
  | .snapshot => none

def snapshotCount (cues : List Cue) : ℕ :=
  cues.count .snapshot

/-- The target that is shared after `cues`, which is `target` if none of them has changed it. -/
def sharedTarget (target : Option Guid) (cues : List Cue) : Option Guid :=
  (cues.filterMap Cue.aimed?).getLastD target

theorem snapshotCount_concat_aim (cues : List Cue) (target : Option Guid) :
    snapshotCount (cues ++ [.aim target]) = snapshotCount cues := by
  simp [snapshotCount]

theorem snapshotCount_concat_snapshot (cues : List Cue) :
    snapshotCount (cues ++ [.snapshot]) = snapshotCount cues + 1 := by
  simp [snapshotCount]

theorem sharedTarget_concat_aim (target : Option Guid) (cues : List Cue) (target' : Option Guid) :
    sharedTarget target (cues ++ [.aim target']) = target' := by
  simp [sharedTarget, Cue.aimed?]

theorem sharedTarget_concat_snapshot (target : Option Guid) (cues : List Cue) :
    sharedTarget target (cues ++ [.snapshot]) = sharedTarget target cues := by
  simp [sharedTarget, Cue.aimed?]

/-- A reel with the target that is shared with it, and all that it has shown so far. -/
structure Showing where
  reel : Reel
  target : Option Guid
  shown : List World := []

namespace Showing

def opening (frames : List World) (target : Option Guid) : Showing where
  reel := { pending := frames }
  target := target

def step (s : Showing) : Cue → Showing
  | .aim target => { s with target }
  | .snapshot =>
      let (world, reel) := s.reel.snapshot s.target
      { s with reel, shown := s.shown ++ [world] }

def after (s : Showing) (cues : List Cue) : Showing :=
  cues.foldl step s

end Showing

/-! ## The reel alone -/

/-- A reel of `frames` that has been wound on `k` times. -/
def wound (frames : List World) (k : ℕ) : Reel where
  pending := frames.drop k
  last := (frames.take k).getLast?.getD World.empty
  stopRequested := decide (1 ≤ k ∧ frames.length ≤ k)

theorem advance_wound (frames : List World) (k : ℕ) :
    (wound frames k).advance = wound frames (k + 1) := by
  have hlast : (frames.drop k).head?.getD ((frames.take k).getLast?.getD World.empty) =
      (frames.take (k + 1)).getLast?.getD World.empty := by
    rw [List.take_add_one, List.getLast?_append, List.head?_drop]
    cases frames[k]? <;> simp
  have hstop : (decide (1 ≤ k ∧ frames.length ≤ k) || (frames.drop (k + 1)).isEmpty) =
      decide (1 ≤ k + 1 ∧ frames.length ≤ k + 1) := by
    rw [Bool.eq_iff_iff]
    simp only [Bool.or_eq_true, decide_eq_true_eq, List.isEmpty_iff, List.drop_eq_nil_iff]
    omega
  simp only [advance, wound, List.tail_drop, hlast, hstop]

theorem last_wound_succ (frames : List World) (k : ℕ) :
    (wound frames (k + 1)).last = frames[min (k + 1) frames.length - 1]?.getD World.empty := by
  have hindex : min (k + 1) frames.length - 1 < k + 1 := by omega
  simp only [wound]
  rw [List.getLast?_eq_getElem?, List.length_take, List.getElem?_take, if_pos hindex]

/-! ## Snapshots and changes of the target -/

namespace Showing

/-- What any number of cues keep: the reel has been wound on once for each snapshot, and each of
them has added a world to those shown. -/
structure Stands (frames : List World) (target : Option Guid) (cues : List Cue) (s : Showing) :
    Prop where
  reel_eq : s.reel = wound frames (snapshotCount cues)
  target_eq : s.target = sharedTarget target cues
  length_shown : s.shown.length = snapshotCount cues

variable {frames : List World} {target : Option Guid} {cues : List Cue} {s : Showing}

theorem stands_opening (frames : List World) (target : Option Guid) :
    (opening frames target).Stands frames target [] :=
  ⟨rfl, rfl, rfl⟩

theorem Stands.afterAim (h : s.Stands frames target cues) (target' : Option Guid) :
    (s.step (.aim target')).Stands frames target (cues ++ [.aim target']) := by
  constructor
  · rw [snapshotCount_concat_aim]
    exact h.reel_eq
  · rw [sharedTarget_concat_aim]
    rfl
  · rw [snapshotCount_concat_aim]
    exact h.length_shown

theorem Stands.afterSnapshot (h : s.Stands frames target cues) :
    (s.step .snapshot).Stands frames target (cues ++ [.snapshot]) := by
  constructor
  · rw [snapshotCount_concat_snapshot, ← advance_wound, ← h.reel_eq]
    rfl
  · rw [sharedTarget_concat_snapshot]
    exact h.target_eq
  · rw [snapshotCount_concat_snapshot, ← h.length_shown]
    exact List.length_append

theorem after_append (s : Showing) (first second : List Cue) :
    s.after (first ++ second) = (s.after first).after second :=
  List.foldl_append

theorem stands_after (frames : List World) (target : Option Guid) (cues : List Cue) :
    ((opening frames target).after cues).Stands frames target cues := by
  induction cues using List.reverseRecOn with
  | nil => exact stands_opening frames target
  | append_singleton cues cue ih =>
      rw [after_append]
      cases cue with
      | aim target' => exact ih.afterAim target'
      | snapshot => exact ih.afterSnapshot

theorem shown_prefix_after (s : Showing) (cues : List Cue) : s.shown <+: (s.after cues).shown := by
  induction cues generalizing s with
  | nil => exact List.prefix_rfl
  | cons cue rest ih =>
      have hstep : s.shown <+: (s.step cue).shown := by
        cases cue with
        | aim target => exact List.prefix_rfl
        | snapshot => exact List.prefix_append _ _
      exact hstep.trans (ih (s.step cue))

/-- The frame of the next snapshot, with the shared target in it if there is one. -/
theorem Stands.shown_snapshot (h : s.Stands frames target cues) :
    (s.step .snapshot).shown = s.shown ++
      [(frames[min (snapshotCount cues + 1) frames.length - 1]?.getD World.empty).retarget
        (sharedTarget target cues)] := by
  rw [step, Reel.snapshot, h.reel_eq, h.target_eq, advance_wound, last_wound_succ]

/-- Whatever happens before and after it, the `k`-th snapshot is of frame `k`, or of the last frame
if there are fewer, in which only the target that is shared at that moment takes the place of the
frame's own.  Once nothing is shared any more the next snapshot is the frame as it is.  A stop has
been requested after some snapshots exactly if there have been one and as many as frames. -/
theorem shows_frame_by_frame (frames : List World) (target : Option Guid)
    (before later : List Cue) :
    let calls := snapshotCount before
    let k := calls + 1
    let frame := frames[min k frames.length - 1]?.getD World.empty
    let shared := sharedTarget target before
    ((opening frames target).after (before ++ .snapshot :: later)).shown[k - 1]? =
        some { frame with target := shared.or frame.target } ∧
      ((opening frames target).after (before ++ [.aim none, .snapshot])).shown.getLast? =
        some frame ∧
      (((opening frames target).after before).reel.stopRequested = true ↔
        1 ≤ calls ∧ frames.length ≤ calls) := by
  intro calls k frame shared
  have h := stands_after frames target before
  refine ⟨?_, ?_, ?_⟩
  · obtain ⟨rest, hrest⟩ :=
      shown_prefix_after (((opening frames target).after before).step .snapshot) later
    have hshown : ((opening frames target).after (before ++ .snapshot :: later)).shown =
        ((opening frames target).after before).shown ++ frame.retarget shared :: rest := by
      rw [after_append, after, List.foldl_cons, ← after, ← hrest, h.shown_snapshot,
        List.append_assoc]
      rfl
    have hindex : k - 1 = ((opening frames target).after before).shown.length :=
      h.length_shown.symm
    rw [hshown, hindex, List.getElem?_append_right (Nat.le_refl _), Nat.sub_self]
    rfl
  · have hshown := (h.afterAim none).shown_snapshot
    rw [snapshotCount_concat_aim, sharedTarget_concat_aim] at hshown
    rw [after_append]
    exact (congrArg List.getLast? hshown).trans List.getLast?_concat
  · rw [h.reel_eq, wound, decide_eq_true_eq]

/-- The target of the second snapshot is gone from the third, which repeats the last frame. -/
example :
    let frames : List World := [{ now := ⟨0⟩ }, { now := ⟨1⟩, target := some ⟨9⟩ }]
    ((opening frames none).after
        [.snapshot, .aim (some ⟨4⟩), .snapshot, .aim none, .snapshot]).shown =
      [{ now := ⟨0⟩ }, { now := ⟨1⟩, target := some ⟨4⟩ }, { now := ⟨1⟩, target := some ⟨9⟩ }] := by
  decide

end Showing

end Encounter.Reel
