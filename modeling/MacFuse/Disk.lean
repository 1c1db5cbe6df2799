import MacFuse.Session

/-!
# The disk slot of a channel

On the Apple build the mount callback attaches a `DADiskRef` to the channel, and the unmount
path reads it back. `fuse_chan_set_disk` retains the new disk before taking the lock, swaps it
in under the lock, and releases the old one after; `fuse_chan_disk` retains the stored disk
under the lock. This file runs any number of these calls concurrently, one locked section or
one unlocked `CFRetain`/`CFRelease` per step, and counts, for every disk, the references the
channel itself holds, the references callers hold, and the CoreFoundation retain count.
-/

namespace MacFuse

/-- A `fuse_chan_set_disk(ch, disk)` call in flight. -/
inductive SetDiskCall where
  /-- After `if (disk) CFRetain(disk)`, before the lock. -/
  | retained (disk : Nat)
  /-- After the locked swap took `old` out, before `if (old) CFRelease(old)`. -/
  | swapped (disk old : Nat)
  deriving DecidableEq, Repr

/-- Whether the caller passed `d`: it holds its own reference to `d` for the whole call. -/
def SetDiskCall.lends (d : Nat) : SetDiskCall → Bool
  | .retained e => d = e
  | .swapped e _ => d = e

/-- Whether the call holds one of the channel's references to `d`: a retained disk not
stored yet, or an old disk swapped out and not released yet. -/
def SetDiskCall.holds (d : Nat) : SetDiskCall → Bool
  | .retained e => d = e
  | .swapped _ o => d = o

@[simp] theorem SetDiskCall.lends_retained (e d : Nat) :
    (SetDiskCall.retained d).lends e = decide (e = d) := rfl
@[simp] theorem SetDiskCall.lends_swapped (e d o : Nat) :
    (SetDiskCall.swapped d o).lends e = decide (e = d) := rfl
@[simp] theorem SetDiskCall.holds_retained (e d : Nat) :
    (SetDiskCall.retained d).holds e = decide (e = d) := rfl
@[simp] theorem SetDiskCall.holds_swapped (e d o : Nat) :
    (SetDiskCall.swapped d o).holds e = decide (e = o) := rfl

/-- One channel, the `set_disk` calls in flight on it, and the disks. -/
structure DiskState where
  chan : FuseChan
  /-- The channel's final `fuse_chan_release` has run. -/
  freed : Bool
  calls : List SetDiskCall
  /-- The references callers hold on each disk, apart from those they pass to a `set_disk`
  call in flight: disks they created, and disks `fuse_chan_disk` returned to them. -/
  held : Nat → Nat
  /-- The CoreFoundation retain count of each disk. -/
  cf : Nat → Int
  /-- The retains minus the releases of each disk made on the channel's behalf: by
  `set_disk` (the new disk in, the old disk out) and by the final release. -/
  contrib : Nat → Int

/-- A live channel with its disk (or none), owning the one reference to it. -/
def DiskState.init (c : FuseChan) : DiskState :=
  ⟨c, false, [], fun _ => 0, fun d => if d ≠ 0 ∧ d = c.disk then 1 else 0,
    fun d => if d ≠ 0 ∧ d = c.disk then 1 else 0⟩

/-- `if (d) CFRetain(d)`, made on the channel's behalf when `byChan`. -/
def DiskState.retainDisk (s : DiskState) (d : Nat) (byChan : Bool) : DiskState :=
  if d = 0 then s else
    { s with cf := Function.update s.cf d (s.cf d + 1),
             contrib := if byChan then Function.update s.contrib d (s.contrib d + 1)
               else s.contrib }

/-- `if (d) CFRelease(d)`, made on the channel's behalf when `byChan`. -/
def DiskState.releaseDisk (s : DiskState) (d : Nat) (byChan : Bool) : DiskState :=
  if d = 0 then s else
    { s with cf := Function.update s.cf d (s.cf d - 1),
             contrib := if byChan then Function.update s.contrib d (s.contrib d - 1)
               else s.contrib }

/-- Change by `k` the references callers hold on `d`, when `d` is not `NULL`. -/
def DiskState.adjustHeld (s : DiskState) (d : Nat) (k : Int) : DiskState :=
  if d = 0 then s else { s with held := Function.update s.held d (s.held d + k).toNat }

/-- What runs next. -/
inductive DiskAction where
  /-- A caller creates a disk (`DADiskCreateFromVolumePath`) and holds its one reference. -/
  | create (d : Nat)
  /-- `fuse_chan_set_disk(ch, d)` starts, up to its `CFRetain`; the caller holds a reference
  to `d` (unless `d` is `NULL`, as for `fuse_chan_cleardisk`). -/
  | setBegin (d : Nat)
  /-- The locked swap of the call on `d`. -/
  | setSwap (d : Nat)
  /-- The `CFRelease(old)` of the call on `d` that swapped `old` out, and its return. -/
  | setEnd (d old : Nat)
  /-- `fuse_chan_disk(ch)`: the locked read and retain; the caller holds what it got. -/
  | get
  /-- A caller releases a reference it holds. -/
  | put (d : Nat)
  /-- The channel's final `fuse_chan_release`, after the calls: `CFRelease(ch->disk)`. -/
  | release
  deriving DecidableEq, Repr

/-- One step; `none` when it cannot run. The locked sections are the channel's own. -/
def DiskState.step (s : DiskState) : DiskAction → Option DiskState
  | .create d =>
    if d ≠ 0 ∧ s.cf d = 0 then some ((s.retainDisk d false).adjustHeld d 1) else none
  | .setBegin d =>
    if s.freed = false ∧ (d = 0 ∨ 0 < s.held d) then
      some { (s.retainDisk d true).adjustHeld d (-1) with calls := s.calls ++ [.retained d] }
    else none
  | .setSwap d =>
    if s.freed = false ∧ .retained d ∈ s.calls then
      let (c, old) := s.chan.setDiskSection d
      some { s with chan := c, calls := s.calls.erase (.retained d) ++ [.swapped d old] }
    else none
  | .setEnd d old =>
    if .swapped d old ∈ s.calls then
      some { (s.releaseDisk old true).adjustHeld d 1 with
        calls := s.calls.erase (.swapped d old) }
    else none
  | .get =>
    if s.freed = false then
      some ((s.retainDisk s.chan.diskSection false).adjustHeld s.chan.diskSection 1)
    else none
  | .put d =>
    if d ≠ 0 ∧ 0 < s.held d then some ((s.releaseDisk d false).adjustHeld d (-1)) else none
  | .release =>
    if s.freed = false ∧ s.calls = [] then
      some { s.releaseDisk s.chan.disk true with freed := true }
    else none

/-- The states reachable from a live channel by any schedule. -/
inductive DiskReachable (c : FuseChan) : DiskState → Prop where
  | init : DiskReachable c (DiskState.init c)
  | step {s s' : DiskState} (a : DiskAction) :
      DiskReachable c s → s.step a = some s' → DiskReachable c s'

/-- Run the steps of a schedule in order; `none` when one of them cannot run. -/
def DiskState.run (s : DiskState) : List DiskAction → Option DiskState
  | [] => some s
  | a :: as => (s.step a).bind fun s' => s'.run as

theorem DiskReachable.run {c : FuseChan} {s s' : DiskState} (as : List DiskAction)
    (h : DiskReachable c s) (hr : s.run as = some s') : DiskReachable c s' := by
  induction as generalizing s with
  | nil => cases hr; exact h
  | cons a as ih =>
    obtain ⟨s₁, hs, hr'⟩ := Option.bind_eq_some.mp hr
    exact ih (.step a h hs) hr'

/-- The references the channel holds on `d`: the stored disk while the channel is alive, and
those the `set_disk` calls in flight hold. -/
def DiskState.chanRefs (s : DiskState) (d : Nat) : Int :=
  (if s.freed = false ∧ d = s.chan.disk then 1 else 0) + (s.calls.countP (SetDiskCall.holds d) : Nat)

/-- The accounting of every disk: its retain count is the callers' references, those passed
to `set_disk` calls in flight, and the channel's; the channel's are exactly `chanRefs`; and
nothing is in flight once the channel is freed. -/
structure DiskInv (s : DiskState) : Prop where
  cf_eq : ∀ {d}, d ≠ 0 →
    s.cf d = s.held d + (s.calls.countP (SetDiskCall.lends d) : Nat) + s.contrib d
  contrib_eq : ∀ {d}, d ≠ 0 → s.contrib d = s.chanRefs d
  freed_calls : s.freed = true → s.calls = []

theorem DiskInv.init (c : FuseChan) : DiskInv (DiskState.init c) :=
  ⟨fun _ => by simp [DiskState.init], fun {d} hd => by
    by_cases h : d = c.disk
    · subst h; simp [DiskState.init, DiskState.chanRefs, hd]
    · simp [DiskState.init, DiskState.chanRefs, h],
    fun h => by simp [DiskState.init] at h⟩

/-- Counting over a list with one occurrence of `a` erased. -/
theorem countP_erase_add {α : Type} [DecidableEq α] {p : α → Bool} {l : List α} {a : α}
    (h : a ∈ l) : (l.erase a).countP p + (if p a then 1 else 0) = l.countP p := by
  rw [(List.perm_cons_erase h).countP_eq p, List.countP_cons]

section Steps

variable {s s' : DiskState}

section Counts

variable (s : DiskState) {e : Nat} (he : e ≠ 0) (d : Nat) (b : Bool) (k : Int)
include he

@[simp] theorem DiskState.retainDisk_cf :
    (s.retainDisk d b).cf e = s.cf e + if e = d then 1 else 0 := by
  unfold DiskState.retainDisk; split
  · simp_all
  · by_cases hed : e = d <;> simp [Function.update_apply, hed]
@[simp] theorem DiskState.retainDisk_contrib :
    (s.retainDisk d b).contrib e = s.contrib e + if b ∧ e = d then 1 else 0 := by
  unfold DiskState.retainDisk; split
  · simp_all
  · cases b <;> by_cases hed : e = d <;> simp [Function.update_apply, hed]
@[simp] theorem DiskState.releaseDisk_cf :
    (s.releaseDisk d b).cf e = s.cf e - if e = d then 1 else 0 := by
  unfold DiskState.releaseDisk; split
  · simp_all
  · by_cases hed : e = d <;> simp [Function.update_apply, hed]
@[simp] theorem DiskState.releaseDisk_contrib :
    (s.releaseDisk d b).contrib e = s.contrib e - if b ∧ e = d then 1 else 0 := by
  unfold DiskState.releaseDisk; split
  · simp_all
  · cases b <;> by_cases hed : e = d <;> simp [Function.update_apply, hed]
@[simp] theorem DiskState.adjustHeld_held :
    (s.adjustHeld d k).held e = if e = d then (s.held e + k).toNat else s.held e := by
  unfold DiskState.adjustHeld; split
  · simp_all
  · by_cases hed : e = d <;> simp [Function.update_apply, hed]

end Counts

@[simp] theorem DiskState.retainDisk_chan (s : DiskState) (d : Nat) (b : Bool) :
    (s.retainDisk d b).chan = s.chan := by unfold DiskState.retainDisk; split <;> rfl
@[simp] theorem DiskState.retainDisk_freed (s : DiskState) (d : Nat) (b : Bool) :
    (s.retainDisk d b).freed = s.freed := by unfold DiskState.retainDisk; split <;> rfl
@[simp] theorem DiskState.retainDisk_calls (s : DiskState) (d : Nat) (b : Bool) :
    (s.retainDisk d b).calls = s.calls := by unfold DiskState.retainDisk; split <;> rfl
@[simp] theorem DiskState.retainDisk_held (s : DiskState) (d : Nat) (b : Bool) :
    (s.retainDisk d b).held = s.held := by unfold DiskState.retainDisk; split <;> rfl
@[simp] theorem DiskState.releaseDisk_chan (s : DiskState) (d : Nat) (b : Bool) :
    (s.releaseDisk d b).chan = s.chan := by unfold DiskState.releaseDisk; split <;> rfl
@[simp] theorem DiskState.releaseDisk_freed (s : DiskState) (d : Nat) (b : Bool) :
    (s.releaseDisk d b).freed = s.freed := by unfold DiskState.releaseDisk; split <;> rfl
@[simp] theorem DiskState.releaseDisk_calls (s : DiskState) (d : Nat) (b : Bool) :
    (s.releaseDisk d b).calls = s.calls := by unfold DiskState.releaseDisk; split <;> rfl
@[simp] theorem DiskState.releaseDisk_held (s : DiskState) (d : Nat) (b : Bool) :
    (s.releaseDisk d b).held = s.held := by unfold DiskState.releaseDisk; split <;> rfl
@[simp] theorem DiskState.adjustHeld_chan (s : DiskState) (d : Nat) (k : Int) :
    (s.adjustHeld d k).chan = s.chan := by unfold DiskState.adjustHeld; split <;> rfl
@[simp] theorem DiskState.adjustHeld_freed (s : DiskState) (d : Nat) (k : Int) :
    (s.adjustHeld d k).freed = s.freed := by unfold DiskState.adjustHeld; split <;> rfl
@[simp] theorem DiskState.adjustHeld_calls (s : DiskState) (d : Nat) (k : Int) :
    (s.adjustHeld d k).calls = s.calls := by unfold DiskState.adjustHeld; split <;> rfl
@[simp] theorem DiskState.adjustHeld_cf (s : DiskState) (d : Nat) (k : Int) :
    (s.adjustHeld d k).cf = s.cf := by unfold DiskState.adjustHeld; split <;> rfl
@[simp] theorem DiskState.adjustHeld_contrib (s : DiskState) (d : Nat) (k : Int) :
    (s.adjustHeld d k).contrib = s.contrib := by unfold DiskState.adjustHeld; split <;> rfl

theorem DiskInv.chanRefs_nonneg (hi : DiskInv s) {e : Nat} (he : e ≠ 0) : 0 ≤ s.contrib e := by
  rw [hi.contrib_eq he, DiskState.chanRefs]; split <;> omega

theorem DiskInv.create (hi : DiskInv s) {d : Nat} (hs : s.step (.create d) = some s') :
    DiskInv s' := by
  simp only [DiskState.step] at hs
  split_ifs at hs with hc
  cases hs
  refine ⟨fun {e} he => ?_, fun {e} he => ?_,
    fun h => by simpa using hi.freed_calls (by simpa using h)⟩
  · have hcf := hi.cf_eq he
    have := hi.chanRefs_nonneg he
    by_cases hed : e = d
    · subst hed; simp [he, hc.2] at hcf ⊢; omega
    · simp [he, hed, hcf]
  · simpa [he, DiskState.chanRefs] using hi.contrib_eq he

theorem DiskInv.setBegin (hi : DiskInv s) {d : Nat} (hs : s.step (.setBegin d) = some s') :
    DiskInv s' := by
  simp only [DiskState.step] at hs
  split_ifs at hs with hc
  cases hs
  refine ⟨fun {e} he => ?_, fun {e} he => ?_, fun h => by simp [hc.1] at h⟩
  · have hcf := hi.cf_eq he
    by_cases hed : e = d
    · subst hed
      have : 0 < s.held e := by omega
      simp [he] at hcf ⊢; omega
    · simp [he, hed, hcf]
  · have hct := hi.contrib_eq he
    by_cases hed : e = d
    · subst hed; simp [he, DiskState.chanRefs] at hct ⊢; omega
    · simpa [he, hed, DiskState.chanRefs] using hct

theorem DiskInv.setSwap (hi : DiskInv s) {d : Nat} (hs : s.step (.setSwap d) = some s') :
    DiskInv s' := by
  simp only [DiskState.step] at hs
  split_ifs at hs with hc
  cases hs
  refine ⟨fun {e} he => ?_, fun {e} he => ?_, fun h => by simp [hc.1] at h⟩
  · have hlend := countP_erase_add (p := SetDiskCall.lends e) hc.2
    rw [SetDiskCall.lends_retained] at hlend
    have hcf := hi.cf_eq he
    simp only [List.countP_append, List.countP_cons, List.countP_nil,
      SetDiskCall.lends_swapped, FuseChan.setDiskSection]
    rw [← hlend] at hcf
    push_cast at hcf ⊢
    omega
  · have hhold := countP_erase_add (p := SetDiskCall.holds e) hc.2
    rw [SetDiskCall.holds_retained] at hhold
    have hct := hi.contrib_eq he
    simp only [DiskState.chanRefs, hc.1, List.countP_append, List.countP_cons, List.countP_nil,
      SetDiskCall.holds_swapped, FuseChan.setDiskSection] at hct ⊢
    rw [← hhold] at hct
    push_cast at hct ⊢
    simp only [decide_eq_true_eq, true_and] at hct ⊢
    split_ifs at hct ⊢ <;> omega

theorem DiskInv.setEnd (hi : DiskInv s) {d old : Nat} (hs : s.step (.setEnd d old) = some s') :
    DiskInv s' := by
  simp only [DiskState.step] at hs
  split_ifs at hs with hc
  cases hs
  have hfr : s.freed = false := by
    cases hf : s.freed
    · rfl
    · simp [hi.freed_calls hf] at hc
  refine ⟨fun {e} he => ?_, fun {e} he => ?_, fun h => by simp [hfr] at h⟩
  · have hlend := countP_erase_add (p := SetDiskCall.lends e) hc
    rw [SetDiskCall.lends_swapped] at hlend
    have hcf := hi.cf_eq he
    have hct := hi.contrib_eq he
    have hhold := countP_erase_add (p := SetDiskCall.holds e) hc
    rw [SetDiskCall.holds_swapped] at hhold
    rw [← hlend] at hcf
    rw [DiskState.chanRefs, ← hhold] at hct
    simp only [he, ne_eq, not_false_eq_true, DiskState.adjustHeld_held,
      DiskState.releaseDisk_cf, DiskState.releaseDisk_contrib, DiskState.adjustHeld_cf,
      DiskState.adjustHeld_contrib, DiskState.adjustHeld_calls, DiskState.releaseDisk_held,
      DiskState.releaseDisk_calls]
    push_cast at hcf hct ⊢
    simp only [decide_eq_true_eq, true_and] at hcf hct ⊢
    split_ifs at hcf hct ⊢ <;> omega
  · have hct := hi.contrib_eq he
    have hhold := countP_erase_add (p := SetDiskCall.holds e) hc
    rw [SetDiskCall.holds_swapped] at hhold
    rw [DiskState.chanRefs, ← hhold] at hct
    simp only [DiskState.chanRefs, he, ne_eq, not_false_eq_true, DiskState.releaseDisk_contrib,
      DiskState.adjustHeld_contrib, DiskState.adjustHeld_freed, DiskState.releaseDisk_freed,
      DiskState.adjustHeld_chan, DiskState.releaseDisk_chan, DiskState.adjustHeld_calls,
      DiskState.releaseDisk_calls]
    push_cast at hct ⊢
    simp only [decide_eq_true_eq, true_and] at hct ⊢
    split_ifs at hct ⊢ <;> omega

theorem DiskInv.get (hi : DiskInv s) (hs : s.step .get = some s') : DiskInv s' := by
  simp only [DiskState.step] at hs
  split_ifs at hs with hc
  cases hs
  refine ⟨fun {e} he => ?_, fun {e} he => ?_, fun h => by simp [hc] at h⟩
  · have hcf := hi.cf_eq he
    by_cases hed : e = s.chan.diskSection
    · subst hed; simp [he] at hcf ⊢; omega
    · simp [he, hed, hcf]
  · simpa [he, DiskState.chanRefs] using hi.contrib_eq he

theorem DiskInv.put (hi : DiskInv s) {d : Nat} (hs : s.step (.put d) = some s') : DiskInv s' := by
  simp only [DiskState.step] at hs
  split_ifs at hs with hc
  cases hs
  refine ⟨fun {e} he => ?_, fun {e} he => ?_,
    fun h => by simpa using hi.freed_calls (by simpa using h)⟩
  · have hcf := hi.cf_eq he
    by_cases hed : e = d
    · subst hed; simp [he] at hcf ⊢; omega
    · simp [he, hed, hcf]
  · simpa [he, DiskState.chanRefs] using hi.contrib_eq he

theorem DiskInv.release (hi : DiskInv s) (hs : s.step .release = some s') : DiskInv s' := by
  simp only [DiskState.step] at hs
  split_ifs at hs with hc
  cases hs
  refine ⟨fun {e} he => ?_, fun {e} he => ?_, fun _ => by simp [hc.2]⟩
  · have hcf := hi.cf_eq he
    by_cases hed : e = s.chan.disk
    · subst hed; simp [he, hc.2] at hcf ⊢; omega
    · simp [he, hed, hcf, hc.2]
  · have hct := hi.contrib_eq he
    by_cases hed : e = s.chan.disk
    · subst hed; simp [he, DiskState.chanRefs, hc.1, hc.2] at hct ⊢; omega
    · simpa [he, hed, DiskState.chanRefs, hc.1, hc.2] using hct

/-- Every step keeps the accounting. -/
theorem DiskInv.step (hi : DiskInv s) {a : DiskAction} (hs : s.step a = some s') :
    DiskInv s' := by
  cases a with
  | create d => exact hi.create hs
  | setBegin d => exact hi.setBegin hs
  | setSwap d => exact hi.setSwap hs
  | setEnd d old => exact hi.setEnd hs
  | get => exact hi.get hs
  | put d => exact hi.put hs
  | release => exact hi.release hs

end Steps

theorem DiskReachable.inv {c : FuseChan} {s : DiskState} (h : DiskReachable c s) : DiskInv s := by
  induction h with
  | init => exact DiskInv.init c
  | step _ _ hs ih => exact ih.step hs

/-- Under every schedule of `set_disk`, `cleardisk` and `fuse_chan_disk` calls and the final
release, the channel's net retains of each disk are the references it holds: the stored disk
while it is alive, and those its `set_disk` calls in flight hold. So with no call in flight
they are one for the stored disk and zero for every other; a disk a caller holds keeps a retain
count of at least one; and after the final release the channel's net retains are zero. -/
theorem set_disk_refs_balanced {c : FuseChan} {s : DiskState} (h : DiskReachable c s) {d : Nat}
    (hd : d ≠ 0) :
    s.contrib d = s.chanRefs d ∧
    (s.calls = [] → s.contrib d = if s.freed = false ∧ d = s.chan.disk then 1 else 0) ∧
    (0 < s.held d → 1 ≤ s.cf d) ∧
    (s.freed = true → s.contrib d = 0) := by
  have hi := h.inv
  have hct := hi.contrib_eq hd
  have hcf := hi.cf_eq hd
  have := hi.chanRefs_nonneg hd
  refine ⟨hct, fun hc => by simp [hct, DiskState.chanRefs, hc], fun hh => by omega,
    fun hf => by simp [hct, DiskState.chanRefs, hf, hi.freed_calls hf]⟩

/-- A channel with no disk yet. -/
def diskChan : FuseChan := ⟨1, ⟨8, 9, 0⟩, 0, 3, 0, 4096, 0, 0⟩

/-- Disk `5` is set on the channel; then disk `6` is being set, and its call has swapped `5`
out but not released it yet. -/
def diskInFlight : DiskState :=
  ((DiskState.init diskChan).run
    [.create 5, .setBegin 5, .setSwap 5, .setEnd 5 0, .create 6, .setBegin 6, .setSwap 6]).getD
    (DiskState.init diskChan)

theorem set_disk_refs_balanced_example :
    DiskReachable diskChan diskInFlight ∧ (5 : Nat) ≠ 0 ∧
      diskInFlight.contrib 5 = diskInFlight.chanRefs 5 ∧
      (diskInFlight.calls = [] → diskInFlight.contrib 5 =
        if diskInFlight.freed = false ∧ 5 = diskInFlight.chan.disk then 1 else 0) ∧
      (0 < diskInFlight.held 5 → 1 ≤ diskInFlight.cf 5) ∧
      (diskInFlight.freed = true → diskInFlight.contrib 5 = 0) :=
  have h : DiskReachable diskChan diskInFlight := DiskReachable.run
    [.create 5, .setBegin 5, .setSwap 5, .setEnd 5 0, .create 6, .setBegin 6, .setSwap 6] .init rfl
  ⟨h, by decide, set_disk_refs_balanced h (by decide)⟩

/-- In that state `6` is stored and the channel still holds its retain of `5`: it holds one
net retain of each. -/
theorem set_disk_in_flight_retains_two_disks :
    DiskReachable diskChan diskInFlight ∧ diskInFlight.chan.disk = 6 ∧
      diskInFlight.contrib 5 = 1 ∧ diskInFlight.contrib 6 = 1 :=
  ⟨DiskReachable.run
    [.create 5, .setBegin 5, .setSwap 5, .setEnd 5 0, .create 6, .setBegin 6, .setSwap 6] .init rfl,
    by decide, by decide, by decide⟩

end MacFuse
