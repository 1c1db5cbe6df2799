import MacFuse.Session

/-!
# The asynchronous mount

On the Apple build `fuse_mount_common` hands `fuse_kern_mount` a mount context and a completion
callback. The call returns a descriptor at once and the callback `fuse_mount_callback` fires
later, exactly once, on another thread, with the mount's status. The orchestrator holds the
context's lock from before the mount until it has stored the channel in the context; the
callback takes the lock, attaches the volume's disk to the channel, and destroys the context.

The orchestrator runs one statement per step. The callback's locked section is one step, since
nothing else takes the lock while it holds it, and it destroys the context in the same step.
`fuse_kern_mount`, `fuse_kern_chan_new` and `DADiskCreateFromVolumePath` may give any result.
-/

namespace MacFuse

/-- Where `fuse_mount_common` is. -/
inductive MountPc where
  | start
  /-- After `fuse_mount_context_new`, the `/dev/null` loop and `pthread_mutex_lock`. -/
  | locked
  /-- `fuse_kern_mount` returned the descriptor `fd`. -/
  | mounted (fd : Nat)
  /-- `fuse_kern_chan_new(fd)` returned `ch` (`0`: `NULL`). -/
  | created (fd ch : Nat)
  /-- After the retain and the store into the context, or the `fuse_kern_unmount`. -/
  | stored (ch : Nat)
  /-- Unlocked, and returned `ch`. -/
  | returned (ch : Nat)
  deriving DecidableEq, Repr

/-- Where the completion callback is. -/
inductive CallbackPc where
  /-- Not going to fire: `fuse_kern_mount` has not returned a descriptor. -/
  | idle
  /-- Going to fire once. -/
  | armed
  | done
  deriving DecidableEq, Repr

/-- The mount: the heap, the context (its `ch` field while it is allocated), who holds its lock,
both threads, and what was observed. -/
structure MountState where
  heap : Heap
  /-- The kernel channel's callbacks and buffer size, which `fuse_kern_chan_new` uses. -/
  kernOps : FuseChanOps
  kernBufsize : Nat
  /-- `mc->ch` while the context is allocated. -/
  mc : Option Nat
  /-- The orchestrator holds `mc->lock`. -/
  locked : Bool
  pc : MountPc
  cb : CallbackPc
  /-- The calls of `fuse_mount_context_destroy`. -/
  destroys : Nat
  /-- The value of `mc->ch` the callback read. -/
  cbRead : Option Nat
  /-- The channel the callback passed to `fuse_chan_set_disk`. -/
  setDiskOn : Option Nat
  /-- The `fuse_kern_unmount(disk, fd)` calls. -/
  unmounts : List (Nat × Nat)
  /-- The addresses where a channel function found no channel (`NULL`, or freed). -/
  faults : List Nat
  stderr : List String

/-- The mount about to start on `heap`. -/
def MountState.init (heap : Heap) (kernOps : FuseChanOps) (kernBufsize : Nat) : MountState :=
  ⟨heap, kernOps, kernBufsize, none, false, .start, .idle, 0, none, none, [], [], []⟩

/-- Modelled from the spec: `fuse_kern_chan_new(fd)`, whose file is not among the sources,
creates a channel on `fd` with the kernel channel's callbacks and buffer size and no data, or
fails with an allocation error (`ok = false`) and returns `NULL`. -/
def fuseKernChanNew (h : Heap) (ops : FuseChanOps) (bufsize fd : Nat) (ok : Bool) : Heap × Nat :=
  if ok then fuseChanNew h ops fd bufsize 0 else (h, 0)

/-- Apply a heap call on the channel at `ch`; where it finds no channel the heap stays and the
address is recorded. -/
def MountState.apply (s : MountState) (ch : Nat) (r : Option Heap) : MountState :=
  match r with
  | some h => { s with heap := h }
  | none => { s with faults := s.faults ++ [ch] }

/-- `fuse_mount_context_destroy(mc)`: release the context's channel, if any, and free it. -/
def MountState.contextDestroy (s : MountState) : MountState :=
  let s := match s.mc with
    | some ch => if ch = 0 then s else s.apply ch (fuseChanRelease s.heap ch)
    | none => s
  { s with mc := none, destroys := s.destroys + 1 }

/-- The body of `fuse_mount_callback` under the lock, with `disk` the result of
`DADiskCreateFromVolumePath` (`0`: `NULL`). -/
def MountState.attach (s : MountState) (status : Int) (disk : Nat) : MountState :=
  if status ≠ 0 then
    { s with stderr := s.stderr ++ [s!"fuse: mount failed with error: {status}\n"] }
  else if disk = 0 then s
  else
    let ch := s.mc.getD 0
    let s := { s.apply ch (fuseChanSetDisk s.heap ch disk) with setDiskOn := some ch }
    { s with heap := s.heap.emit (.cfRelease disk) }

/-- What runs next. -/
inductive MountAction where
  /-- `fuse_mount_context_new`, the `/dev/null` loop and `pthread_mutex_lock`. -/
  | begin
  /-- `fuse_kern_mount` returned `fd` (`none`: `-1`). -/
  | kernMount (fd : Option Nat)
  /-- `fuse_kern_chan_new(fd)`, which succeeded when `ok`. -/
  | kernChanNew (ok : Bool)
  /-- `fuse_chan_retain(ch); mc->ch = ch;`, or `fuse_kern_unmount(NULL, fd)` for `NULL`. -/
  | store
  /-- `pthread_mutex_unlock` and the return. -/
  | unlock
  /-- `fuse_mount_callback(mc, status)`, where `DADiskCreateFromVolumePath` gives `disk`. -/
  | callback (status : Int) (disk : Nat)
  deriving DecidableEq, Repr

/-- One step; `none` when it cannot run. -/
def MountState.step (s : MountState) : MountAction → Option MountState
  | .begin =>
    if s.pc = .start then some { s with mc := some 0, locked := true, pc := .locked } else none
  | .kernMount fd =>
    if s.pc = .locked then
      match fd with
      | none => some { s.contextDestroy with locked := false, pc := .returned 0 }
      | some fd => some { s with pc := .mounted fd, cb := .armed }
    else none
  | .kernChanNew ok =>
    match s.pc with
    | .mounted fd =>
      let (h, ch) := fuseKernChanNew s.heap s.kernOps s.kernBufsize fd ok
      some { s with heap := h, pc := .created fd ch }
    | _ => none
  | .store =>
    match s.pc with
    | .created fd ch =>
      if ch ≠ 0 then
        some { s.apply ch (fuseChanRetain s.heap ch) with mc := some ch, pc := .stored ch }
      else some { s with unmounts := s.unmounts ++ [(0, fd)], pc := .stored 0 }
    | _ => none
  | .unlock =>
    match s.pc with
    | .stored ch => some { s with locked := false, pc := .returned ch }
    | _ => none
  | .callback status disk =>
    if s.cb = .armed ∧ s.locked = false then
      some { (s.attach status disk).contextDestroy with cb := .done, cbRead := s.mc }
    else none

/-- Run the steps of a schedule in order; `none` when one of them cannot run. -/
def MountState.run (s : MountState) : List MountAction → Option MountState
  | [] => some s
  | a :: as => (s.step a).bind fun s' => s'.run as

section Simp

variable (s : MountState)

@[simp] theorem MountState.apply_pc (ch : Nat) (r : Option Heap) : (s.apply ch r).pc = s.pc := by
  unfold MountState.apply; split <;> rfl
@[simp] theorem MountState.apply_cb (ch : Nat) (r : Option Heap) : (s.apply ch r).cb = s.cb := by
  unfold MountState.apply; split <;> rfl
@[simp] theorem MountState.apply_mc (ch : Nat) (r : Option Heap) : (s.apply ch r).mc = s.mc := by
  unfold MountState.apply; split <;> rfl
@[simp] theorem MountState.apply_locked (ch : Nat) (r : Option Heap) :
    (s.apply ch r).locked = s.locked := by
  unfold MountState.apply; split <;> rfl
@[simp] theorem MountState.apply_destroys (ch : Nat) (r : Option Heap) :
    (s.apply ch r).destroys = s.destroys := by
  unfold MountState.apply; split <;> rfl
@[simp] theorem MountState.apply_cbRead (ch : Nat) (r : Option Heap) :
    (s.apply ch r).cbRead = s.cbRead := by
  unfold MountState.apply; split <;> rfl
@[simp] theorem MountState.apply_setDiskOn (ch : Nat) (r : Option Heap) :
    (s.apply ch r).setDiskOn = s.setDiskOn := by
  unfold MountState.apply; split <;> rfl

@[simp] theorem MountState.contextDestroy_pc : s.contextDestroy.pc = s.pc := by
  unfold MountState.contextDestroy; split <;> (try split) <;> simp
@[simp] theorem MountState.contextDestroy_cb : s.contextDestroy.cb = s.cb := by
  unfold MountState.contextDestroy; split <;> (try split) <;> simp
@[simp] theorem MountState.contextDestroy_mc : s.contextDestroy.mc = none := rfl
@[simp] theorem MountState.contextDestroy_locked : s.contextDestroy.locked = s.locked := by
  unfold MountState.contextDestroy; split <;> (try split) <;> simp
@[simp] theorem MountState.contextDestroy_destroys :
    s.contextDestroy.destroys = s.destroys + 1 := by
  unfold MountState.contextDestroy; split <;> (try split) <;> simp
@[simp] theorem MountState.contextDestroy_cbRead : s.contextDestroy.cbRead = s.cbRead := by
  unfold MountState.contextDestroy; split <;> (try split) <;> simp
@[simp] theorem MountState.contextDestroy_setDiskOn :
    s.contextDestroy.setDiskOn = s.setDiskOn := by
  unfold MountState.contextDestroy; split <;> (try split) <;> simp

@[simp] theorem MountState.attach_pc (status : Int) (disk : Nat) :
    (s.attach status disk).pc = s.pc := by
  unfold MountState.attach; split_ifs <;> simp
@[simp] theorem MountState.attach_cb (status : Int) (disk : Nat) :
    (s.attach status disk).cb = s.cb := by
  unfold MountState.attach; split_ifs <;> simp
@[simp] theorem MountState.attach_mc (status : Int) (disk : Nat) :
    (s.attach status disk).mc = s.mc := by
  unfold MountState.attach; split_ifs <;> simp
@[simp] theorem MountState.attach_locked (status : Int) (disk : Nat) :
    (s.attach status disk).locked = s.locked := by
  unfold MountState.attach; split_ifs <;> simp
@[simp] theorem MountState.attach_destroys (status : Int) (disk : Nat) :
    (s.attach status disk).destroys = s.destroys := by
  unfold MountState.attach; split_ifs <;> simp
@[simp] theorem MountState.attach_cbRead (status : Int) (disk : Nat) :
    (s.attach status disk).cbRead = s.cbRead := by
  unfold MountState.attach; split_ifs <;> simp

/-- The callback passes to `fuse_chan_set_disk` the channel in the context, when it calls it. -/
theorem MountState.attach_setDiskOn (status : Int) (disk : Nat) :
    (s.attach status disk).setDiskOn = s.setDiskOn ∨
      (s.attach status disk).setDiskOn = some (s.mc.getD 0) := by
  unfold MountState.attach; split_ifs <;> simp

end Simp

/-- What each point of `fuse_mount_common` implies about the context, its lock, the callback and
what the callback saw. Once returned, the callback has not fired, has fired and destroyed the
context after reading the returned channel (and passed that channel to `fuse_chan_set_disk`, if
it called it), or will never fire because the mount failed. -/
def MountState.Phase (s : MountState) : Prop :=
  match s.pc with
  | .start => s.mc = none ∧ s.destroys = 0 ∧ s.cb = .idle ∧ s.locked = false ∧
    s.cbRead = none ∧ s.setDiskOn = none
  | .locked => s.mc = some 0 ∧ s.destroys = 0 ∧ s.cb = .idle ∧ s.locked = true ∧
    s.cbRead = none ∧ s.setDiskOn = none
  | .mounted _ | .created _ _ => s.mc = some 0 ∧ s.destroys = 0 ∧ s.cb = .armed ∧
    s.locked = true ∧ s.cbRead = none ∧ s.setDiskOn = none
  | .stored ch => s.mc = some ch ∧ s.destroys = 0 ∧ s.cb = .armed ∧ s.locked = true ∧
    s.cbRead = none ∧ s.setDiskOn = none
  | .returned ch => s.locked = false ∧
    (s.cb = .idle ∧ ch = 0 ∧ s.mc = none ∧ s.destroys = 1 ∧ s.cbRead = none ∧
      s.setDiskOn = none ∨
     s.cb = .armed ∧ s.mc = some ch ∧ s.destroys = 0 ∧ s.cbRead = none ∧
      s.setDiskOn = none ∨
     s.cb = .done ∧ s.mc = none ∧ s.destroys = 1 ∧ s.cbRead = some ch ∧
      (s.setDiskOn = none ∨ s.setDiskOn = some ch))

theorem MountState.phase_init (h : Heap) (ops : FuseChanOps) (bs : Nat) :
    (MountState.init h ops bs).Phase := by
  simp [MountState.init, MountState.Phase]

section Steps

variable {s s' : MountState}

theorem MountState.Phase.step (hi : s.Phase) {a : MountAction} (hs : s.step a = some s') :
    s'.Phase := by
  cases a with
  | begin =>
    simp only [MountState.step] at hs
    split_ifs at hs with hpc; cases hs
    simp only [MountState.Phase, hpc] at hi
    simp [MountState.Phase, hi]
  | kernMount fd =>
    simp only [MountState.step] at hs
    split_ifs at hs with hpc
    simp only [MountState.Phase, hpc] at hi
    cases fd <;> cases hs <;> simp [MountState.Phase, hi]
  | kernChanNew ok =>
    simp only [MountState.step] at hs
    split at hs
    · rename_i fd hpc
      cases hs
      simp only [MountState.Phase, hpc] at hi
      simp [MountState.Phase, hi]
    · cases hs
  | store =>
    simp only [MountState.step] at hs
    split at hs
    · rename_i fd ch hpc
      simp only [MountState.Phase, hpc] at hi
      split_ifs at hs with hch <;> cases hs
      · simp [MountState.Phase, hi]
      · simp [MountState.Phase, hi, show ch = 0 by simpa using hch]
    · cases hs
  | unlock =>
    simp only [MountState.step] at hs
    split at hs
    · rename_i ch hpc
      cases hs
      simp only [MountState.Phase, hpc] at hi
      simp [MountState.Phase, hi]
    · cases hs
  | callback status disk =>
    simp only [MountState.step] at hs
    split_ifs at hs with hcb
    cases hs
    unfold MountState.Phase at hi ⊢
    split at hi <;> simp only [hcb.1, hcb.2, reduceCtorEq, false_and, and_false, false_or,
      or_false] at hi
    rename_i ch hpc
    obtain ⟨-, -, hmc, hd, hr, hsd⟩ := hi
    have hsd' := MountState.attach_setDiskOn s status disk
    simp only [hsd, hmc, Option.getD_some] at hsd'
    simp [hpc, hmc, hd, hsd', hcb.2]

end Steps

theorem MountState.Phase.run {s s' : MountState} (hi : s.Phase) {t : List MountAction}
    (hr : s.run t = some s') : s'.Phase := by
  induction t generalizing s with
  | nil => cases hr; exact hi
  | cons a t ih =>
    obtain ⟨s₁, hs, hr'⟩ := Option.bind_eq_some.mp hr
    exact ih (hi.step hs) hr'

theorem MountState.Phase.returned {s : MountState} (hi : s.Phase) {ch : Nat}
    (hpc : s.pc = .returned ch) : s.locked = false ∧
    (s.cb = .idle ∧ ch = 0 ∧ s.mc = none ∧ s.destroys = 1 ∧ s.cbRead = none ∧
      s.setDiskOn = none ∨
     s.cb = .armed ∧ s.mc = some ch ∧ s.destroys = 0 ∧ s.cbRead = none ∧
      s.setDiskOn = none ∨
     s.cb = .done ∧ s.mc = none ∧ s.destroys = 1 ∧ s.cbRead = some ch ∧
      (s.setDiskOn = none ∨ s.setDiskOn = some ch)) := by
  simpa [MountState.Phase, hpc] using hi

/-- Before `fuse_mount_common` returns, nobody has destroyed the context or run the callback. -/
theorem MountState.Phase.running {s : MountState} (hi : s.Phase)
    (hpc : ∀ ch, s.pc ≠ .returned ch) :
    s.destroys = 0 ∧ s.cbRead = none ∧ s.setDiskOn = none := by
  unfold MountState.Phase at hi
  split at hi <;> simp_all

/-- Under every result of `fuse_kern_mount`, `fuse_kern_chan_new` and
`DADiskCreateFromVolumePath`, every callback status and every time the callback fires, the
mount context is destroyed at most once, and exactly once when `fuse_mount_common` has returned
and the callback has fired or was never going to. -/
theorem mount_context_destroyed_once (h : Heap) (ops : FuseChanOps) (bs : Nat)
    (t : List MountAction) (s : MountState) (hrun : (MountState.init h ops bs).run t = some s) :
    s.destroys ≤ 1 ∧ ∀ ch, s.pc = .returned ch → s.cb ≠ .armed → s.destroys = 1 := by
  have hi := (MountState.phase_init h ops bs).run hrun
  by_cases hret : ∃ ch, s.pc = .returned ch
  · obtain ⟨ch, hpc⟩ := hret
    have hr := (hi.returned hpc).2
    refine ⟨by omega, fun c hc hcb => ?_⟩
    rcases hr with h | h | h
    · exact h.2.2.2.1
    · exact absurd h.1 hcb
    · exact h.2.2.1
  · have h0 := (hi.running fun ch hch => hret ⟨ch, hch⟩).1
    exact ⟨by omega, fun ch hch => absurd ⟨ch, hch⟩ hret⟩

/-- The descriptor is `5`, `fuse_kern_chan_new` fails, and the mount still completes with
status `0` and a disk. -/
def nullChanMount : List MountAction :=
  [.begin, .kernMount (some 5), .kernChanNew false, .store, .unlock, .callback 0 9]

theorem mount_context_destroyed_once_example :
    (MountState.init Heap.empty ⟨1, 2, 3⟩ 4096).run nullChanMount =
      some (((MountState.init Heap.empty ⟨1, 2, 3⟩ 4096).run nullChanMount).getD
        (MountState.init Heap.empty ⟨1, 2, 3⟩ 4096)) ∧
    (((MountState.init Heap.empty ⟨1, 2, 3⟩ 4096).run nullChanMount).getD
      (MountState.init Heap.empty ⟨1, 2, 3⟩ 4096)).destroys ≤ 1 ∧
    ∀ ch, (((MountState.init Heap.empty ⟨1, 2, 3⟩ 4096).run nullChanMount).getD
      (MountState.init Heap.empty ⟨1, 2, 3⟩ 4096)).pc = .returned ch →
      (((MountState.init Heap.empty ⟨1, 2, 3⟩ 4096).run nullChanMount).getD
        (MountState.init Heap.empty ⟨1, 2, 3⟩ 4096)).cb ≠ .armed →
      (((MountState.init Heap.empty ⟨1, 2, 3⟩ 4096).run nullChanMount).getD
        (MountState.init Heap.empty ⟨1, 2, 3⟩ 4096)).destroys = 1 :=
  have hrun : (MountState.init Heap.empty ⟨1, 2, 3⟩ 4096).run nullChanMount =
      some (((MountState.init Heap.empty ⟨1, 2, 3⟩ 4096).run nullChanMount).getD
        (MountState.init Heap.empty ⟨1, 2, 3⟩ 4096)) := rfl
  ⟨hrun, mount_context_destroyed_once Heap.empty ⟨1, 2, 3⟩ 4096 nullChanMount _ hrun⟩

/-- The callback reads `mc->ch` only once `fuse_mount_common` has stored its final value and
returned: the value it read is the channel `fuse_mount_common` returned, and it is the channel
it passes to `fuse_chan_set_disk`, if it calls it. -/
theorem mount_callback_reads_final_channel (h : Heap) (ops : FuseChanOps) (bs : Nat)
    (t : List MountAction) (s : MountState) (hrun : (MountState.init h ops bs).run t = some s) :
    (∀ v, s.cbRead = some v → s.pc = .returned v) ∧
    (∀ c, s.setDiskOn = some c → s.cbRead = some c) := by
  have hi := (MountState.phase_init h ops bs).run hrun
  by_cases hret : ∃ ch, s.pc = .returned ch
  · obtain ⟨ch, hpc⟩ := hret
    rcases (hi.returned hpc).2 with h | h | h
    · exact ⟨fun v hv => by simp [h.2.2.2.2.1] at hv, fun c hc => by simp [h.2.2.2.2.2] at hc⟩
    · exact ⟨fun v hv => by simp [h.2.2.2.1] at hv, fun c hc => by simp [h.2.2.2.2] at hc⟩
    · obtain ⟨-, -, -, hr, hsd⟩ := h
      refine ⟨fun v hv => by rw [hr] at hv; cases hv; exact hpc, fun c hc => ?_⟩
      rcases hsd with hsd | hsd <;> rw [hsd] at hc <;> cases hc
      exact hr
  · obtain ⟨-, hr, hsd⟩ := hi.running fun ch hch => hret ⟨ch, hch⟩
    exact ⟨fun v hv => by simp [hr] at hv, fun c hc => by simp [hsd] at hc⟩

/-- A mount that completes: descriptor `5`, a channel, status `0` and disk `9`. -/
def goodMount : List MountAction :=
  [.begin, .kernMount (some 5), .kernChanNew true, .store, .unlock, .callback 0 9]

theorem mount_callback_reads_final_channel_example :
    (MountState.init Heap.empty ⟨1, 2, 3⟩ 4096).run goodMount =
      some (((MountState.init Heap.empty ⟨1, 2, 3⟩ 4096).run goodMount).getD
        (MountState.init Heap.empty ⟨1, 2, 3⟩ 4096)) ∧
    (∀ v, (((MountState.init Heap.empty ⟨1, 2, 3⟩ 4096).run goodMount).getD
        (MountState.init Heap.empty ⟨1, 2, 3⟩ 4096)).cbRead = some v →
      (((MountState.init Heap.empty ⟨1, 2, 3⟩ 4096).run goodMount).getD
        (MountState.init Heap.empty ⟨1, 2, 3⟩ 4096)).pc = .returned v) ∧
    (∀ c, (((MountState.init Heap.empty ⟨1, 2, 3⟩ 4096).run goodMount).getD
        (MountState.init Heap.empty ⟨1, 2, 3⟩ 4096)).setDiskOn = some c →
      (((MountState.init Heap.empty ⟨1, 2, 3⟩ 4096).run goodMount).getD
        (MountState.init Heap.empty ⟨1, 2, 3⟩ 4096)).cbRead = some c) :=
  have hrun : (MountState.init Heap.empty ⟨1, 2, 3⟩ 4096).run goodMount =
      some (((MountState.init Heap.empty ⟨1, 2, 3⟩ 4096).run goodMount).getD
        (MountState.init Heap.empty ⟨1, 2, 3⟩ 4096)) := rfl
  ⟨hrun, mount_callback_reads_final_channel Heap.empty ⟨1, 2, 3⟩ 4096 goodMount _ hrun⟩

/-- There the callback passes `NULL` to `fuse_chan_set_disk`, which finds no channel. -/
theorem mount_callback_sets_disk_on_null :
    ((MountState.init Heap.empty ⟨1, 2, 3⟩ 4096).run nullChanMount).map
      (fun s => (s.setDiskOn, s.faults)) = some (some 0, [0]) := rfl

end MacFuse
