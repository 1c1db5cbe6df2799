import MacFuse.Mount
import MacFuse.Signals
import MacFuse.LoopDispatch

/-!
# The life of a mounted channel

On the Apple build three parties use the kernel channel. The orchestrator runs
`fuse_setup_common`, the dispatch loop with the blocks it submits, and `fuse_teardown_common`
(or the `err_unmount` path of a failed setup). The mount completion callback fires once, some time
after `fuse_kern_mount` returned a descriptor. And every signal whose source is registered runs
`exit_handler` on the signal queue, which unmounts the session's channel.

The orchestrator takes one library call a step. The callback is its step of the mount model, and
one signal event runs all of `exit_handler`. Each party reads the channel through the heap of
`Session`, so a call on a channel that was freed is seen as a fault at its address.
-/

namespace MacFuse

/-- Where the orchestrator is. -/
inductive OrchPc where
  /-- Inside `fuse_mount_common`, where the mount model's `pc` says. -/
  | mounting
  /-- `fuse_new_common` returned; next `fuse_daemonize`. -/
  | daemonize (ch : Nat)
  | setHandlers (ch : Nat)
  /-- Setup returned; the dispatch loop calls `fuse_session_next_chan(se, NULL)`. -/
  | loopNextChan
  | loopBufsize (ch : Nat)
  /-- The reader's loop on `ch`. -/
  | loop (ch : Nat)
  /-- `dispatch_group_wait`: the loop has ended and waits for its blocks. -/
  | loopWait (ch : Nat)
  /-- `fuse_teardown_common` calls `fuse_session_next_chan(se, NULL)`. -/
  | tdNextChan
  | tdRemove (ch : Nat)
  /-- `fuse_unmount_common(mountpoint, ch)`, followed by `fuse_destroy(fuse)` when `destroy`. -/
  | unmountDisk (ch : Nat) (destroy : Bool)
  | unmountFd (ch disk : Nat) (destroy : Bool)
  | unmountEnd (ch disk : Nat) (destroy : Bool)
  | fuseDestroy
  | done
  deriving DecidableEq, Repr

/-- The whole process: the mount (with the heap and the callback), the signal state, the
orchestrator, the blocks in flight, and the channels `fuse_chan_destroy` was applied to. -/
structure LifeState where
  mount : MountState
  sig : SigState
  pc : OrchPc
  /-- `fuse`, by the address of its session (`0`: `NULL`). -/
  se : Nat
  /-- The channel (`tmpch`) of each block submitted and not yet run. -/
  blocks : List Nat
  destroyed : List Nat

/-- The process before `fuse_setup_common`, on `heap` and with the signal state `sig`. -/
def LifeState.init (heap : Heap) (kernOps : FuseChanOps) (kernBufsize : Nat) (sig : SigState) :
    LifeState :=
  ⟨MountState.init heap kernOps kernBufsize, sig, .mounting, 0, [], []⟩

namespace LifeState

/-- Replace the heap. -/
def withHeap (s : LifeState) (h : Heap) : LifeState :=
  { s with mount := { s.mount with heap := h } }

/-- Apply a heap call on the object at `a`, as `MountState.apply`. -/
def apply (s : LifeState) (a : Nat) (r : Option Heap) : LifeState :=
  { s with mount := s.mount.apply a r }

/-- A channel function that only reads the channel at `ch` (`fuse_chan_fd`, `fuse_chan_bufsize`,
`fuse_chan_recv`, `fuse_chan_send`). -/
def use (s : LifeState) (ch : Nat) : LifeState :=
  s.apply ch ((s.mount.heap.chans ch).map fun _ => s.mount.heap)

/-- `fuse_session_next_chan(se, NULL)`. -/
def nextChan (s : LifeState) (se : Nat) : LifeState × Nat :=
  match fuseSessionNextChan s.mount.heap se 0 with
  | some ch => (s, ch)
  | none => (s.apply se none, 0)

/-- `fuse_chan_destroy(ch)`. -/
def chanDestroy (s : LifeState) (ch : Nat) : LifeState :=
  { s.apply ch (fuseChanDestroy .apple s.mount.heap ch) with destroyed := s.destroyed ++ [ch] }

/-- `fuse_chan_disk(ch)`, the first call of `fuse_unmount_common`. -/
def chanDisk (s : LifeState) (ch : Nat) : LifeState × Nat :=
  match fuseChanDisk s.mount.heap ch with
  | some (h, disk) => (s.withHeap h, disk)
  | none => (s.apply ch none, 0)

/-- `fuse_kern_unmount(disk, fuse_chan_fd(ch))`. -/
def kernUnmount (s : LifeState) (ch disk : Nat) : LifeState :=
  let fd := ((fuseChanFd s.mount.heap ch).getD (-1)).toNat
  let s := s.use ch
  { s with mount := { s.mount with unmounts := s.mount.unmounts ++ [(disk, fd)] } }

/-- The end of `fuse_unmount_common`: `CFRelease(disk)`, or `fuse_chan_destroy(ch)` when no disk
was attached. -/
def unmountEnd (s : LifeState) (ch disk : Nat) : LifeState :=
  if disk = 0 then s.chanDestroy ch else s.withHeap (s.mount.heap.emit (.cfRelease disk))

/-- `fuse_unmount_common(mountpoint, ch)`, all at once. -/
def unmountCommon (s : LifeState) (ch : Nat) : LifeState :=
  if ch = 0 then s else
    let (s, disk) := s.chanDisk ch
    (s.kernUnmount ch disk).unmountEnd ch disk

/-- `exit_handler(sig)` (Apple build). -/
def exitHandler (s : LifeState) : LifeState :=
  if s.sig.fuseInstance = 0 then s else
    let (s, ch) := s.nextChan s.sig.fuseInstance
    s.unmountCommon ch

/-- Modelled from the spec: `fuse_new_common`, whose file is not among the sources, makes the
session with the low-level callbacks `op` and their data, and binds the channel to it. -/
def fuseNewCommon (s : LifeState) (ch : Nat) (op : FuseSessionOps) (data : Nat) : LifeState :=
  let (h, se) := fuseSessionNew s.mount.heap op data
  { (s.withHeap h).apply ch (fuseSessionAddChan h se ch) with se := se }

/-- Modelled from the spec: `fuse_destroy(fuse)`, whose file is not among the sources, destroys
the session, and with it the channel bound to it (`fuse_session_destroy`). -/
def fuseDestroy (s : LifeState) : LifeState :=
  match s.mount.heap.sessions s.se with
  | none => s.apply s.se none
  | some x =>
    let s' := if x.ch = 0 then s else { s with destroyed := s.destroyed ++ [x.ch] }
    s'.apply x.ch (fuseSessionDestroy .apple s.mount.heap s.se)

end LifeState

/-- What runs next: a call of the orchestrator, of a block, of the callback or of a signal. -/
inductive LifeAction where
  /-- The orchestrator's next step inside `fuse_mount_common` (not the callback). -/
  | mount (a : MountAction)
  /-- `fuse_new_common` with the session's callbacks and data (`none`: it returned `NULL`). -/
  | newCommon (r : Option (FuseSessionOps × Nat))
  | daemonize (ok : Bool)
  /-- `fuse_set_signal_handlers`, where `dispatch_source_create` gives `create sig`. -/
  | setHandlers (create : Nat → Nat)
  | loopNextChan
  | loopBufsize
  /-- The loop ends without a receive: `fuse_session_exited`, or a failed allocation. -/
  | loopExit
  /-- `fuse_session_receive_buf` on the reader's channel returned `res`. -/
  | recv (res : Int)
  /-- The oldest block runs `fuse_session_process_buf`, replying on its channel when `sends`. -/
  | block (sends : Bool)
  /-- `dispatch_group_wait` returns and `fuse_session_reset` runs. -/
  | loopWait
  | tdNextChan
  | tdRemove
  | unmountDisk
  | unmountFd
  | unmountEnd
  | fuseDestroy
  /-- `fuse_mount_callback(mc, status)`, where `DADiskCreateFromVolumePath` gives `disk`. -/
  | callback (status : Int) (disk : Nat)
  /-- The source of `fuse_unmount_signals[i]` fires and `exit_handler` runs. -/
  | signal (i : Fin 3)

namespace LifeState

/-- The orchestrator's calls, one a step; `none` when it is elsewhere. -/
def orchStep (s : LifeState) : LifeAction → Option LifeState
  | .mount a =>
    match s.pc, a with
    | .mounting, .callback _ _ => none
    | .mounting, a => (s.mount.step a).map fun m => { s with mount := m }
    | _, _ => none
  | .newCommon r =>
    match s.pc, s.mount.pc with
    | .mounting, .returned ch =>
      if ch = 0 then none else
        match r with
        | none => some { s with pc := .unmountDisk ch false }
        | some (op, data) => some { s.fuseNewCommon ch op data with pc := .daemonize ch }
    | _, _ => none
  | .daemonize ok =>
    match s.pc with
    | .daemonize ch => some { s with pc := if ok then .setHandlers ch else .unmountDisk ch true }
    | _ => none
  | .setHandlers create =>
    match s.pc with
    | .setHandlers ch =>
      let (sig, res) := fuseSetSignalHandlers .apple s.sig s.se create
      some { s with sig := sig, pc := if res = -1 then .unmountDisk ch true else .loopNextChan }
    | _ => none
  | .loopNextChan =>
    match s.pc with
    | .loopNextChan =>
      let (s, ch) := s.nextChan s.se
      some { s with pc := .loopBufsize ch }
    | _ => none
  | .loopBufsize =>
    match s.pc with
    | .loopBufsize ch => some { s.use ch with pc := .loop ch }
    | _ => none
  | .loopExit =>
    match s.pc with
    | .loop ch => some { s with pc := .loopWait ch }
    | _ => none
  | .recv res =>
    match s.pc with
    | .loop ch =>
      let s := s.use ch
      if res = -eintr then some s
      else if res ≤ 0 then some { s with pc := .loopWait ch }
      else some { s with blocks := s.blocks ++ [ch] }
    | _ => none
  | .loopWait =>
    match s.pc, s.blocks with
    | .loopWait _, [] =>
      some { s.apply s.se (fuseSessionReset s.mount.heap s.se) with pc := .tdNextChan }
    | _, _ => none
  | .tdNextChan =>
    match s.pc with
    | .tdNextChan =>
      let (s, ch) := s.nextChan s.se
      some { s with pc := .tdRemove ch }
    | _ => none
  | .tdRemove =>
    match s.pc with
    | .tdRemove ch =>
      some { s with sig := fuseRemoveSignalHandlers .apple s.sig s.se, pc := .unmountDisk ch true }
    | _ => none
  | .unmountDisk =>
    match s.pc with
    | .unmountDisk ch destroy =>
      if ch = 0 then some { s with pc := if destroy then .fuseDestroy else .done }
      else
        let (s, disk) := s.chanDisk ch
        some { s with pc := .unmountFd ch disk destroy }
    | _ => none
  | .unmountFd =>
    match s.pc with
    | .unmountFd ch disk destroy =>
      some { s.kernUnmount ch disk with pc := .unmountEnd ch disk destroy }
    | _ => none
  | .unmountEnd =>
    match s.pc with
    | .unmountEnd ch disk destroy =>
      some { s.unmountEnd ch disk with pc := if destroy then .fuseDestroy else .done }
    | _ => none
  | .fuseDestroy =>
    match s.pc with
    | .fuseDestroy => some { s.fuseDestroy with pc := .done }
    | _ => none
  | _ => none

/-- One step of any party; `none` when it cannot run. -/
def step (s : LifeState) : LifeAction → Option LifeState
  | .block sends =>
    match s.blocks with
    | [] => none
    | ch :: rest =>
      let s := { s with blocks := rest }
      some (if sends then s.use ch else s)
  | .callback status disk =>
    (s.mount.step (.callback status disk)).map fun m => { s with mount := m }
  | .signal i => if s.sig.fuseUnmountSources i ≠ 0 then some s.exitHandler else none
  | a => s.orchStep a

/-- Run the steps of a schedule in order; `none` when one of them cannot run. -/
def run (s : LifeState) : List LifeAction → Option LifeState
  | [] => some s
  | a :: as => (s.step a).bind fun s' => s'.run as

end LifeState

/-- A mount whose completion comes late, and a signal in teardown between
`fuse_session_next_chan` and `fuse_remove_signal_handlers`. -/
def teardownSignalRun : List LifeAction :=
  [.mount .begin, .mount (.kernMount (some 5)), .mount (.kernChanNew true), .mount .store,
    .mount .unlock, .newCommon (some (⟨1, 0, 0, 0⟩, 0)), .daemonize true,
    .setHandlers fun _ => 7, .loopNextChan, .loopBufsize, .loopExit, .loopWait, .tdNextChan,
    .signal 0, .tdRemove,
    .unmountDisk, .unmountFd, .unmountEnd, .fuseDestroy, .callback 1 0]

/-- The channel at address `1` is destroyed by the signal and again by the teardown, and the
failed callback's `fuse_chan_release` then finds it freed. -/
theorem teardown_signal_double_destroy :
    ((LifeState.init Heap.empty ⟨8, 9, 0⟩ 4096 quietState).run teardownSignalRun).map
      (fun s => (s.destroyed, s.mount.faults)) = some ([1, 1], [1]) := rfl

/-! ## Runs without signals

With no signal event, two references account for the channel: the orchestrator's, which its one
`fuse_chan_destroy` gives up, and the mount context's, which the callback releases. Every call
the parties make on the channel comes while one of them is held. -/

/-- The channel `fuse_kern_chan_new` returned, as the mount records it (`0` before it returned,
or when it failed). -/
def MountPc.chan : MountPc → Nat
  | .created _ ch | .stored ch | .returned ch => ch
  | _ => 0

/-- The callback runs only after `fuse_mount_common` returned, with the returned channel still in
the context. -/
theorem MountState.Phase.armed {m : MountState} (hph : m.Phase) (hcb : m.cb = .armed)
    (hl : m.locked = false) : ∃ c, m.pc = .returned c ∧ m.mc = some c := by
  unfold MountState.Phase at hph
  split at hph
  case h_6 c hpc =>
    rcases hph.2 with h | h | h
    · simp_all
    · exact ⟨c, hpc, h.2.1⟩
    · simp_all
  all_goals simp_all

/-- The callback's locked section records a fault only at the context's channel, and moves no
address. -/
theorem MountState.attach_faults_next (m : MountState) (status : Int) (disk : Nat) :
    ((m.attach status disk).faults = m.faults ∨
      (m.attach status disk).faults = m.faults ++ [m.mc.getD 0]) ∧
    (m.attach status disk).heap.next = m.heap.next := by
  unfold MountState.attach
  split_ifs
  · exact ⟨.inl rfl, rfl⟩
  · exact ⟨.inl rfl, rfl⟩
  · cases hr : fuseChanSetDisk m.heap (m.mc.getD 0) disk with
    | none => simp [MountState.apply, hr]
    | some h => simp [MountState.apply, hr, fuseChanSetDisk_next hr]

/-- On a live channel the callback's locked section changes only the channel's disk. -/
theorem MountState.attach_live {m : MountState} {c : Nat} {x : FuseChan} (hmc : m.mc = some c)
    (hx : m.heap.chans c = some x) (status : Int) (disk : Nat) :
    ∃ x', (m.attach status disk).heap.chans c = some x' ∧ x'.retainCount = x.retainCount ∧
      x'.se = x.se ∧ (m.attach status disk).heap.sessions = m.heap.sessions ∧
      (m.attach status disk).faults = m.faults := by
  unfold MountState.attach
  split_ifs
  · exact ⟨x, hx, rfl, rfl, rfl, rfl⟩
  · exact ⟨x, hx, rfl, rfl, rfl, rfl⟩
  · exact ⟨{ x with disk := disk }, by simp [hmc, fuseChanSetDisk_of hx, MountState.apply]⟩

/-- Destroying the context releases its live channel. -/
theorem MountState.contextDestroy_live {m : MountState} {c : Nat} {x : FuseChan}
    (hmc : m.mc = some c) (hc : c ≠ 0) (hx : m.heap.chans c = some x) :
    m.contextDestroy.heap.chans c = (if x.retainCount = 1 then none
      else some { x with retainCount := x.retainCount - 1 }) ∧
    m.contextDestroy.heap.sessions = m.heap.sessions ∧
    m.contextDestroy.heap.next = m.heap.next ∧ m.contextDestroy.faults = m.faults := by
  simp only [MountState.contextDestroy, hmc, if_neg hc, fuseChanRelease_of hx, MountState.apply]
  split_ifs <;> simp

/-- A context holding `NULL` is destroyed without a heap call. -/
theorem MountState.contextDestroy_null {m : MountState} (hmc : m.mc = some 0) :
    m.contextDestroy.heap = m.heap ∧ m.contextDestroy.faults = m.faults := by
  simp [MountState.contextDestroy, hmc]

/-- What the orchestrator's steps inside `fuse_mount_common` do to the channel: they record no
fault, move no address back, and keep the channel, once made, loose with its own reference and
the context's. -/
theorem MountState.step_orch {m m' : MountState} {a : MountAction} (hph : m.Phase)
    (ha : ∀ st d, a ≠ .callback st d) (hm : m.step a = some m') (hn : 0 < m.heap.next)
    (hv : m.pc.chan ≠ 0 → ∃ x, m.heap.chans m.pc.chan = some x ∧ x.se = 0 ∧
      x.retainCount = 1 + if m.mc = some m.pc.chan then 1 else 0) :
    m'.faults = m.faults ∧ 0 < m'.heap.next ∧
      (m'.pc.chan ≠ 0 → ∃ x, m'.heap.chans m'.pc.chan = some x ∧ x.se = 0 ∧
        x.retainCount = 1 + if m'.mc = some m'.pc.chan then 1 else 0) := by
  cases a with
  | begin =>
    simp only [MountState.step] at hm
    split_ifs at hm
    cases hm
    exact ⟨rfl, hn, fun h => absurd rfl h⟩
  | kernMount fd =>
    simp only [MountState.step] at hm
    split_ifs at hm with hpc
    have hmc : m.mc = some 0 := by simp only [MountState.Phase, hpc] at hph; exact hph.1
    cases fd <;> cases hm
    · exact ⟨by simp [MountState.contextDestroy, hmc],
        by simpa [MountState.contextDestroy, hmc] using hn, fun h => absurd rfl h⟩
    · exact ⟨rfl, hn, fun h => absurd rfl h⟩
  | kernChanNew ok =>
    simp only [MountState.step] at hm
    split at hm
    · rename_i fd hpc
      cases hm
      have hmc : m.mc = some 0 := by simp only [MountState.Phase, hpc] at hph; exact hph.1
      cases ok
      · exact ⟨rfl, by simpa [fuseKernChanNew] using hn, fun h => absurd rfl h⟩
      · refine ⟨rfl, by simp [fuseKernChanNew, fuseChanNew, fuseChanNewCommon], fun _ => ?_⟩
        have hne : (0 : Nat) ≠ m.heap.next := by omega
        simp [fuseKernChanNew, fuseChanNew, fuseChanNewCommon, MountPc.chan, hmc, hne]
    · cases hm
  | store =>
    simp only [MountState.step] at hm
    split at hm
    · rename_i fd ch hpc
      have hmc : m.mc = some 0 := by simp only [MountState.Phase, hpc] at hph; exact hph.1
      split_ifs at hm with hch <;> cases hm
      · obtain ⟨x, hx, hx0, hxc⟩ := hv (by simpa [MountPc.chan, hpc] using hch)
        simp only [hpc, MountPc.chan, hmc] at hx hxc
        rw [fuseChanRetain_of hx]
        refine ⟨rfl, by simpa [MountState.apply] using hn, fun _ => ?_⟩
        simp [MountState.apply, MountPc.chan, FuseChan.retainSection, hx0, hxc,
          Option.some_inj.not.mpr (Ne.symm hch)]
      · exact ⟨rfl, hn, fun h => absurd rfl h⟩
    · cases hm
  | unlock =>
    simp only [MountState.step] at hm
    split at hm
    · rename_i ch hpc
      cases hm
      exact ⟨rfl, hn, by simpa [MountPc.chan, hpc] using hv⟩
    · cases hm
  | callback st d => exact absurd rfl (ha st d)

namespace LifeState

/-- The kernel channel of the run. -/
def chan (s : LifeState) : Nat := s.mount.pc.chan

/-- The references the channel should hold: the orchestrator's until its `fuse_chan_destroy`,
and the mount context's until the callback's `fuse_chan_release`. -/
def refs (s : LifeState) : Nat :=
  (if s.destroyed = [] then 1 else 0) + (if s.mount.mc = some s.chan then 1 else 0)

/-- The channel's count and session, while it lives. -/
def chanView (s : LifeState) : Option (Int × Nat) :=
  (s.mount.heap.chans s.chan).map fun y => (y.retainCount, y.se)

/-- The channel bound to `fuse`'s session, while the session lives. -/
def sessionView (s : LifeState) : Option Nat := (s.mount.heap.sessions s.se).map (·.ch)

/-- The channel, while it lives, is bound to no session. -/
def Loose (s : LifeState) : Prop := ∀ v ∈ s.chanView, v.2 = 0

/-- The channel, while it lives, and `fuse`'s session point at each other. -/
def Bound (s : LifeState) : Prop :=
  s.se ≠ 0 ∧ s.sessionView = some s.chan ∧ ∀ v ∈ s.chanView, v.2 = s.se

/-- `fuse`'s session lives with no channel, and the channel is loose. -/
def Unbound (s : LifeState) : Prop := s.sessionView = some 0 ∧ s.Loose

/-- What the orchestrator's position says about the channel, the session and the destroys. -/
def OrchOk (s : LifeState) : Prop :=
  match s.pc with
  | .mounting => s.destroyed = [] ∧ (s.chan ≠ 0 → s.Loose)
  | .daemonize ch | .setHandlers ch | .loopBufsize ch | .loop ch | .loopWait ch | .tdRemove ch =>
    ch = s.chan ∧ s.destroyed = [] ∧ s.Bound
  | .loopNextChan | .tdNextChan => s.destroyed = [] ∧ s.Bound
  | .unmountDisk ch destroy | .unmountFd ch _ destroy | .unmountEnd ch _ destroy =>
    ch = s.chan ∧ s.destroyed = [] ∧ if destroy then s.Bound else s.Loose
  | .fuseDestroy => s.destroyed = [] ∧ s.Bound ∨ s.destroyed = [s.chan] ∧ s.Unbound
  | .done => s.destroyed = [] ∨ s.destroyed = [s.chan]

/-- The invariant of the runs without signals. -/
structure SafeInv (s : LifeState) : Prop where
  phase : s.mount.Phase
  faults : ∀ a ∈ s.mount.faults, a = 0
  next_pos : 0 < s.mount.heap.next
  alive : s.chan ≠ 0 → 0 < s.refs → ∃ se, s.chanView = some ((s.refs : Int), se)
  orch : s.OrchOk
  returned : s.pc ≠ .mounting → s.mount.pc = .returned s.chan ∧ s.chan ≠ 0
  blocks_chan : ∀ b ∈ s.blocks, b = s.chan
  blocks_pc : s.blocks ≠ [] → ∃ ch, s.pc = .loop ch ∨ s.pc = .loopWait ch

theorem safeInv_init {h : Heap} (hn : 0 < h.next) (ops : FuseChanOps) (bs : Nat) (sig : SigState) :
    (init h ops bs sig).SafeInv where
  phase := MountState.phase_init h ops bs
  faults := by simp [init, MountState.init]
  next_pos := hn
  alive := by simp [init, MountState.init, chan, MountPc.chan]
  orch := by simp [init, MountState.init, OrchOk, chan, MountPc.chan]
  returned := by simp [init]
  blocks_chan := by simp [init]
  blocks_pc := by simp [init]

section Ops

variable {s : LifeState} {ch se : Nat} {x : FuseChan} {y : FuseSession}

@[simp] theorem withHeap_mount (h : Heap) : (s.withHeap h).mount = { s.mount with heap := h } := rfl
@[simp] theorem withHeap_pc (h : Heap) : (s.withHeap h).pc = s.pc := rfl
@[simp] theorem withHeap_sig (h : Heap) : (s.withHeap h).sig = s.sig := rfl
@[simp] theorem withHeap_se (h : Heap) : (s.withHeap h).se = s.se := rfl
@[simp] theorem withHeap_blocks (h : Heap) : (s.withHeap h).blocks = s.blocks := rfl
@[simp] theorem withHeap_destroyed (h : Heap) : (s.withHeap h).destroyed = s.destroyed := rfl

theorem apply_some (a : Nat) (h : Heap) : s.apply a (some h) = s.withHeap h := rfl

@[simp] theorem apply_pc (a : Nat) (r : Option Heap) : (s.apply a r).pc = s.pc := rfl
@[simp] theorem apply_se (a : Nat) (r : Option Heap) : (s.apply a r).se = s.se := rfl
@[simp] theorem apply_blocks (a : Nat) (r : Option Heap) : (s.apply a r).blocks = s.blocks := rfl
@[simp] theorem apply_destroyed (a : Nat) (r : Option Heap) :
    (s.apply a r).destroyed = s.destroyed := rfl

theorem use_of (hc : s.mount.heap.chans ch = some x) : s.use ch = s := by
  simp [use, apply, MountState.apply, hc]

theorem nextChan_of (hs : s.mount.heap.sessions se = some y) : s.nextChan se = (s, y.ch) := by
  simp [nextChan, fuseSessionNextChan_of hs]

theorem chanDisk_of (hc : s.mount.heap.chans ch = some x) :
    s.chanDisk ch = (s.withHeap (s.mount.heap.emitIfSet x.disk (.cfRetain x.disk)), x.disk) := by
  simp [chanDisk, fuseChanDisk_of hc]

theorem kernUnmount_of (hc : s.mount.heap.chans ch = some x) (disk : Nat) :
    s.kernUnmount ch disk =
      { s with mount :=
        { s.mount with unmounts := s.mount.unmounts ++ [(disk, x.fd.toNat)] } } := by
  simp [kernUnmount, use_of hc, fuseChanFd, hc]

theorem fuseNewCommon_of (hc : s.mount.heap.chans ch = some x) (h0 : x.se = 0)
    (op : FuseSessionOps) (data : Nat) :
    s.fuseNewCommon ch op data = { s.withHeap (((s.mount.heap.bump.setSession s.mount.heap.next
      (some ⟨op, data, false, 0, 0, 0⟩)).setSession s.mount.heap.next
      (some ⟨op, data, false, ch, 0, 0⟩)).setChan ch (some { x with se := s.mount.heap.next }))
      with se := s.mount.heap.next } := by
  simp [fuseNewCommon, fuseSessionNew, fuseSessionAddChan, hc, h0, apply, MountState.apply]

end Ops

section Views

variable {s s' : LifeState}

/-- What the invariant reads of the channel's binding is only its session field. -/
def SameSe (s s' : LifeState) : Prop := ∀ v ∈ s'.chanView, ∃ v₀ ∈ s.chanView, v.2 = v₀.2

theorem Loose.congr (h : s.Loose) (hv : SameSe s s') : s'.Loose := fun v hv' =>
  let ⟨v₀, h₀, he⟩ := hv v hv'
  he.trans (h v₀ h₀)

theorem Bound.congr (h : s.Bound) (hse : s'.se = s.se) (hc : s'.chan = s.chan)
    (hsv : s'.sessionView = s.sessionView) (hv : SameSe s s') : s'.Bound := by
  refine ⟨hse ▸ h.1, by rw [hsv, hc]; exact h.2.1, fun v hv' => ?_⟩
  obtain ⟨v₀, h₀, he⟩ := hv v hv'
  rw [he, hse]
  exact h.2.2 v₀ h₀

/-- The orchestrator's facts survive a change of the heap that keeps both bindings. -/
theorem OrchOk.congr (h : s.OrchOk) (hpc : s'.pc = s.pc) (hd : s'.destroyed = s.destroyed)
    (hse : s'.se = s.se) (hc : s'.chan = s.chan) (hsv : s'.sessionView = s.sessionView)
    (hv : SameSe s s') : s'.OrchOk := by
  have hB := fun hb : s.Bound => hb.congr hse hc hsv hv
  have hL := fun hl : s.Loose => hl.congr hv
  have hU := fun hu : s.Unbound => (⟨by rw [hsv]; exact hu.1, hu.2.congr hv⟩ : s'.Unbound)
  unfold OrchOk at h ⊢
  rw [hpc, hd, hc]
  generalize s.pc = p at h ⊢
  match p, h with
  | .mounting, h => exact ⟨h.1, fun h0 => hL (h.2 h0)⟩
  | .daemonize _, h | .setHandlers _, h | .loopBufsize _, h | .loop _, h | .loopWait _, h
  | .tdRemove _, h => exact ⟨h.1, h.2.1, hB h.2.2⟩
  | .loopNextChan, h | .tdNextChan, h => exact ⟨h.1, hB h.2⟩
  | .unmountDisk _ true, h | .unmountFd _ _ true, h | .unmountEnd _ _ true, h =>
    exact ⟨h.1, h.2.1, hB h.2.2⟩
  | .unmountDisk _ false, h | .unmountFd _ _ false, h | .unmountEnd _ _ false, h =>
    exact ⟨h.1, h.2.1, hL h.2.2⟩
  | .fuseDestroy, h => exact h.imp (fun h => ⟨h.1, hB h.2⟩) (fun h => ⟨h.1, hU h.2⟩)
  | .done, h => exact h

/-- A channel with `k + 1` references, one of them given up and `k` still held: its view shows
`k`. -/
theorem release_view {rc : Int} {k : Nat} (se : Nat) (hrc : rc = k + 1) (hk : 0 < k) :
    (if rc = 1 then none else some (rc - 1, se)) = some ((k : Int), se) := by
  rw [if_neg (by omega), show rc - 1 = k by omega]

end Views

section Steps

variable {s s' : LifeState}

theorem SafeInv.blocks_nil (hi : s.SafeInv)
    (h : ∀ ch, s.pc ≠ .loop ch ∧ s.pc ≠ .loopWait ch) : s.blocks = [] := by
  by_contra hb
  obtain ⟨ch, hc | hc⟩ := hi.blocks_pc hb
  exacts [(h ch).1 hc, (h ch).2 hc]

/-- A step that moves the orchestrator, and perhaps sets the signal state, past the mount. -/
theorem SafeInv.setPc (hi : s.SafeInv) (g : SigState) {p : OrchPc}
    (ho : ({ s with pc := p, sig := g } : LifeState).OrchOk)
    (hr : s.mount.pc = .returned s.chan ∧ s.chan ≠ 0)
    (hb : s.blocks = [] ∨ ∃ ch, p = .loop ch ∨ p = .loopWait ch) :
    ({ s with pc := p, sig := g } : LifeState).SafeInv :=
  ⟨hi.phase, hi.faults, hi.next_pos, hi.alive, ho, fun _ => hr, hi.blocks_chan,
    fun hne => hb.resolve_left hne⟩

theorem SafeInv.daemonize (hi : s.SafeInv) {ok : Bool} (hs : s.orchStep (.daemonize ok) = some s') :
    s'.SafeInv := by
  simp only [orchStep] at hs
  split at hs <;> cases hs
  rename_i ch hpc
  have ho := hi.orch
  simp only [OrchOk, hpc] at ho
  refine hi.setPc s.sig ?_ (hi.returned (by simp [hpc]))
    (.inl (hi.blocks_nil (by simp [hpc])))
  cases ok <;> exact ho

theorem SafeInv.setHandlers (hi : s.SafeInv) {create : Nat → Nat}
    (hs : s.orchStep (.setHandlers create) = some s') : s'.SafeInv := by
  simp only [orchStep] at hs
  split at hs <;> cases hs
  rename_i ch hpc
  have ho := hi.orch
  simp only [OrchOk, hpc] at ho
  obtain ⟨g, r⟩ := fuseSetSignalHandlers .apple s.sig s.se create
  refine hi.setPc g ?_ (hi.returned (by simp [hpc])) (.inl (hi.blocks_nil (by simp [hpc])))
  by_cases hr : r = -1 <;> simp only [hr, if_true, if_false]
  exacts [ho, ho.2]

theorem SafeInv.loopExit (hi : s.SafeInv) (hs : s.orchStep .loopExit = some s') : s'.SafeInv := by
  simp only [orchStep] at hs
  split at hs <;> cases hs
  rename_i ch hpc
  have ho := hi.orch
  simp only [OrchOk, hpc] at ho
  exact hi.setPc s.sig ho (hi.returned (by simp [hpc])) (.inr ⟨ch, .inr rfl⟩)

theorem SafeInv.tdRemove (hi : s.SafeInv) (hs : s.orchStep .tdRemove = some s') : s'.SafeInv := by
  simp only [orchStep] at hs
  split at hs <;> cases hs
  rename_i ch hpc
  have ho := hi.orch
  simp only [OrchOk, hpc] at ho
  generalize fuseRemoveSignalHandlers .apple s.sig s.se = g
  exact hi.setPc g ho (hi.returned (by simp [hpc])) (.inl (hi.blocks_nil (by simp [hpc])))

theorem SafeInv.chan_live (hi : s.SafeInv) (hd : s.destroyed = []) (hc : s.chan ≠ 0) :
    ∃ x, s.mount.heap.chans s.chan = some x := by
  obtain ⟨se, hv⟩ := hi.alive hc (by simp only [refs, hd, if_true]; omega)
  obtain ⟨x, hx, -⟩ := Option.map_eq_some'.mp hv
  exact ⟨x, hx⟩

theorem Bound.session (h : s.Bound) :
    ∃ y, s.mount.heap.sessions s.se = some y ∧ y.ch = s.chan :=
  Option.map_eq_some'.mp h.2.1

/-- On the bound session `fuse_session_next_chan(se, NULL)` returns the channel. -/
theorem Bound.nextChan (h : s.Bound) : s.nextChan s.se = (s, s.chan) := by
  obtain ⟨y, hy, hych⟩ := h.session
  rw [nextChan_of hy, hych]

/-- A heap change that keeps the channel, the session's binding and the next address. -/
theorem SafeInv.withHeap (hi : s.SafeInv) {h : Heap}
    (hc : h.chans s.chan = s.mount.heap.chans s.chan)
    (hsv : (h.sessions s.se).map (·.ch) = s.sessionView) (hn : h.next = s.mount.heap.next) :
    (s.withHeap h).SafeInv := by
  have hv : (s.withHeap h).chanView = s.chanView := congrArg (Option.map _) hc
  refine ⟨hi.phase, hi.faults, hn ▸ hi.next_pos, ?_, hi.orch.congr rfl rfl rfl rfl hsv ?_,
    hi.returned, hi.blocks_chan, hi.blocks_pc⟩
  · rw [hv]; exact hi.alive
  · intro v hv'
    rw [hv] at hv'
    exact ⟨v, hv', rfl⟩

theorem SafeInv.withUnmounts (hi : s.SafeInv) (u : List (Nat × Nat)) :
    ({ s with mount := { s.mount with unmounts := u } } : LifeState).SafeInv :=
  ⟨hi.phase, hi.faults, hi.next_pos, hi.alive, hi.orch, hi.returned, hi.blocks_chan,
    hi.blocks_pc⟩

theorem SafeInv.loopNextChan (hi : s.SafeInv) (hs : s.orchStep .loopNextChan = some s') :
    s'.SafeInv := by
  simp only [orchStep] at hs
  split at hs <;> cases hs
  rename_i hpc
  have ho := hi.orch
  simp only [OrchOk, hpc] at ho
  simp only [ho.2.nextChan]
  exact hi.setPc s.sig ⟨rfl, ho⟩ (hi.returned (by simp [hpc]))
    (.inl (hi.blocks_nil (by simp [hpc])))

theorem SafeInv.tdNextChan (hi : s.SafeInv) (hs : s.orchStep .tdNextChan = some s') :
    s'.SafeInv := by
  simp only [orchStep] at hs
  split at hs <;> cases hs
  rename_i hpc
  have ho := hi.orch
  simp only [OrchOk, hpc] at ho
  simp only [ho.2.nextChan]
  exact hi.setPc s.sig ⟨rfl, ho⟩ (hi.returned (by simp [hpc]))
    (.inl (hi.blocks_nil (by simp [hpc])))

theorem SafeInv.loopBufsize (hi : s.SafeInv) (hs : s.orchStep .loopBufsize = some s') :
    s'.SafeInv := by
  simp only [orchStep] at hs
  split at hs <;> cases hs
  rename_i ch hpc
  have ho := hi.orch
  simp only [OrchOk, hpc] at ho
  obtain ⟨rfl, hd, hB⟩ := ho
  have hr := hi.returned (by simp [hpc])
  obtain ⟨x, hx⟩ := hi.chan_live hd hr.2
  rw [use_of hx]
  exact hi.setPc s.sig ⟨rfl, hd, hB⟩ hr (.inl (hi.blocks_nil (by simp [hpc])))

theorem SafeInv.recv (hi : s.SafeInv) {res : Int} (hs : s.orchStep (.recv res) = some s') :
    s'.SafeInv := by
  simp only [orchStep] at hs
  split at hs
  · rename_i ch hpc
    have ho := hi.orch
    simp only [OrchOk, hpc] at ho
    obtain ⟨rfl, hd, hB⟩ := ho
    have hr := hi.returned (by simp [hpc])
    obtain ⟨x, hx⟩ := hi.chan_live hd hr.2
    simp only [use_of hx] at hs
    split_ifs at hs <;> cases hs
    · exact hi
    · exact hi.setPc s.sig ⟨rfl, hd, hB⟩ hr (.inr ⟨_, .inr rfl⟩)
    · refine ⟨hi.phase, hi.faults, hi.next_pos, hi.alive, hi.orch, hi.returned, fun b hb => ?_,
        fun _ => ⟨_, .inl hpc⟩⟩
      rcases List.mem_append.mp hb with hb | hb
      exacts [hi.blocks_chan b hb, List.mem_singleton.mp hb]
  · cases hs

theorem SafeInv.loopWait (hi : s.SafeInv) (hs : s.orchStep .loopWait = some s') : s'.SafeInv := by
  simp only [orchStep] at hs
  split at hs
  · rename_i c hpc hb
    cases hs
    have ho := hi.orch
    simp only [OrchOk, hpc] at ho
    obtain ⟨y, hy, -⟩ := ho.2.2.session
    rw [fuseSessionReset_of hy, apply_some]
    have hi' := hi.withHeap (h := (s.mount.heap.emitIfSet y.op.exit
      (.sessionExit y.op.exit y.data false)).setSession s.se (some { y with exited := false }))
      (by simp) (by simp [sessionView, hy]) (by simp)
    have ho' := hi'.orch
    simp only [OrchOk, withHeap_pc, hpc] at ho'
    exact hi'.setPc s.sig ho'.2 (hi'.returned (by simp [hpc])) (.inl hb)
  · cases hs

theorem SafeInv.unmountDisk (hi : s.SafeInv) (hs : s.orchStep .unmountDisk = some s') :
    s'.SafeInv := by
  simp only [orchStep] at hs
  split at hs
  · rename_i ch d hpc
    have ho := hi.orch
    simp only [OrchOk, hpc] at ho
    obtain ⟨rfl, hd, -⟩ := ho
    have hr := hi.returned (by simp [hpc])
    obtain ⟨x, hx⟩ := hi.chan_live hd hr.2
    simp only [if_neg hr.2, chanDisk_of hx] at hs
    cases hs
    have hi' := hi.withHeap (h := s.mount.heap.emitIfSet x.disk (.cfRetain x.disk))
      (by simp) (by simp [sessionView]) (by simp)
    have ho' := hi'.orch
    simp only [OrchOk, withHeap_pc, hpc] at ho'
    exact hi'.setPc s.sig ho' (hi'.returned (by simp [hpc])) (.inl (hi.blocks_nil (by simp [hpc])))
  · cases hs

theorem SafeInv.unmountFd (hi : s.SafeInv) (hs : s.orchStep .unmountFd = some s') :
    s'.SafeInv := by
  simp only [orchStep] at hs
  split at hs
  · rename_i ch disk d hpc
    cases hs
    have ho := hi.orch
    simp only [OrchOk, hpc] at ho
    obtain ⟨rfl, hd, hb⟩ := ho
    have hr := hi.returned (by simp [hpc])
    obtain ⟨x, hx⟩ := hi.chan_live hd hr.2
    rw [kernUnmount_of hx]
    exact (hi.withUnmounts _).setPc s.sig ⟨rfl, hd, hb⟩ hr
      (.inl (hi.blocks_nil (by simp [hpc])))
  · cases hs

theorem SafeInv.block (hi : s.SafeInv) {sends : Bool} (hs : s.step (.block sends) = some s') :
    s'.SafeInv := by
  simp only [step] at hs
  split at hs
  · cases hs
  · rename_i ch rest hb
    cases hs
    obtain ⟨c, hpc⟩ := hi.blocks_pc (by simp [hb])
    have ho := hi.orch
    have hr := hi.returned (by rcases hpc with h | h <;> simp [h])
    have hd : s.destroyed = [] := by
      rcases hpc with h | h <;> simp only [OrchOk, h] at ho <;> exact ho.2.1
    obtain ⟨x, hx⟩ := hi.chan_live hd hr.2
    have hi' : ({ s with blocks := rest } : LifeState).SafeInv :=
      ⟨hi.phase, hi.faults, hi.next_pos, hi.alive, hi.orch, hi.returned,
        fun b hb' => hi.blocks_chan b (by simp [hb, hb']), fun _ => ⟨c, hpc⟩⟩
    cases sends
    · exact hi'
    · rw [hi.blocks_chan ch (by simp [hb]), use_of (s := { s with blocks := rest }) hx]
      exact hi'

/-- After the orchestrator's `fuse_chan_destroy`: the channel has one reference fewer and no
session, the destroy is recorded, and the orchestrator is done or about to free an unbound
session. -/
theorem SafeInv.of_destroy (hi : s.SafeInv) (hd : s.destroyed = [])
    (hr : s.mount.pc = .returned s.chan ∧ s.chan ≠ 0) {x : FuseChan}
    (hx : s.mount.heap.chans s.chan = some x) {h : Heap}
    (hm : s'.mount = { s.mount with heap := h })
    (hse : s'.se = s.se) (hb : s'.blocks = []) (hd' : s'.destroyed = [s.chan])
    (hn : h.next = s.mount.heap.next)
    (hv : (h.chans s.chan).map (fun y => (y.retainCount, y.se)) =
      if x.retainCount = 1 then none else some (x.retainCount - 1, 0))
    (ho : s'.pc = .done ∨ s'.pc = .fuseDestroy ∧ (h.sessions s.se).map (·.ch) = some 0) :
    s'.SafeInv := by
  have hc : s'.chan = s.chan := by simp only [chan, hm]
  have hv' : s'.chanView = if x.retainCount = 1 then none else some (x.retainCount - 1, 0) := by
    simp only [chanView, hc, hm, hv]
  obtain ⟨se, hse₀⟩ := hi.alive hr.2 (by simp only [refs, hd, if_true]; omega)
  have hcount : x.retainCount = s.refs := by
    simp only [chanView, hx, Option.map_some', Option.some.injEq, Prod.mk.injEq] at hse₀
    exact hse₀.1
  have hloose : s'.Loose := fun v hv₀ => by
    rw [hv'] at hv₀
    split_ifs at hv₀
    · exact absurd hv₀ (Option.not_mem_none v)
    · rw [Option.mem_def, Option.some.injEq] at hv₀
      rw [← hv₀]
  refine ⟨hm ▸ hi.phase, hm ▸ hi.faults, by rw [hm, hn]; exact hi.next_pos,
    fun _ hpos => ⟨0, ?_⟩, ?_, fun _ => by rw [hc, hm]; exact hr, by simp [hb], by simp [hb]⟩
  · have hmc : s'.mount.mc = s.mount.mc := by rw [hm]
    simp only [refs, hd', hc, hmc, reduceCtorEq, if_false, Nat.zero_add] at hpos ⊢
    simp only [refs, hd, if_true] at hcount
    rw [hv']
    exact release_view 0 (by omega) hpos
  · rcases ho with ho | ⟨ho, hsv⟩
    · simp [OrchOk, ho, hd', hc]
    · unfold OrchOk
      rw [ho, hd', hc]
      exact .inr ⟨rfl, by rw [sessionView, hse, hm]; exact hsv, hloose⟩

/-- The orchestrator finishes after a heap change that keeps the channel. -/
theorem SafeInv.toDone (hi : s.SafeInv) {h : Heap} (hc : h.chans s.chan = s.mount.heap.chans s.chan)
    (hn : h.next = s.mount.heap.next) (hd : s.destroyed = [] ∨ s.destroyed = [s.chan])
    (hb : s.blocks = []) (hr : s.mount.pc = .returned s.chan ∧ s.chan ≠ 0) :
    ({ s.withHeap h with pc := .done } : LifeState).SafeInv where
  phase := hi.phase
  faults := hi.faults
  next_pos := hn ▸ hi.next_pos
  alive h0 hp := by
    obtain ⟨se, hse⟩ := hi.alive h0 hp
    exact ⟨se, (congrArg (Option.map _) hc).trans hse⟩
  orch := hd
  returned _ := hr
  blocks_chan := by simp [hb]
  blocks_pc := by simp [hb]

theorem SafeInv.unmountEnd (hi : s.SafeInv) (hs : s.orchStep .unmountEnd = some s') :
    s'.SafeInv := by
  simp only [orchStep] at hs
  split at hs
  · rename_i ch disk d hpc
    cases hs
    have ho := hi.orch
    simp only [OrchOk, hpc] at ho
    obtain ⟨rfl, hd, hb⟩ := ho
    have hr := hi.returned (by simp [hpc])
    have hbl := hi.blocks_nil (by simp [hpc])
    obtain ⟨x, hx⟩ := hi.chan_live hd hr.2
    by_cases h0 : disk = 0
    · cases d
      · have hl : x.se = 0 := hb (x.retainCount, x.se) (by simp [chanView, hx])
        obtain ⟨h', hdes, hn, -, hcs⟩ := fuseChanDestroy_apple_loose hx hl
        refine hi.of_destroy hd hr hx (h := h') ?_ (by simp [unmountEnd, h0, chanDestroy])
          (by simp [unmountEnd, h0, chanDestroy, hbl])
          (by simp [unmountEnd, h0, chanDestroy, hd]) hn
          ?_ (.inl rfl)
        · simp [unmountEnd, h0, chanDestroy, apply, MountState.apply, hdes]
        · rw [hcs]; split_ifs <;> simp [hl]
      · obtain ⟨y, hy, hych⟩ := hb.session
        obtain ⟨hse0, -, hbs⟩ := hb
        have hxse : x.se = s.se := hbs (x.retainCount, x.se) (by simp [chanView, hx])
        obtain ⟨h', hdes, hn, hss, hcs⟩ :=
          fuseChanDestroy_apple_bound hx (hxse ▸ hse0) (hxse ▸ hy) hych
        refine hi.of_destroy hd hr hx (h := h') ?_ (by simp [unmountEnd, h0, chanDestroy])
          (by simp [unmountEnd, h0, chanDestroy, hbl])
          (by simp [unmountEnd, h0, chanDestroy, hd]) hn
          ?_ (.inr ⟨rfl, by simp [← hxse, hss]⟩)
        · simp [unmountEnd, h0, chanDestroy, apply, MountState.apply, hdes]
        · rw [hcs]; split_ifs <;> simp
    · simp only [LifeState.unmountEnd, if_neg h0]
      cases d
      · exact hi.toDone (by simp) (by simp) (.inl hd) hbl hr
      · have hi' := hi.withHeap (h := s.mount.heap.emit (.cfRelease disk)) (by simp)
          (by simp [sessionView]) (by simp)
        have ho' := hi'.orch
        simp only [OrchOk, withHeap_pc, hpc, if_true] at ho'
        exact hi'.setPc s.sig (.inl ⟨hd, ho'.2.2⟩) (hi'.returned (by simp [hpc])) (.inl hbl)
  · cases hs

theorem SafeInv.fuseDestroy (hi : s.SafeInv) (hs : s.orchStep .fuseDestroy = some s') :
    s'.SafeInv := by
  simp only [orchStep] at hs
  split at hs
  · rename_i hpc
    cases hs
    have ho := hi.orch
    simp only [OrchOk, hpc] at ho
    have hr := hi.returned (by simp [hpc])
    have hbl := hi.blocks_nil (by simp [hpc])
    rcases ho with ⟨hd, hB⟩ | ⟨hd, hU⟩
    · obtain ⟨y, hy, hych⟩ := hB.session
      obtain ⟨hse0, -, hbs⟩ := hB
      obtain ⟨x, hx⟩ := hi.chan_live hd hr.2
      have hxse : x.se = s.se := hbs (x.retainCount, x.se) (by simp [chanView, hx])
      obtain ⟨h', hdes, hn, -, hcs⟩ := fuseChanDestroy_apple_bound
        (h := s.mount.heap.emitIfSet y.op.destroy (.sessionDestroy y.op.destroy y.data))
        (by simpa using hx) (hxse ▸ hse0) (by simpa [hxse] using hy) hych
      refine hi.of_destroy hd hr hx (h := h'.setSession s.se none) ?_
        (by simp [LifeState.fuseDestroy, hy, hych, hr.2])
        (by simp [LifeState.fuseDestroy, hy, hych, hr.2, hbl])
        (by simp [LifeState.fuseDestroy, hy, hych, hr.2, hd]) (by simpa using hn) ?_ (.inl rfl)
      · simp [LifeState.fuseDestroy, hy, hych, hr.2, fuseSessionDestroy_of _ hy, hdes, apply,
          MountState.apply]
      · rw [Heap.setSession_chans, hcs]; split_ifs <;> simp
    · obtain ⟨y, hy, hy0⟩ := Option.map_eq_some'.mp hU.1
      simp only [LifeState.fuseDestroy, hy, hy0, if_true, fuseSessionDestroy_of _ hy,
        Option.map_some', apply_some]
      exact hi.toDone (by simp) (by simp) (.inr hd) hbl hr
  · cases hs

/-- The live channel holds as many references as the invariant counts. -/
theorem SafeInv.count (hi : s.SafeInv) (hc : s.chan ≠ 0) (hpos : 0 < s.refs) {x : FuseChan}
    (hx : s.mount.heap.chans s.chan = some x) : x.retainCount = s.refs := by
  obtain ⟨se, hse⟩ := hi.alive hc hpos
  simp only [chanView, hx, Option.map_some', Option.some.injEq, Prod.mk.injEq] at hse
  exact hse.1

/-- A step of the orchestrator inside `fuse_mount_common`, where the channel, once made, is
loose and holds its own reference and the context's. -/
theorem SafeInv.ofMount (hi : s.SafeInv) (hpc : s.pc = .mounting) {m : MountState}
    (hph : m.Phase) (hf : m.faults = s.mount.faults) (hn : 0 < m.heap.next)
    (hv : m.pc.chan ≠ 0 → ∃ x, m.heap.chans m.pc.chan = some x ∧ x.se = 0 ∧
      x.retainCount = 1 + if m.mc = some m.pc.chan then 1 else 0) :
    ({ s with mount := m } : LifeState).SafeInv := by
  have ho := hi.orch
  simp only [OrchOk, hpc] at ho
  have hbl := hi.blocks_nil (by simp [hpc])
  refine ⟨hph, hf ▸ hi.faults, hn, fun hc _ => ?_, ?_, fun h => absurd hpc h, by simp [hbl],
    by simp [hbl]⟩
  · obtain ⟨x, hx, hx0, hxc⟩ := hv hc
    refine ⟨0, ?_⟩
    simp only [chanView, chan, refs, hx, hx0, hxc, ho.1, if_true, Option.map_some']
    split_ifs <;> rfl
  · simp only [OrchOk, hpc]
    refine ⟨ho.1, fun hc v hv' => ?_⟩
    obtain ⟨x, hx, hx0, -⟩ := hv hc
    simp only [chanView, chan, hx, Option.map_some', Option.mem_def, Option.some.injEq] at hv'
    rw [← hv', hx0]

theorem SafeInv.mount (hi : s.SafeInv) {a : MountAction} (hs : s.orchStep (.mount a) = some s') :
    s'.SafeInv := by
  simp only [orchStep] at hs
  split at hs
  · cases hs
  · rename_i a _ _ hpc hna
    obtain ⟨m, hm, rfl⟩ := Option.map_eq_some'.mp hs
    have ho := hi.orch
    simp only [OrchOk, hpc] at ho
    have hv : s.mount.pc.chan ≠ 0 → ∃ x, s.mount.heap.chans s.mount.pc.chan = some x ∧
        x.se = 0 ∧ x.retainCount = 1 + if s.mount.mc = some s.mount.pc.chan then 1 else 0 := by
      intro hc
      obtain ⟨x, hx⟩ := hi.chan_live ho.1 hc
      have hcount := hi.count hc (by simp only [refs, ho.1, if_true]; omega) hx
      refine ⟨x, hx, ho.2 hc (x.retainCount, x.se) (by simp [chanView, hx]), ?_⟩
      rw [hcount]
      simp only [refs, ho.1, if_true, chan]
      split_ifs <;> rfl
    obtain ⟨hf, hn, hv'⟩ := MountState.step_orch hi.phase hna hm hi.next_pos hv
    exact hi.ofMount hpc (hi.phase.step hm) hf hn hv'
  · cases hs

theorem SafeInv.newCommon (hi : s.SafeInv) {r : Option (FuseSessionOps × Nat)}
    (hs : s.orchStep (.newCommon r) = some s') : s'.SafeInv := by
  simp only [orchStep] at hs
  split at hs
  · rename_i ch hpc hmpc
    split_ifs at hs with hch0
    have hc : s.chan = ch := by simp [chan, hmpc, MountPc.chan]
    have ho := hi.orch
    simp only [OrchOk, hpc] at ho
    obtain ⟨hd, hl⟩ := ho
    have hbl := hi.blocks_nil (by simp [hpc])
    subst hc
    have hr : s.mount.pc = .returned s.chan ∧ s.chan ≠ 0 := ⟨hmpc, hch0⟩
    cases r with
    | none =>
      cases hs
      exact hi.setPc s.sig ⟨rfl, hd, hl hr.2⟩ hr (.inl hbl)
    | some r =>
      obtain ⟨op, data⟩ := r
      cases hs
      obtain ⟨x, hx⟩ := hi.chan_live hd hr.2
      have hx0 : x.se = 0 := hl hr.2 (x.retainCount, x.se) (by simp [chanView, hx])
      have hcount := hi.count hr.2 (by simp only [refs, hd, if_true]; omega) hx
      rw [fuseNewCommon_of hx hx0]
      have hn := hi.next_pos
      refine ⟨hi.phase, hi.faults, by simp, fun _ _ => ⟨s.mount.heap.next, ?_⟩,
        ⟨rfl, hd, Nat.pos_iff_ne_zero.mp hn, ?_, fun v hv => ?_⟩, fun _ => hr, by simp [hbl],
        by simp [hbl]⟩
      · simp [chanView, chan, refs, hcount]
      · simp [sessionView, chan]
      · simp only [chanView, chan, withHeap_mount, Heap.setChan_chans, Function.update_same,
          Option.map_some', Option.mem_def, Option.some.injEq] at hv
        rw [← hv]
  · cases hs

theorem SafeInv.callback (hi : s.SafeInv) {st : Int} {d : Nat}
    (hs : s.step (.callback st d) = some s') : s'.SafeInv := by
  simp only [step] at hs
  obtain ⟨m, hm, rfl⟩ := Option.map_eq_some'.mp hs
  have hph := hi.phase.step hm
  simp only [MountState.step] at hm
  split_ifs at hm with hcb
  cases hm
  obtain ⟨c, hpc, hmc⟩ := hi.phase.armed hcb.1 hcb.2
  have hchan : s.chan = c := by simp [chan, hpc, MountPc.chan]
  have hamc : (s.mount.attach st d).mc = some c := by simp [hmc]
  have hc₂ : ({ s with mount := { (s.mount.attach st d).contextDestroy with
      cb := .done, cbRead := s.mount.mc } } : LifeState).chan = s.chan := by simp [chan]
  obtain ⟨hf, hn⟩ := s.mount.attach_faults_next st d
  by_cases hc0 : c = 0
  · subst hc0
    obtain ⟨hheap, hfl⟩ := MountState.contextDestroy_null hamc
    have hpcm : s.pc = .mounting := by
      by_contra hne
      exact (hi.returned hne).2 hchan
    have ho := hi.orch
    simp only [OrchOk, hpcm] at ho
    refine ⟨hph, fun a ha => ?_, by simp [hheap, hn, hi.next_pos],
      fun h => absurd (hc₂.trans hchan) h, ?_, fun h => absurd hpcm h,
      fun b hb => (hi.blocks_chan b hb).trans hc₂.symm, hi.blocks_pc⟩
    · simp only [hfl] at ha
      rcases hf with hf | hf <;> rw [hf] at ha
      · exact hi.faults a ha
      · rcases List.mem_append.mp ha with ha | ha
        · exact hi.faults a ha
        · simpa [hmc] using ha
    · simp only [OrchOk, hpcm]
      exact ⟨ho.1, fun h => absurd (hc₂.trans hchan) h⟩
  · have hpos : 0 < s.refs := by simp [refs, hmc, hchan]
    obtain ⟨x, hx⟩ : ∃ x, s.mount.heap.chans c = some x := by
      obtain ⟨se, hv⟩ := hi.alive (hchan ▸ hc0) hpos
      obtain ⟨x, hx, -⟩ := Option.map_eq_some'.mp hv
      exact ⟨x, hchan ▸ hx⟩
    have hcount := hi.count (hchan ▸ hc0) hpos (hchan ▸ hx)
    obtain ⟨x', hx', hcnt, hse, hss, hfa⟩ := MountState.attach_live hmc hx st d
    obtain ⟨hcd, hss', hn', hfa'⟩ := MountState.contextDestroy_live hamc hc0 hx'
    have hv₂ : ({ s with mount := { (s.mount.attach st d).contextDestroy with
        cb := .done, cbRead := s.mount.mc } } : LifeState).chanView =
        if x.retainCount = 1 then none else some (x.retainCount - 1, x.se) := by
      simp only [chanView, hc₂, hchan]
      simp only [hcd, hcnt, hse]
      split_ifs <;> rfl
    refine ⟨hph, by simpa [hfa', hfa] using hi.faults, by simpa [hn', hn] using hi.next_pos,
      fun _ hp => ⟨x.se, ?_⟩, hi.orch.congr rfl rfl rfl hc₂ ?_ ?_,
      fun h => by rw [hc₂]; simpa using hi.returned h,
      fun b hb => (hi.blocks_chan b hb).trans hc₂.symm, hi.blocks_pc⟩
    · rw [hv₂]
      simp only [refs, hc₂, hchan, MountState.contextDestroy_mc, reduceCtorEq, if_false,
        Nat.add_zero] at hp ⊢
      simp only [refs, hmc, hchan, if_true] at hcount
      exact release_view x.se (by omega) hp
    · simp [sessionView, hss', hss]
    · intro v hv
      rw [hv₂] at hv
      split_ifs at hv
      · exact absurd hv (Option.not_mem_none v)
      · rw [Option.mem_def, Option.some.injEq] at hv
        exact ⟨(x.retainCount, x.se), by simp [chanView, hchan, hx], by rw [← hv]⟩

/-- Every step but a signal keeps the invariant. -/
theorem SafeInv.step (hi : s.SafeInv) {a : LifeAction} (ha : ∀ i, a ≠ .signal i)
    (hs : s.step a = some s') : s'.SafeInv := by
  cases a with
  | mount a => exact hi.mount hs
  | newCommon r => exact hi.newCommon hs
  | daemonize ok => exact hi.daemonize hs
  | setHandlers create => exact hi.setHandlers hs
  | loopNextChan => exact hi.loopNextChan hs
  | loopBufsize => exact hi.loopBufsize hs
  | loopExit => exact hi.loopExit hs
  | recv res => exact hi.recv hs
  | block sends => exact hi.block hs
  | loopWait => exact hi.loopWait hs
  | tdNextChan => exact hi.tdNextChan hs
  | tdRemove => exact hi.tdRemove hs
  | unmountDisk => exact hi.unmountDisk hs
  | unmountFd => exact hi.unmountFd hs
  | unmountEnd => exact hi.unmountEnd hs
  | fuseDestroy => exact hi.fuseDestroy hs
  | callback st d => exact hi.callback hs
  | signal i => exact absurd rfl (ha i)

theorem SafeInv.run (hi : s.SafeInv) {t : List LifeAction} (ht : ∀ i, LifeAction.signal i ∉ t)
    (hr : s.run t = some s') : s'.SafeInv := by
  induction t generalizing s with
  | nil => cases hr; exact hi
  | cons a t ih =>
    obtain ⟨s₁, hs, hr'⟩ := Option.bind_eq_some.mp hr
    exact ih (hi.step (fun i h => ht i (h ▸ List.mem_cons_self _ _)) hs)
      (fun i h => ht i (List.mem_cons_of_mem _ h)) hr'

/-- The orchestrator destroys nothing but the channel, and that at most once. -/
theorem OrchOk.destroyed (h : s.OrchOk) : s.destroyed = [] ∨ s.destroyed = [s.chan] := by
  unfold OrchOk at h
  generalize s.pc = p at h
  match p, h with
  | .mounting, h | .loopNextChan, h | .tdNextChan, h => exact .inl h.1
  | .daemonize _, h | .setHandlers _, h | .loopBufsize _, h | .loop _, h | .loopWait _, h
  | .tdRemove _, h | .unmountDisk _ _, h | .unmountFd _ _ _, h | .unmountEnd _ _ _, h =>
    exact .inl h.2.1
  | .fuseDestroy, h => exact h.imp And.left And.left
  | .done, h => exact h

end Steps

end LifeState

/-- Without signals, under every interleaving of the orchestrator (its setup, the dispatch loop
and the blocks it submits, and its teardown or error path) with the mount callback, and under
every result the kernel, the allocator and the application give, `fuse_chan_destroy` is applied
to no channel twice, and every call that finds no object is a call on `NULL`: no channel
function reaches a channel after the release that freed it. -/
theorem no_signal_channel_safe {h : Heap} (hn : 0 < h.next) (ops : FuseChanOps) (bs : Nat)
    (sig : SigState) (t : List LifeAction) (ht : ∀ i, LifeAction.signal i ∉ t) (s : LifeState)
    (hrun : (LifeState.init h ops bs sig).run t = some s) :
    (∀ ch, s.destroyed.count ch ≤ 1) ∧ ∀ a ∈ s.mount.faults, a = 0 := by
  have hi := (LifeState.safeInv_init hn ops bs sig).run ht hrun
  refine ⟨fun ch => ?_, hi.faults⟩
  rcases hi.orch.destroyed with hd | hd <;> rw [hd]
  · simp
  · simp only [List.count_cons, List.count_nil]
    split <;> omega

/-- The same run with no signal. -/
def teardownRun : List LifeAction :=
  [.mount .begin, .mount (.kernMount (some 5)), .mount (.kernChanNew true), .mount .store,
    .mount .unlock, .newCommon (some (⟨1, 0, 0, 0⟩, 0)), .daemonize true,
    .setHandlers fun _ => 7, .loopNextChan, .loopBufsize, .loopExit, .loopWait, .tdNextChan,
    .tdRemove,
    .unmountDisk, .unmountFd, .unmountEnd, .fuseDestroy, .callback 1 0]

theorem no_signal_channel_safe_example :
    (LifeState.init Heap.empty ⟨8, 9, 0⟩ 4096 quietState).run teardownRun =
      some (((LifeState.init Heap.empty ⟨8, 9, 0⟩ 4096 quietState).run teardownRun).getD
        (LifeState.init Heap.empty ⟨8, 9, 0⟩ 4096 quietState)) ∧
    (∀ ch, (((LifeState.init Heap.empty ⟨8, 9, 0⟩ 4096 quietState).run teardownRun).getD
        (LifeState.init Heap.empty ⟨8, 9, 0⟩ 4096 quietState)).destroyed.count ch ≤ 1) ∧
    ∀ a ∈ (((LifeState.init Heap.empty ⟨8, 9, 0⟩ 4096 quietState).run teardownRun).getD
        (LifeState.init Heap.empty ⟨8, 9, 0⟩ 4096 quietState)).mount.faults, a = 0 :=
  have hrun : (LifeState.init Heap.empty ⟨8, 9, 0⟩ 4096 quietState).run teardownRun =
      some (((LifeState.init Heap.empty ⟨8, 9, 0⟩ 4096 quietState).run teardownRun).getD
        (LifeState.init Heap.empty ⟨8, 9, 0⟩ 4096 quietState)) := rfl
  ⟨hrun, no_signal_channel_safe (by decide) ⟨8, 9, 0⟩ 4096 quietState teardownRun
    (by simp [teardownRun]) _ hrun⟩

end MacFuse
