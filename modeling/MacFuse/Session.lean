import Mathlib.Logic.Function.Basic

/-!
# Sessions and channels

`fuse_session.c` keeps the two objects of the library: a session, which routes requests to the
application's callbacks, and a channel, which owns the kernel descriptor. This file is their
heap and the library calls that change it. Addresses are natural numbers, `0` is `NULL`, and
functions and CoreFoundation objects are addresses too. A call that fails an `assert` or
dereferences an address that names no live object returns `none`; allocation never reuses an
address, so an address names one object for the whole run.
-/

namespace MacFuse

/-- The two builds the source selects with `#ifdef __APPLE__`. -/
inductive Platform where
  | apple
  | other
  deriving DecidableEq, Repr

/-- `struct fuse_session_ops`: the application's callbacks, `0` where unset. -/
structure FuseSessionOps where
  process : Nat
  destroy : Nat
  exit : Nat
  exited : Nat
  deriving DecidableEq, Repr

/-- `struct fuse_session`. -/
structure FuseSession where
  op : FuseSessionOps
  /-- The application's data pointer, passed to every callback. -/
  data : Nat
  exited : Bool
  /-- The bound channel, or `0`. -/
  ch : Nat
  /-- The `receive_buf` and `process_buf` overrides, `0` where unset. -/
  receiveBuf : Nat
  processBuf : Nat
  deriving DecidableEq, Repr

/-- `struct fuse_chan_ops`, by address; `destroy` is `0` where unset. -/
structure FuseChanOps where
  receive : Nat
  send : Nat
  destroy : Nat
  deriving DecidableEq, Repr

/-- `struct fuse_chan`. The lock is not a field: the models of concurrent callers make each
locked section one step. -/
structure FuseChan where
  /-- `retain_count` (Apple build). -/
  retainCount : Int
  op : FuseChanOps
  /-- The bound session, or `0`. -/
  se : Nat
  fd : Int
  /-- The attached `DADiskRef`, or `0` (Apple build). -/
  disk : Nat
  bufsize : Nat
  data : Nat
  compat : Nat
  deriving DecidableEq, Repr

/-- A call the library makes out of the heap: to an application callback or to
CoreFoundation. -/
inductive Effect where
  | sessionDestroy (fn data : Nat)
  | sessionExit (fn data : Nat) (forced : Bool)
  | chanDestroy (fn ch : Nat)
  | cfRelease (ref : Nat)
  | cfRetain (ref : Nat)
  deriving DecidableEq, Repr

/-- The objects alive in the process, the next address `malloc` returns, and the calls made
out of the heap so far. -/
structure Heap where
  sessions : Nat → Option FuseSession
  chans : Nat → Option FuseChan
  next : Nat
  log : List Effect

namespace Heap

/-- The process before any session or channel exists. -/
def empty : Heap := ⟨fun _ => none, fun _ => none, 1, []⟩

/-- Store (or free, with `none`) the session at `p`. -/
def setSession (h : Heap) (p : Nat) (s : Option FuseSession) : Heap :=
  { h with sessions := Function.update h.sessions p s }

/-- Store (or free, with `none`) the channel at `p`. -/
def setChan (h : Heap) (p : Nat) (c : Option FuseChan) : Heap :=
  { h with chans := Function.update h.chans p c }

/-- Record a call made out of the heap. -/
def emit (h : Heap) (e : Effect) : Heap := { h with log := h.log ++ [e] }

/-- Record a call guarded by `if (ptr)`: the call is made when the pointer is not `NULL`. -/
def emitIfSet (h : Heap) (ptr : Nat) (e : Effect) : Heap := if ptr = 0 then h else h.emit e

/-- Take the next address. -/
def bump (h : Heap) : Heap := { h with next := h.next + 1 }

@[simp] theorem setSession_sessions (h : Heap) (p : Nat) (s : Option FuseSession) :
    (h.setSession p s).sessions = Function.update h.sessions p s := rfl
@[simp] theorem setSession_chans (h : Heap) (p : Nat) (s : Option FuseSession) :
    (h.setSession p s).chans = h.chans := rfl
@[simp] theorem setSession_next (h : Heap) (p : Nat) (s : Option FuseSession) :
    (h.setSession p s).next = h.next := rfl
@[simp] theorem setChan_sessions (h : Heap) (p : Nat) (c : Option FuseChan) :
    (h.setChan p c).sessions = h.sessions := rfl
@[simp] theorem setChan_chans (h : Heap) (p : Nat) (c : Option FuseChan) :
    (h.setChan p c).chans = Function.update h.chans p c := rfl
@[simp] theorem setChan_next (h : Heap) (p : Nat) (c : Option FuseChan) :
    (h.setChan p c).next = h.next := rfl
@[simp] theorem emit_sessions (h : Heap) (e : Effect) : (h.emit e).sessions = h.sessions := rfl
@[simp] theorem emit_chans (h : Heap) (e : Effect) : (h.emit e).chans = h.chans := rfl
@[simp] theorem emit_next (h : Heap) (e : Effect) : (h.emit e).next = h.next := rfl
@[simp] theorem emitIfSet_sessions (h : Heap) (ptr : Nat) (e : Effect) :
    (h.emitIfSet ptr e).sessions = h.sessions := by unfold emitIfSet; split <;> rfl
@[simp] theorem emitIfSet_chans (h : Heap) (ptr : Nat) (e : Effect) :
    (h.emitIfSet ptr e).chans = h.chans := by unfold emitIfSet; split <;> rfl
@[simp] theorem emitIfSet_next (h : Heap) (ptr : Nat) (e : Effect) :
    (h.emitIfSet ptr e).next = h.next := by unfold emitIfSet; split <;> rfl
@[simp] theorem bump_sessions (h : Heap) : h.bump.sessions = h.sessions := rfl
@[simp] theorem bump_chans (h : Heap) : h.bump.chans = h.chans := rfl
@[simp] theorem bump_next (h : Heap) : h.bump.next = h.next + 1 := rfl

end Heap

/-! ## Sessions -/

/-- `fuse_session_new`: a zeroed session holding the callbacks and the data pointer. -/
def fuseSessionNew (h : Heap) (op : FuseSessionOps) (data : Nat) : Heap × Nat :=
  (h.bump.setSession h.next (some ⟨op, data, false, 0, 0, 0⟩), h.next)

/-- `fuse_session_add_chan`: both `assert`s (`none` when one fails), then the two stores. -/
def fuseSessionAddChan (h : Heap) (se ch : Nat) : Option Heap := do
  let s ← h.sessions se
  let c ← h.chans ch
  if s.ch = 0 ∧ c.se = 0 then
    pure ((h.setSession se (some { s with ch := ch })).setChan ch (some { c with se := se }))
  else none

/-- `fuse_session_remove_chan`: unbind the channel from its session, if it has one. -/
def fuseSessionRemoveChan (h : Heap) (ch : Nat) : Option Heap := do
  let c ← h.chans ch
  if c.se = 0 then pure h else
    let s ← h.sessions c.se
    if s.ch = ch then
      pure ((h.setSession c.se (some { s with ch := 0 })).setChan ch (some { c with se := 0 }))
    else none

/-- `fuse_session_next_chan`: the bound channel after `NULL`, and `NULL` after it. -/
def fuseSessionNextChan (h : Heap) (se ch : Nat) : Option Nat := do
  let s ← h.sessions se
  if ch = 0 then pure s.ch else if ch = s.ch then pure 0 else none

/-- `fuse_session_exit`: the `exit` callback with `forced`, then the flag. -/
def fuseSessionExit (h : Heap) (se : Nat) : Option Heap := do
  let s ← h.sessions se
  let h := h.emitIfSet s.op.exit (.sessionExit s.op.exit s.data true)
  pure (h.setSession se (some { s with exited := true }))

/-- `fuse_session_reset`: the `exit` callback without `forced`, then the flag is cleared. -/
def fuseSessionReset (h : Heap) (se : Nat) : Option Heap := do
  let s ← h.sessions se
  let h := h.emitIfSet s.op.exit (.sessionExit s.op.exit s.data false)
  pure (h.setSession se (some { s with exited := false }))

/-- `fuse_session_exited`: the `exited` callback's answer (`exitedCb fn data`) when it is
set, the flag otherwise. -/
def fuseSessionExited (h : Heap) (exitedCb : Nat → Nat → Bool) (se : Nat) : Option Bool := do
  let s ← h.sessions se
  pure (if s.op.exited = 0 then s.exited else exitedCb s.op.exited s.data)

/-! ## Channels -/

/-- `fuse_chan_new_common`: a zeroed channel with one reference. -/
def fuseChanNewCommon (h : Heap) (op : FuseChanOps) (fd : Int) (bufsize : Nat) (data : Nat)
    (compat : Nat) : Heap × Nat :=
  (h.bump.setChan h.next (some ⟨1, op, 0, fd, 0, bufsize, data, compat⟩), h.next)

/-- `fuse_chan_new`. -/
def fuseChanNew (h : Heap) (op : FuseChanOps) (fd : Int) (bufsize : Nat) (data : Nat) :
    Heap × Nat :=
  fuseChanNewCommon h op fd bufsize data 0

/-- The locked section of `fuse_chan_retain`. -/
def FuseChan.retainSection (c : FuseChan) : FuseChan :=
  { c with retainCount := c.retainCount + 1 }

/-- The locked section of `fuse_chan_release`: `release = --ch->retain_count == 0`. -/
def FuseChan.releaseSection (c : FuseChan) : FuseChan × Bool :=
  ({ c with retainCount := c.retainCount - 1 }, c.retainCount - 1 = 0)

/-- `fuse_chan_retain`. -/
def fuseChanRetain (h : Heap) (ch : Nat) : Option Heap := do
  let c ← h.chans ch
  pure (h.setChan ch (some c.retainSection))

/-- `fuse_chan_release`: the locked decrement; the call that reaches zero releases the disk
and frees the channel. -/
def fuseChanRelease (h : Heap) (ch : Nat) : Option Heap := do
  let c ← h.chans ch
  let (c', release) := c.releaseSection
  if release then
    pure ((h.emitIfSet c'.disk (.cfRelease c'.disk)).setChan ch none)
  else pure (h.setChan ch (some c'))

/-- `fuse_chan_fd`. -/
def fuseChanFd (h : Heap) (ch : Nat) : Option Int := (h.chans ch).map (·.fd)

/-- `fuse_chan_clearfd`: the descriptor, leaving `-1` in the channel. -/
def fuseChanClearfd (h : Heap) (ch : Nat) : Option (Heap × Int) := do
  let c ← h.chans ch
  pure (h.setChan ch (some { c with fd := -1 }), c.fd)

/-- The locked section of `fuse_chan_disk`: the disk, retained for the caller. -/
def FuseChan.diskSection (c : FuseChan) : Nat := c.disk

/-- The locked section of `fuse_chan_set_disk`: store the new disk, take out the old. -/
def FuseChan.setDiskSection (c : FuseChan) (disk : Nat) : FuseChan × Nat :=
  ({ c with disk := disk }, c.disk)

/-- `fuse_chan_disk`: the stored disk, retained under the lock. -/
def fuseChanDisk (h : Heap) (ch : Nat) : Option (Heap × Nat) := do
  let c ← h.chans ch
  let disk := c.diskSection
  pure (h.emitIfSet disk (.cfRetain disk), disk)

/-- `fuse_chan_set_disk`: retain the new disk, swap it in under the lock, release the old. -/
def fuseChanSetDisk (h : Heap) (ch disk : Nat) : Option Heap := do
  let h := h.emitIfSet disk (.cfRetain disk)
  let c ← h.chans ch
  let (c', old) := c.setDiskSection disk
  pure ((h.setChan ch (some c')).emitIfSet old (.cfRelease old))

/-- `fuse_chan_cleardisk`. -/
def fuseChanCleardisk (h : Heap) (ch : Nat) : Option Heap := fuseChanSetDisk h ch 0

/-- `fuse_chan_bufsize`. -/
def fuseChanBufsize (h : Heap) (ch : Nat) : Option Nat := (h.chans ch).map (·.bufsize)

/-- `fuse_chan_session`. -/
def fuseChanSession (h : Heap) (ch : Nat) : Option Nat := (h.chans ch).map (·.se)

/-- `fuse_chan_destroy`: unbind, the `destroy` callback, then the channel's own reference
goes (Apple: `fuse_chan_release`; otherwise `free`). -/
def fuseChanDestroy (p : Platform) (h : Heap) (ch : Nat) : Option Heap := do
  let h ← fuseSessionRemoveChan h ch
  let c ← h.chans ch
  let h := h.emitIfSet c.op.destroy (.chanDestroy c.op.destroy ch)
  match p with
  | .apple => fuseChanRelease h ch
  | .other => pure (h.setChan ch none)

/-- `fuse_session_destroy`: the `destroy` callback, the bound channel, then the session. -/
def fuseSessionDestroy (p : Platform) (h : Heap) (se : Nat) : Option Heap := do
  let s ← h.sessions se
  let h := h.emitIfSet s.op.destroy (.sessionDestroy s.op.destroy s.data)
  let h ← if s.ch = 0 then pure h else fuseChanDestroy p h s.ch
  pure (h.setSession se none)

/-! ## Spec lemmas -/

theorem fuseSessionAddChan_eq_some {h h' : Heap} {se ch : Nat} :
    fuseSessionAddChan h se ch = some h' ↔ ∃ s c, h.sessions se = some s ∧
      h.chans ch = some c ∧ s.ch = 0 ∧ c.se = 0 ∧
      h' = (h.setSession se (some { s with ch := ch })).setChan ch (some { c with se := se }) := by
  cases hs : h.sessions se <;> cases hc : h.chans ch <;>
    simp [fuseSessionAddChan, hs, hc, eq_comm, and_assoc]

theorem fuseSessionRemoveChan_eq_some {h h' : Heap} {ch : Nat} :
    fuseSessionRemoveChan h ch = some h' ↔ ∃ c, h.chans ch = some c ∧
      (c.se = 0 ∧ h' = h ∨ ∃ s, c.se ≠ 0 ∧ h.sessions c.se = some s ∧ s.ch = ch ∧
        h' = (h.setSession c.se (some { s with ch := 0 })).setChan ch
          (some { c with se := 0 })) := by
  cases hc : h.chans ch with
  | none => simp [fuseSessionRemoveChan, hc]
  | some c =>
    by_cases hse : c.se = 0
    · simp [fuseSessionRemoveChan, hc, hse, eq_comm]
    · cases hs : h.sessions c.se <;> simp [fuseSessionRemoveChan, hc, hse, hs, eq_comm]

/-- The decrement that reaches zero frees the channel and releases its disk. -/
theorem fuseChanRelease_eq_some {h h' : Heap} {ch : Nat} :
    fuseChanRelease h ch = some h' ↔ ∃ c, h.chans ch = some c ∧
      (c.retainCount = 1 ∧ h' = (h.emitIfSet c.disk (.cfRelease c.disk)).setChan ch none ∨
        c.retainCount ≠ 1 ∧
          h' = h.setChan ch (some { c with retainCount := c.retainCount - 1 })) := by
  simp only [fuseChanRelease, FuseChan.releaseSection, Option.bind_eq_bind, Option.bind_eq_some]
  refine exists_congr fun c => and_congr_right fun _ => ?_
  by_cases hc : c.retainCount = 1
  · simp [hc, eq_comm]
  · have hc' : c.retainCount - 1 ≠ 0 := by omega
    simp [hc, hc', eq_comm]

/-- `fuse_chan_destroy` is the unbinding, the optional `destroy` callback, and the release of
the channel's own reference. -/
theorem fuseChanDestroy_eq_some {p : Platform} {h h' : Heap} {ch : Nat} :
    fuseChanDestroy p h ch = some h' ↔ ∃ h₁ c, fuseSessionRemoveChan h ch = some h₁ ∧
      h₁.chans ch = some c ∧
      (p = .apple ∧ fuseChanRelease (h₁.emitIfSet c.op.destroy
          (.chanDestroy c.op.destroy ch)) ch = some h' ∨
        p = .other ∧
          h' = (h₁.emitIfSet c.op.destroy (.chanDestroy c.op.destroy ch)).setChan ch none) := by
  cases p <;> simp only [fuseChanDestroy, Option.bind_eq_bind, Option.bind_eq_some,
    Option.some.injEq] <;> simp [eq_comm]

/-- `fuse_session_destroy` destroys the bound channel, if any, before it frees the session. -/
theorem fuseSessionDestroy_eq_some {p : Platform} {h h' : Heap} {se : Nat} :
    fuseSessionDestroy p h se = some h' ↔ ∃ s, h.sessions se = some s ∧
      (s.ch = 0 ∧ h' = (h.emitIfSet s.op.destroy (.sessionDestroy s.op.destroy s.data)).setSession
          se none ∨
        s.ch ≠ 0 ∧ ∃ h₂, fuseChanDestroy p (h.emitIfSet s.op.destroy
          (.sessionDestroy s.op.destroy s.data)) s.ch = some h₂ ∧
          h' = h₂.setSession se none) := by
  unfold fuseSessionDestroy
  cases hs : h.sessions se with
  | none => simp
  | some s =>
    by_cases hch : s.ch = 0 <;>
      simp only [hch, if_true, if_false, Option.some_bind, Option.bind_eq_bind, pure,
        Option.bind_eq_some, Option.some.injEq] <;> simp [hch, eq_comm]

/-! ## The calls on live objects -/

section Live

variable {h : Heap} {ch se : Nat} {c : FuseChan} {s : FuseSession}

theorem fuseChanRetain_of (hc : h.chans ch = some c) :
    fuseChanRetain h ch = some (h.setChan ch (some c.retainSection)) := by
  simp [fuseChanRetain, hc]

theorem fuseChanRelease_of (hc : h.chans ch = some c) :
    fuseChanRelease h ch = some (if c.retainCount = 1 then
      (h.emitIfSet c.disk (.cfRelease c.disk)).setChan ch none
      else h.setChan ch (some { c with retainCount := c.retainCount - 1 })) := by
  by_cases h1 : c.retainCount = 1
  · simp [fuseChanRelease, hc, FuseChan.releaseSection, h1]
  · have h1' : c.retainCount - 1 ≠ 0 := by omega
    simp [fuseChanRelease, hc, FuseChan.releaseSection, h1, h1']

theorem fuseChanDisk_of (hc : h.chans ch = some c) :
    fuseChanDisk h ch = some (h.emitIfSet c.disk (.cfRetain c.disk), c.disk) := by
  simp [fuseChanDisk, hc, FuseChan.diskSection]

theorem fuseChanSetDisk_of (hc : h.chans ch = some c) (disk : Nat) :
    fuseChanSetDisk h ch disk = some (((h.emitIfSet disk (.cfRetain disk)).setChan ch
      (some { c with disk := disk })).emitIfSet c.disk (.cfRelease c.disk)) := by
  simp [fuseChanSetDisk, hc, FuseChan.setDiskSection]

theorem fuseSessionNextChan_of (hs : h.sessions se = some s) :
    fuseSessionNextChan h se 0 = some s.ch := by
  simp [fuseSessionNextChan, hs]

theorem fuseSessionReset_of (hs : h.sessions se = some s) :
    fuseSessionReset h se = some ((h.emitIfSet s.op.exit
      (.sessionExit s.op.exit s.data false)).setSession se (some { s with exited := false })) := by
  simp [fuseSessionReset, hs]

/-- A channel bound to no session is destroyed by the release of its own reference. -/
theorem fuseChanDestroy_apple_of_loose (hc : h.chans ch = some c) (h0 : c.se = 0) :
    fuseChanDestroy .apple h ch =
      fuseChanRelease (h.emitIfSet c.op.destroy (.chanDestroy c.op.destroy ch)) ch := by
  simp [fuseChanDestroy, fuseSessionRemoveChan, hc, h0]

/-- A channel bound to a session that points back is unbound, then released. -/
theorem fuseChanDestroy_apple_of_bound (hc : h.chans ch = some c) (hse : c.se ≠ 0)
    (hs : h.sessions c.se = some s) (hch : s.ch = ch) :
    fuseChanDestroy .apple h ch =
      fuseChanRelease ((((h.setSession c.se (some { s with ch := 0 })).setChan ch
        (some { c with se := 0 }))).emitIfSet c.op.destroy (.chanDestroy c.op.destroy ch)) ch := by
  simp [fuseChanDestroy, fuseSessionRemoveChan, hc, hse, hs, hch]

theorem fuseSessionDestroy_of (p : Platform) (hs : h.sessions se = some s) :
    fuseSessionDestroy p h se =
      (if s.ch = 0 then some (h.emitIfSet s.op.destroy (.sessionDestroy s.op.destroy s.data))
        else fuseChanDestroy p (h.emitIfSet s.op.destroy
          (.sessionDestroy s.op.destroy s.data)) s.ch).map fun h => h.setSession se none := by
  by_cases h0 : s.ch = 0 <;>
    simp [fuseSessionDestroy, hs, h0, Option.map_eq_bind, Function.comp_def]

/-- `fuse_chan_set_disk` moves no address. -/
theorem fuseChanSetDisk_next {h' : Heap} {disk : Nat} (hs : fuseChanSetDisk h ch disk = some h') :
    h'.next = h.next := by
  cases hc : h.chans ch with
  | none => simp [fuseChanSetDisk, hc] at hs
  | some c => rw [fuseChanSetDisk_of hc] at hs; cases hs; simp

/-- Destroying a live channel that is bound to no session takes away one reference. -/
theorem fuseChanDestroy_apple_loose (hc : h.chans ch = some c) (h0 : c.se = 0) :
    ∃ h', fuseChanDestroy .apple h ch = some h' ∧ h'.next = h.next ∧
      h'.sessions = h.sessions ∧
      h'.chans ch = if c.retainCount = 1 then none
        else some { c with retainCount := c.retainCount - 1 } := by
  rw [fuseChanDestroy_apple_of_loose hc h0, fuseChanRelease_of (c := c) (by simpa using hc)]
  refine ⟨_, rfl, ?_, ?_, ?_⟩ <;> split_ifs <;> simp

/-- Destroying a live channel bound to a session that points back unbinds both and takes
away one reference. -/
theorem fuseChanDestroy_apple_bound (hc : h.chans ch = some c) (hse : c.se ≠ 0)
    (hs : h.sessions c.se = some s) (hch : s.ch = ch) :
    ∃ h', fuseChanDestroy .apple h ch = some h' ∧ h'.next = h.next ∧
      h'.sessions c.se = some { s with ch := 0 } ∧
      h'.chans ch = if c.retainCount = 1 then none
        else some { c with se := 0, retainCount := c.retainCount - 1 } := by
  rw [fuseChanDestroy_apple_of_bound hc hse hs hch,
    fuseChanRelease_of (c := { c with se := 0 }) (by simp)]
  refine ⟨_, rfl, ?_, ?_, ?_⟩ <;> split_ifs <;> simp

end Live

end MacFuse
