import MacFuse.Mount
import MacFuse.Signals

/-!
# The other build

Without `__APPLE__`, `fuse_mount_common` makes the channel right after the kernel mount and
undoes the mount when that fails; `fuse_unmount_common` does nothing without a mount point, and
otherwise takes the channel's descriptor out, unmounts with it and destroys the channel; and
`exit_handler` only asks the registered session to exit. This file models them,
`fuse_teardown_common` with `SIGHUP`, `SIGINT` or `SIGTERM` arriving before, between and after
its calls, and the heap part of `fuse_setup_common` with its `err_unmount` path.

The results: on this build a signal never reaches a channel, and the teardown destroys the
session's channel exactly once, through `fuse_unmount_common` when the caller kept the mount
point and through `fuse_destroy` when it did not; the Apple build's exit handler, which unmounts,
can destroy it twice (`teardown_signal_double_destroy`). A setup that succeeds leaves the state
the teardown starts from, and one that fails destroys the channel it made exactly once, except
without a mount point after a failed `fuse_new_common`, where the channel is never freed.
-/

namespace MacFuse

/-- `fuse_mount_common` on the other build, after the descriptor loop: `fuse_mount_compat25`
returned `fd`; a channel is made on it (`fuse_kern_chan_new`, whose allocation succeeds when
`ok`), and when that fails the mount is undone with `fuse_kern_unmount(mountpoint, fd)`. The
heap, the channel (`0` for `NULL`) and the `fuse_kern_unmount` calls made. -/
def fuseMountCommonOther (h : Heap) (ops : FuseChanOps) (bufsize mountpoint : Nat) (fd : Int)
    (ok : Bool) : Heap × Nat × List (Nat × Int) :=
  if fd = -1 then (h, 0, [])
  else
    let (h, ch) := fuseKernChanNew h ops bufsize fd.toNat ok
    if ch = 0 then (h, 0, [(mountpoint, fd)]) else (h, ch, [])

/-- `fuse_mount_common` on the other build: no channel and no unmount when the mount failed; a
failed `fuse_kern_chan_new` undoes the mount with the same descriptor; otherwise a fresh channel
on that descriptor, bound to no session. -/
theorem fuseMountCommonOther_cases {h h' : Heap} {ops : FuseChanOps} {bufsize mountpoint ch : Nat}
    {fd : Int} {ok : Bool} {u : List (Nat × Int)} (hfd : -1 ≤ fd)
    (hm : fuseMountCommonOther h ops bufsize mountpoint fd ok = (h', ch, u)) :
    ch = 0 ∧ u = (if fd = -1 then [] else [(mountpoint, fd)]) ∨
      ch ≠ 0 ∧ u = [] ∧ ∃ c, h'.chans ch = some c ∧ c.fd = fd ∧ c.se = 0 := by
  unfold fuseMountCommonOther at hm
  by_cases h1 : fd = -1
  · simp only [if_pos h1, Prod.mk.injEq] at hm
    exact .inl ⟨hm.2.1.symm, by simp [h1, hm.2.2]⟩
  have hnat : ((fd.toNat : Nat) : Int) = fd := Int.toNat_of_nonneg (by omega)
  cases ok
  · simp only [if_neg h1, fuseKernChanNew, Bool.false_eq_true, ↓reduceIte, Prod.mk.injEq] at hm
    exact .inl ⟨hm.2.1.symm, by simp [h1, hm.2.2]⟩
  · simp only [if_neg h1, fuseKernChanNew, if_true, fuseChanNew, fuseChanNewCommon] at hm
    by_cases h0 : h.next = 0
    · simp only [h0, if_true, Prod.mk.injEq] at hm
      exact .inl ⟨hm.2.1.symm, by simp [h1, hm.2.2]⟩
    simp only [if_neg h0, Prod.mk.injEq] at hm
    obtain ⟨rfl, rfl, rfl⟩ := hm
    exact .inr ⟨h0, rfl, ⟨1, ops, 0, fd.toNat, 0, bufsize, 0, 0⟩, by simp, hnat, rfl⟩

/-- `fuse_unmount_common(mountpoint, ch)` on the other build, with the `fuse_kern_unmount` calls
it makes; `none` when a call finds no object. -/
def fuseUnmountCommonOther (h : Heap) (mountpoint ch : Nat) :
    Option (Heap × List (Nat × Int)) :=
  if mountpoint = 0 then some (h, [])
  else do
    let (h, fd) ← if ch = 0 then some (h, -1) else fuseChanClearfd h ch
    let h ← if ch = 0 then some h else fuseChanDestroy .other h ch
    pure (h, [(mountpoint, fd)])

/-- `exit_handler(sig)` on the other build: `fuse_session_exit(fuse_instance)` when a session is
registered. -/
def exitHandlerOther (h : Heap) (inst : Nat) : Option Heap :=
  if inst = 0 then some h else fuseSessionExit h inst

/-- Where `fuse_teardown_common` is: before `fuse_session_next_chan`; in
`fuse_remove_signal_handlers`, before `fuse_instance` is cleared and before the handlers are
restored; before `fuse_unmount_common`; before `fuse_destroy`; returned; or ended by a signal's
default action. -/
inductive TeardownPc where
  | nextChan
  | removeInstance
  | restore
  | unmount
  | destroy
  | done
  | killed
  deriving DecidableEq, Repr

/-- The teardown of the session `se` and the mount point `mountpoint`: the channel it read,
`fuse_instance`, whether `exit_handler` is the handler of the three signals, the
`fuse_kern_unmount` calls, the channels passed to `fuse_chan_destroy`, and whether a call found
no object. -/
structure TeardownState where
  heap : Heap
  pc : TeardownPc
  se : Nat
  mountpoint : Nat
  ch : Nat
  inst : Nat
  handlers : Bool
  unmounts : List (Nat × Int)
  destroyed : List Nat
  faulted : Bool

/-- After a successful `fuse_setup_common`: the handlers are set for `se`. -/
def TeardownState.init (h : Heap) (se mountpoint : Nat) : TeardownState :=
  ⟨h, .nextChan, se, mountpoint, 0, se, true, [], [], false⟩

/-- The teardown's next call, or a signal. -/
inductive TeardownAction where
  | call
  | signal
  deriving DecidableEq, Repr

namespace TeardownState

/-- A call that found no object. -/
def fault (s : TeardownState) : TeardownState := { s with faulted := true }

/-- The next call of `fuse_teardown_common`. -/
def call (s : TeardownState) : Option TeardownState :=
  match s.pc with
  | .nextChan =>
    some (match fuseSessionNextChan s.heap s.se 0 with
      | some ch => { s with ch := ch, pc := .removeInstance }
      | none => { s.fault with pc := .removeInstance })
  | .removeInstance => some { s with inst := if s.inst = s.se then 0 else s.inst, pc := .restore }
  | .restore => some { s with handlers := false, pc := .unmount }
  | .unmount =>
    some (match fuseUnmountCommonOther s.heap s.mountpoint s.ch with
      | some (h, u) =>
        { s with
          heap := h
          unmounts := s.unmounts ++ u
          destroyed := s.destroyed ++ (if s.mountpoint ≠ 0 ∧ s.ch ≠ 0 then [s.ch] else [])
          pc := .destroy }
      | none => { s.fault with pc := .destroy })
  | .destroy =>
    some (match s.heap.sessions s.se, fuseSessionDestroy .other s.heap s.se with
      | some x, some h =>
        { s with
          heap := h
          destroyed := s.destroyed ++ (if x.ch = 0 then [] else [x.ch])
          pc := .done }
      | _, _ => { s.fault with pc := .done })
  | .done | .killed => none

/-- `SIGHUP`, `SIGINT` or `SIGTERM`: `exit_handler` while it is the handler, otherwise the
default action, which ends the process. -/
def signal (s : TeardownState) : Option TeardownState :=
  match s.pc with
  | .done | .killed => none
  | _ =>
    if s.handlers then
      some (match exitHandlerOther s.heap s.inst with
        | some h => { s with heap := h }
        | none => s.fault)
    else some { s with pc := .killed }

def step (s : TeardownState) : TeardownAction → Option TeardownState
  | .call => s.call
  | .signal => s.signal

/-- Run the steps of a schedule in order; `none` when one of them cannot run. -/
def run (s : TeardownState) : List TeardownAction → Option TeardownState
  | [] => some s
  | a :: as => (s.step a).bind fun s' => s'.run as

end TeardownState

/-! ## The invariant -/

section Invariant

variable (se ch₀ : Nat) (fd₀ : Int)

/-- The session bound to its channel `ch₀` (none when `0`), whose descriptor is `fd₀`. -/
def TdLive (h : Heap) : Prop :=
  ∃ x, h.sessions se = some x ∧ x.ch = ch₀ ∧
    (ch₀ ≠ 0 → ∃ c, h.chans ch₀ = some c ∧ c.se = se ∧ c.fd = fd₀)

/-- The session alone, its channel destroyed. -/
def TdUnbound (h : Heap) : Prop :=
  ∃ x, h.sessions se = some x ∧ x.ch = 0 ∧ h.chans ch₀ = none

/-- Both freed. -/
def TdGone (h : Heap) : Prop := h.sessions se = none ∧ (ch₀ ≠ 0 → h.chans ch₀ = none)

/-- The `fuse_kern_unmount` calls of `fuse_unmount_common`: one, with the channel's descriptor,
when the caller kept the mount point. -/
def tdUnmounts (mp : Nat) : List (Nat × Int) :=
  if mp = 0 then [] else [(mp, if ch₀ = 0 then -1 else fd₀)]

/-- What the teardown has done at each point, for the session `se`, the mount point `mp`, and
the channel `ch₀` with descriptor `fd₀` that the session holds on entry. -/
def TdInv (mp : Nat) (s : TeardownState) : Prop :=
  s.se = se ∧ s.mountpoint = mp ∧ s.faulted = false ∧
  match s.pc with
  | .nextChan => TdLive se ch₀ fd₀ s.heap ∧ s.inst = se ∧ s.handlers = true ∧
      s.unmounts = [] ∧ s.destroyed = []
  | .removeInstance => TdLive se ch₀ fd₀ s.heap ∧ s.ch = ch₀ ∧ s.inst = se ∧
      s.handlers = true ∧ s.unmounts = [] ∧ s.destroyed = []
  | .restore => TdLive se ch₀ fd₀ s.heap ∧ s.ch = ch₀ ∧ s.inst = 0 ∧ s.handlers = true ∧
      s.unmounts = [] ∧ s.destroyed = []
  | .unmount => TdLive se ch₀ fd₀ s.heap ∧ s.ch = ch₀ ∧ s.handlers = false ∧
      s.unmounts = [] ∧ s.destroyed = []
  | .destroy => s.handlers = false ∧ s.unmounts = tdUnmounts ch₀ fd₀ mp ∧
      (mp ≠ 0 ∧ ch₀ ≠ 0 ∧ TdUnbound se ch₀ s.heap ∧ s.destroyed = [ch₀] ∨
        (mp = 0 ∨ ch₀ = 0) ∧ TdLive se ch₀ fd₀ s.heap ∧ s.destroyed = [])
  | .done => TdGone se ch₀ s.heap ∧ s.unmounts = tdUnmounts ch₀ fd₀ mp ∧
      s.destroyed = if ch₀ = 0 then [] else [ch₀]
  | .killed => s.destroyed = [] ∨ s.destroyed = [ch₀]

end Invariant

section Steps

variable {se ch₀ mp : Nat} {fd₀ : Int} {h : Heap}

/-- `exit_handler` only sets the session's flag: the binding and the channel stay. -/
theorem TdLive.exitHandler (hl : TdLive se ch₀ fd₀ h) (inst : Nat) (hi : inst = se ∨ inst = 0) :
    ∃ h', exitHandlerOther h inst = some h' ∧ TdLive se ch₀ fd₀ h' := by
  by_cases h0 : inst = 0
  · exact ⟨h, if_pos h0, hl⟩
  obtain rfl := hi.resolve_right h0
  obtain ⟨x, hx, hch, hc⟩ := hl
  refine ⟨(h.emitIfSet x.op.exit (.sessionExit x.op.exit x.data true)).setSession inst
    (some { x with exited := true }), by simp [exitHandlerOther, h0, fuseSessionExit, hx],
    { x with exited := true }, by simp, hch, fun hne => ?_⟩
  obtain ⟨c, hc, hse, hfd⟩ := hc hne
  exact ⟨c, by simpa using hc, hse, hfd⟩

/-- A channel bound to a session that points back is unbound, then freed. -/
theorem fuseChanDestroy_other_of_bound {ch : Nat} {c : FuseChan} {x : FuseSession}
    (hc : h.chans ch = some c) (hse : c.se ≠ 0) (hs : h.sessions c.se = some x)
    (hch : x.ch = ch) :
    fuseChanDestroy .other h ch = some ((((h.setSession c.se (some { x with ch := 0 })).setChan
      ch (some { c with se := 0 })).emitIfSet c.op.destroy (.chanDestroy c.op.destroy ch)).setChan
      ch none) := by
  simp [fuseChanDestroy, fuseSessionRemoveChan, hc, hse, hs, hch]

/-- `fuse_unmount_common` with a mount point destroys the bound channel, after taking out its
descriptor for `fuse_kern_unmount`. -/
theorem TdLive.unmount (hl : TdLive se ch₀ fd₀ h) (hse : se ≠ 0) (hmp : mp ≠ 0) :
    ∃ h', fuseUnmountCommonOther h mp ch₀ = some (h', tdUnmounts ch₀ fd₀ mp) ∧
      (ch₀ ≠ 0 ∧ TdUnbound se ch₀ h' ∨ ch₀ = 0 ∧ TdLive se ch₀ fd₀ h') := by
  by_cases h0 : ch₀ = 0
  · subst h0
    exact ⟨h, by simp [fuseUnmountCommonOther, hmp, tdUnmounts], .inr ⟨rfl, hl⟩⟩
  obtain ⟨x, hx, hch, hc⟩ := hl
  obtain ⟨c, hcc, hcse, hfd⟩ := hc h0
  subst hcse
  have hclear : fuseChanClearfd h ch₀ = some (h.setChan ch₀ (some { c with fd := -1 }), fd₀) := by
    simp [fuseChanClearfd, hcc, hfd]
  obtain ⟨hd, hdes, hds, hdc⟩ : ∃ hd, fuseChanDestroy .other (h.setChan ch₀
      (some { c with fd := -1 })) ch₀ = some hd ∧ hd.sessions c.se = some { x with ch := 0 } ∧
      hd.chans ch₀ = none :=
    ⟨_, fuseChanDestroy_other_of_bound (c := { c with fd := -1 }) (x := x) (by simp) hse
      (by simpa using hx) hch, by simp, by simp⟩
  refine ⟨hd, ?_, .inl ⟨h0, { x with ch := 0 }, hds, rfl, hdc⟩⟩
  simp only [fuseUnmountCommonOther, if_neg hmp, if_neg h0, hclear, hdes, tdUnmounts,
    Option.bind_eq_bind, Option.some_bind]
  rfl

/-- `fuse_destroy` frees the session, and the channel still bound to it. -/
theorem TdLive.destroy (hl : TdLive se ch₀ fd₀ h) (hse : se ≠ 0) :
    ∃ x h', h.sessions se = some x ∧ fuseSessionDestroy .other h se = some h' ∧
      x.ch = ch₀ ∧ TdGone se ch₀ h' := by
  obtain ⟨x, hx, hch, hc⟩ := hl
  by_cases h0 : ch₀ = 0
  · exact ⟨x, _, hx, by rw [fuseSessionDestroy_of _ hx, if_pos (hch.trans h0)]; rfl, hch,
      by simp, fun hne => absurd h0 hne⟩
  obtain ⟨c, hcc, hcse, -⟩ := hc h0
  subst hcse
  have hdes := fuseChanDestroy_other_of_bound
    (h := h.emitIfSet x.op.destroy (.sessionDestroy x.op.destroy x.data)) (c := c) (x := x)
    (by simpa using hcc) hse (by simpa using hx) hch
  exact ⟨x, _, hx, by rw [fuseSessionDestroy_of _ hx, if_neg (hch ▸ h0), hch, hdes]; rfl, hch,
    by simp, fun _ => by simp⟩

/-- `fuse_destroy` after the channel was destroyed frees the session alone. -/
theorem TdUnbound.destroy (hu : TdUnbound se ch₀ h) :
    ∃ x h', h.sessions se = some x ∧ fuseSessionDestroy .other h se = some h' ∧
      x.ch = 0 ∧ TdGone se ch₀ h' := by
  obtain ⟨x, hx, hch, hc⟩ := hu
  exact ⟨x, _, hx, by rw [fuseSessionDestroy_of _ hx, if_pos hch]; rfl, hch, by simp,
    fun _ => by simpa using hc⟩

end Steps

/-! ## Every schedule -/

section Run

variable {se ch₀ mp : Nat} {fd₀ : Int} {h h₀ : Heap} {s s' : TeardownState} {a : TeardownAction}

/-- `fuse_session_add_chan` leaves the session bound to the channel, with the channel's
descriptor. -/
theorem TdLive.of_addChan {c : FuseChan} (hc : h₀.chans ch₀ = some c)
    (hadd : fuseSessionAddChan h₀ se ch₀ = some h) : TdLive se ch₀ c.fd h := by
  obtain ⟨x, c', -, hc', -, -, rfl⟩ := fuseSessionAddChan_eq_some.mp hadd
  obtain rfl := Option.some.inj (hc.symm.trans hc')
  exact ⟨{ x with ch := ch₀ }, by simp, rfl, fun _ => ⟨{ c with se := se }, by simp, rfl, rfl⟩⟩

/-- So the channel `fuse_mount_common` made, once `fuse_session_add_chan` binds it to the session
of `fuse_new_common`, is bound on the descriptor of the mount. -/
theorem TdLive.of_mount {ops : FuseChanOps} {bufsize : Nat} {fd : Int} {ok : Bool} {h₁ h₂ : Heap}
    {u : List (Nat × Int)} (hfd : -1 ≤ fd)
    (hm : fuseMountCommonOther h₀ ops bufsize mp fd ok = (h₁, ch₀, u)) (hch : ch₀ ≠ 0)
    (hkeep : h₂.chans ch₀ = h₁.chans ch₀) (hadd : fuseSessionAddChan h₂ se ch₀ = some h) :
    TdLive se ch₀ fd h := by
  obtain ⟨h0, -⟩ | ⟨-, -, c, hc, rfl, -⟩ := fuseMountCommonOther_cases hfd hm
  · exact absurd h0 hch
  · exact TdLive.of_addChan (hkeep.trans hc) hadd

theorem TdInv.init (hl : TdLive se ch₀ fd₀ h) : TdInv se ch₀ fd₀ mp (.init h se mp) :=
  ⟨rfl, rfl, rfl, hl, rfl, rfl, rfl, rfl⟩

/-- Every call, and every signal, keeps the invariant. -/
theorem TdInv.step (hse : se ≠ 0) (hi : TdInv se ch₀ fd₀ mp s) (hs : s.step a = some s') :
    TdInv se ch₀ fd₀ mp s' := by
  obtain ⟨heap, pc, se', mp', ch, inst, handlers, unmounts, destroyed, faulted⟩ := s
  obtain ⟨h1, h2, rfl, hpc⟩ := hi
  dsimp only at h1 h2 hpc
  subst se' mp'
  cases pc <;> cases a <;>
    simp only [TeardownState.step, TeardownState.call, TeardownState.signal, reduceCtorEq] at hs
  case nextChan.call =>
    obtain ⟨hl, hin, hh, rfl, rfl⟩ := hpc
    obtain ⟨x, hx, hch, -⟩ := id hl
    simp only [fuseSessionNextChan_of hx, Option.some.injEq] at hs
    subst hs
    exact ⟨rfl, rfl, rfl, hl, hch, hin, hh, rfl, rfl⟩
  case nextChan.signal =>
    obtain ⟨hl, hin, rfl, rfl, rfl⟩ := hpc
    obtain ⟨h', he, hl'⟩ := hl.exitHandler inst (.inl hin)
    simp only [if_true, he, Option.some.injEq] at hs
    subst hs
    exact ⟨rfl, rfl, rfl, hl', hin, rfl, rfl, rfl⟩
  case removeInstance.call =>
    obtain ⟨hl, hch, hin, hh, rfl, rfl⟩ := hpc
    simp only [hin, if_true, Option.some.injEq] at hs
    subst hs
    exact ⟨rfl, rfl, rfl, hl, hch, rfl, hh, rfl, rfl⟩
  case removeInstance.signal =>
    obtain ⟨hl, hch, hin, rfl, rfl, rfl⟩ := hpc
    obtain ⟨h', he, hl'⟩ := hl.exitHandler inst (.inl hin)
    simp only [if_true, he, Option.some.injEq] at hs
    subst hs
    exact ⟨rfl, rfl, rfl, hl', hch, hin, rfl, rfl, rfl⟩
  case restore.call =>
    obtain ⟨hl, hch, -, -, rfl, rfl⟩ := hpc
    simp only [Option.some.injEq] at hs
    subst hs
    exact ⟨rfl, rfl, rfl, hl, hch, rfl, rfl, rfl⟩
  case restore.signal =>
    obtain ⟨hl, hch, rfl, rfl, rfl, rfl⟩ := hpc
    simp only [exitHandlerOther, if_true, Option.some.injEq] at hs
    subst hs
    exact ⟨rfl, rfl, rfl, hl, hch, rfl, rfl, rfl, rfl⟩
  case unmount.call =>
    obtain ⟨hl, rfl, hh, rfl, rfl⟩ := hpc
    by_cases hmp : mp = 0
    · subst hmp
      simp only [fuseUnmountCommonOther, if_true, Option.some.injEq] at hs
      subst hs
      exact ⟨rfl, rfl, rfl, hh, by simp [tdUnmounts], .inr ⟨.inl rfl, hl, by simp⟩⟩
    obtain ⟨h', he, hr⟩ := hl.unmount hse hmp
    simp only [he, Option.some.injEq] at hs
    subst hs
    rcases hr with ⟨h0, hu⟩ | ⟨h0, hl'⟩
    · exact ⟨rfl, rfl, rfl, hh, rfl, .inl ⟨hmp, h0, hu, by simp [hmp, h0]⟩⟩
    · exact ⟨rfl, rfl, rfl, hh, rfl, .inr ⟨.inr h0, hl', by simp [h0]⟩⟩
  case unmount.signal =>
    obtain ⟨-, -, rfl, -, rfl⟩ := hpc
    simp only [Bool.false_eq_true, if_false, Option.some.injEq] at hs
    subst hs
    exact ⟨rfl, rfl, rfl, .inl rfl⟩
  case destroy.call =>
    obtain ⟨hh, hu, ⟨-, h0, hub, rfl⟩ | ⟨-, hl, rfl⟩⟩ := hpc
    · obtain ⟨x, h', hx, hd, hch, hg⟩ := hub.destroy
      simp only [hx, hd, hch, if_true, Option.some.injEq] at hs
      subst hs
      exact ⟨rfl, rfl, rfl, hg, hu, by simp [h0]⟩
    · obtain ⟨x, h', hx, hd, hch, hg⟩ := hl.destroy hse
      simp only [hx, hd, hch, Option.some.injEq] at hs
      subst hs
      exact ⟨rfl, rfl, rfl, hg, hu, by simp⟩
  case destroy.signal =>
    obtain ⟨rfl, -, ⟨-, -, -, rfl⟩ | ⟨-, -, rfl⟩⟩ := hpc <;>
      simp only [Bool.false_eq_true, if_false, Option.some.injEq] at hs <;> subst hs
    · exact ⟨rfl, rfl, rfl, .inr rfl⟩
    · exact ⟨rfl, rfl, rfl, .inl rfl⟩

theorem TdInv.run (hse : se ≠ 0) :
    ∀ (t : List TeardownAction) {s s' : TeardownState},
      TdInv se ch₀ fd₀ mp s → s.run t = some s' → TdInv se ch₀ fd₀ mp s'
  | [], _, _, hi, h => by cases h; exact hi
  | a :: t, _, _, hi, h => by
    obtain ⟨s₁, hs, ht⟩ := Option.bind_eq_some.mp h
    exact TdInv.run hse t (hi.step hse hs) ht

/-- Each call moves the teardown to its next call, whatever the call found. -/
theorem TeardownState.call_pc (s : TeardownState) : s.call.map pc = match s.pc with
    | .nextChan => some .removeInstance
    | .removeInstance => some .restore
    | .restore => some .unmount
    | .unmount => some .destroy
    | .destroy => some .done
    | .done | .killed => none := by
  obtain ⟨_, pc, _⟩ := s
  cases pc <;> simp only [call, Option.map_some', Option.map_none'] <;> split <;> rfl

/-- Without signals, the five calls of the teardown run to its end. -/
theorem TeardownState.run_calls {s : TeardownState} (hs : s.pc = .nextChan) :
    ∃ s', s.run (List.replicate 5 .call) = some s' ∧ s'.pc = .done := by
  obtain ⟨s₁, h₁, p₁⟩ := Option.map_eq_some'.mp
    (show s.call.map pc = some .removeInstance by rw [call_pc, hs])
  obtain ⟨s₂, h₂, p₂⟩ := Option.map_eq_some'.mp
    (show s₁.call.map pc = some .restore by rw [call_pc, p₁])
  obtain ⟨s₃, h₃, p₃⟩ := Option.map_eq_some'.mp
    (show s₂.call.map pc = some .unmount by rw [call_pc, p₂])
  obtain ⟨s₄, h₄, p₄⟩ := Option.map_eq_some'.mp
    (show s₃.call.map pc = some .destroy by rw [call_pc, p₃])
  obtain ⟨s₅, h₅, p₅⟩ := Option.map_eq_some'.mp
    (show s₄.call.map pc = some .done by rw [call_pc, p₄])
  exact ⟨s₅, by simp [run, step, h₁, h₂, h₃, h₄, h₅], p₅⟩

/-- The channel is destroyed at most once, at every point. -/
theorem TdInv.destroyed (hi : TdInv se ch₀ fd₀ mp s) : s.destroyed = [] ∨ s.destroyed = [ch₀] := by
  obtain ⟨-, -, -, hpc⟩ := hi
  revert hpc
  cases s.pc
  case destroy => rintro ⟨-, -, ⟨-, -, -, h⟩ | ⟨-, -, h⟩⟩ <;> simp [h]
  case done => rintro ⟨-, -, h⟩; by_cases h0 : ch₀ = 0 <;> simp [h, h0]
  case killed => exact id
  case nextChan | unmount => exact fun h => .inl h.2.2.2.2
  case removeInstance | restore => exact fun h => .inl h.2.2.2.2.2

/-- On the other build, `fuse_teardown_common` of a session `se` bound to the channel `ch₀`
whose descriptor is `fd₀`, with `SIGHUP`, `SIGINT` and `SIGTERM` arriving at any points: with no
signal its five calls run to the end; and whatever the schedule, no call finds a freed object,
the channel is destroyed at most once, and a teardown that returns has freed the session and the
channel, destroyed the channel exactly once, and unmounted with its descriptor when the caller
kept the mount point. -/
theorem teardown_other_destroys_once (hse : se ≠ 0) (hl : TdLive se ch₀ fd₀ h) :
    (∃ s, (TeardownState.init h se mp).run (List.replicate 5 .call) = some s ∧ s.pc = .done) ∧
    ∀ acts s, (TeardownState.init h se mp).run acts = some s →
      s.faulted = false ∧ (s.destroyed = [] ∨ s.destroyed = [ch₀]) ∧
      (s.pc = .done → TdGone se ch₀ s.heap ∧ s.unmounts = tdUnmounts ch₀ fd₀ mp ∧
        s.destroyed = if ch₀ = 0 then [] else [ch₀]) := by
  refine ⟨TeardownState.run_calls rfl, fun acts s hrun => ?_⟩
  have hi : TdInv se ch₀ fd₀ mp s := TdInv.run hse acts (TdInv.init hl) hrun
  refine ⟨hi.2.2.1, hi.destroyed, fun hd => ?_⟩
  obtain ⟨-, -, -, hpc⟩ := hi
  simpa only [hd] using hpc

/-- The mount at `3` on descriptor `5` makes the channel at `1`, and `fuse_session_add_chan` binds
it to the session at `2`. -/
theorem teardown_other_destroys_once_example :
    let m := fuseMountCommonOther Heap.empty ⟨0, 0, 0⟩ 4096 3 5 true
    let h₂ := (fuseSessionNew m.1 ⟨0, 0, 0, 0⟩ 0).1
    let h := (fuseSessionAddChan h₂ 2 1).getD h₂
    2 ≠ 0 ∧ TdLive 2 1 5 h ∧
    (∃ s, (TeardownState.init h 2 3).run (List.replicate 5 .call) = some s ∧ s.pc = .done) ∧
    ∀ acts s, (TeardownState.init h 2 3).run acts = some s →
      s.faulted = false ∧ (s.destroyed = [] ∨ s.destroyed = [1]) ∧
      (s.pc = .done → TdGone 2 1 s.heap ∧ s.unmounts = tdUnmounts 1 5 3 ∧
        s.destroyed = if 1 = 0 then [] else [1]) := by
  intro m h₂ h
  have hl : TdLive 2 1 5 h := TdLive.of_mount (by decide) (show m = (m.1, 1, []) from rfl)
    (by decide) (show h₂.chans 1 = m.1.chans 1 from rfl)
    (show fuseSessionAddChan h₂ 2 1 = some h from rfl)
  exact ⟨by decide, hl, @teardown_other_destroys_once 2 1 3 5 h (by decide) hl⟩

end Run

/-! ## Setting up

`fuse_setup_common` on this build mounts, makes `fuse` with `fuse_new_common`, daemonizes and
installs the signal handlers; a failure after the channel was made jumps to `err_unmount`, which
calls `fuse_unmount_common(*mountpoint, ch)` and then `fuse_destroy(fuse)` if `fuse` was made.
The parse before and the mount point's string are modelled in `Main`; here the heap is followed.
The session stands for `fuse`. -/

/-- What the heap part of `fuse_setup_common` leaves: the session of the `fuse` it returns (`0`
for `NULL`), the channel the mount made (`0` for none), the signal state, the
`fuse_kern_unmount` calls, and the channels passed to `fuse_chan_destroy`. -/
structure OtherSetup where
  heap : Heap
  fuse : Nat
  ch : Nat
  sig : SigState
  unmounts : List (Nat × Int)
  destroyed : List Nat

/-- `err_unmount`: `fuse_unmount_common(mountpoint, ch)`, then `fuse_destroy(fuse)` when `fuse`
was made; the heap, the `fuse_kern_unmount` calls and the channels destroyed. -/
def errUnmountOther (h : Heap) (mountpoint ch fuse : Nat) :
    Option (Heap × List (Nat × Int) × List Nat) := do
  let (h, u) ← fuseUnmountCommonOther h mountpoint ch
  let d := if mountpoint ≠ 0 ∧ ch ≠ 0 then [ch] else []
  if fuse = 0 then pure (h, u, d)
  else
    let x ← h.sessions fuse
    let h ← fuseSessionDestroy .other h fuse
    pure (h, u, d ++ if x.ch = 0 then [] else [x.ch])

/-- `fuse_setup_common` on the other build, after the parse, on the heap: `fd` is what
`fuse_mount_compat25` returned, `chanOk` whether `fuse_kern_chan_new` could allocate, `newFuse`
the callbacks and data of the session `fuse_new_common` makes (`none` when it fails), and
`daemonOk` whether `fuse_daemonize` succeeded. `none` when a call finds no object.

`fuse_new_common` is in `fuse.c`, not among the sources. Its failure is modelled from the spec:
it fails before it binds the channel, and leaves the channel as it was. The `fuse.c` of FUSE 2.9
can also fail after `fuse_session_add_chan`, and then destroys the session and with it the bound
channel; that failure is not modelled. -/
def fuseSetupCommonOther (h : Heap) (sig : SigState) (mountpoint : Nat) (fd : Int)
    (ops : FuseChanOps) (bufsize : Nat) (chanOk : Bool) (newFuse : Option (FuseSessionOps × Nat))
    (daemonOk : Bool) : Option OtherSetup :=
  let (h, ch, u) := fuseMountCommonOther h ops bufsize mountpoint fd chanOk
  if ch = 0 then some ⟨h, 0, 0, sig, u, []⟩
  else
    match newFuse with
    | none => (errUnmountOther h mountpoint ch 0).map fun (h, u', d) => ⟨h, 0, ch, sig, u ++ u', d⟩
    | some (op, data) =>
      let (h, se) := fuseSessionNew h op data
      (fuseSessionAddChan h se ch).bind fun h =>
        if daemonOk then
          -- this build's `fuse_set_signal_handlers` has no source to create
          let (sig', res) := fuseSetSignalHandlers .other sig se fun _ => 0
          if res = -1 then
            (errUnmountOther h mountpoint ch se).map fun (h, u', d) => ⟨h, 0, ch, sig', u ++ u', d⟩
          else some ⟨h, se, ch, sig', u, []⟩
        else
          (errUnmountOther h mountpoint ch se).map fun (h, u', d) => ⟨h, 0, ch, sig, u ++ u', d⟩

section Setup

variable {se ch₀ mp : Nat} {fd₀ : Int} {h : Heap}

/-- `err_unmount` of a loose channel: with a mount point it is unmounted and destroyed; without
one nothing is called and the channel stays. -/
theorem errUnmountOther_loose (mp : Nat) {c : FuseChan} (hc : h.chans ch₀ = some c) (h0 : c.se = 0)
    (hch : ch₀ ≠ 0) : ∃ h' d, errUnmountOther h mp ch₀ 0 = some (h', tdUnmounts ch₀ c.fd mp, d) ∧
      (mp ≠ 0 ∧ d = [ch₀] ∧ h'.chans ch₀ = none ∨ mp = 0 ∧ d = [] ∧ h'.chans ch₀ = some c) := by
  by_cases hmp : mp = 0
  · exact ⟨h, [], by simp [errUnmountOther, fuseUnmountCommonOther, hmp, tdUnmounts],
      .inr ⟨hmp, rfl, hc⟩⟩
  have hdes : fuseChanDestroy .other (h.setChan ch₀ (some { c with fd := -1 })) ch₀ =
      some (((h.setChan ch₀ (some { c with fd := -1 })).emitIfSet c.op.destroy
        (.chanDestroy c.op.destroy ch₀)).setChan ch₀ none) := by
    simp [fuseChanDestroy, fuseSessionRemoveChan, h0]
  exact ⟨_, [ch₀], by
    simp only [errUnmountOther, fuseUnmountCommonOther, if_neg hmp, if_neg hch, fuseChanClearfd,
      hc, hdes, tdUnmounts, Option.pure_def, Option.bind_eq_bind, Option.some_bind, ne_eq, hmp,
      hch, not_false_eq_true, and_self, if_true]
    rfl, .inl ⟨hmp, rfl, by simp⟩⟩

/-- `err_unmount` once `fuse` is made: the channel is destroyed once, by `fuse_unmount_common` or
else by `fuse_destroy`, and both objects are freed. -/
theorem TdLive.errUnmount (hl : TdLive se ch₀ fd₀ h) (mp : Nat) (hse : se ≠ 0) (hch : ch₀ ≠ 0) :
    ∃ h', errUnmountOther h mp ch₀ se = some (h', tdUnmounts ch₀ fd₀ mp, [ch₀]) ∧
      TdGone se ch₀ h' := by
  by_cases hmp : mp = 0
  · obtain ⟨x, h', hx, hd, hxc, hg⟩ := hl.destroy hse
    refine ⟨h', ?_, hg⟩
    simp [errUnmountOther, fuseUnmountCommonOther, hmp, hse, hx, hd, hxc, hch, tdUnmounts]
  obtain ⟨h₁, hu, hr⟩ := hl.unmount hse hmp
  obtain ⟨-, hub⟩ := hr.resolve_right fun h => hch h.1
  obtain ⟨x, h', hx, hd, hxc, hg⟩ := hub.destroy
  refine ⟨h', ?_, hg⟩
  simp [errUnmountOther, hu, hmp, hch, hse, hx, hd, hxc]

/-- The mount only allocates: the next address does not go down. -/
theorem fuseMountCommonOther_next (ops : FuseChanOps) (bufsize mp : Nat) (fd : Int) (ok : Bool) :
    h.next ≤ (fuseMountCommonOther h ops bufsize mp fd ok).1.next := by
  unfold fuseMountCommonOther fuseKernChanNew
  split_ifs
  · simp
  · simp only [fuseChanNew, fuseChanNewCommon]
    split_ifs <;> simp [Heap.bump]
  · simp

/-- On the other build, for every result of the calls `fuse_setup_common` makes after the parse,
no call finds a freed object. A `fuse` it returns holds the mounted channel, bound on the mount's
descriptor, with the signal handlers installed for it and nothing unmounted or destroyed: the
teardown starts from there. When it fails, a mount that made no channel was undone with its
descriptor; and a channel it made was unmounted with the descriptor when there is a mount point.
With no mount point and a failed `fuse_new_common`, `fuse_unmount_common` does nothing and the
channel stays allocated; in every other failure the channel was destroyed exactly once and
freed. -/
theorem setup_other_cleans_up {sig : SigState} {fd : Int} {ops : FuseChanOps} {bufsize : Nat}
    {chanOk daemonOk : Bool} {newFuse : Option (FuseSessionOps × Nat)} (hnext : 0 < h.next)
    (hfd : -1 ≤ fd) :
    ∃ r, fuseSetupCommonOther h sig mp fd ops bufsize chanOk newFuse daemonOk = some r ∧
      (r.fuse ≠ 0 → TdLive r.fuse r.ch fd r.heap ∧ r.ch ≠ 0 ∧ r.sig.fuseInstance = r.fuse ∧
        r.unmounts = [] ∧ r.destroyed = []) ∧
      (r.fuse = 0 → r.ch = 0 ∧ r.unmounts = (if fd = -1 then [] else [(mp, fd)]) ∧
          r.destroyed = [] ∨
        r.ch ≠ 0 ∧ r.unmounts = tdUnmounts r.ch fd mp ∧
          (mp = 0 ∧ newFuse = none → r.destroyed = [] ∧ r.heap.chans r.ch ≠ none) ∧
          (¬(mp = 0 ∧ newFuse = none) → r.destroyed = [r.ch] ∧ r.heap.chans r.ch = none)) := by
  have hn₁ := fuseMountCommonOther_next (h := h) ops bufsize mp fd chanOk
  rcases hm : fuseMountCommonOther h ops bufsize mp fd chanOk with ⟨h₁, ch, u⟩
  simp only [hm] at hn₁
  rcases fuseMountCommonOther_cases hfd hm with ⟨rfl, rfl⟩ | ⟨hch, rfl, c, hc, rfl, h0⟩
  · exact ⟨⟨h₁, 0, 0, sig, if fd = -1 then [] else [(mp, fd)], []⟩,
      by simp only [fuseSetupCommonOther, hm, if_true],
      fun h => absurd rfl h, fun _ => .inl ⟨rfl, rfl, rfl⟩⟩
  cases newFuse with
  | none =>
    obtain ⟨h', d, he, hr⟩ := errUnmountOther_loose mp hc h0 hch
    refine ⟨⟨h', 0, ch, sig, tdUnmounts ch c.fd mp, d⟩, ?_, fun h => absurd rfl h,
      fun _ => .inr ⟨hch, rfl, ?_⟩⟩
    · simp only [fuseSetupCommonOther, hm, if_neg hch, he, Option.map_some', List.nil_append]
    · rcases hr with ⟨hmp, rfl, hgone⟩ | ⟨hmp, rfl, hlive⟩
      · exact ⟨fun h => absurd h.1 hmp, fun _ => ⟨rfl, hgone⟩⟩
      · exact ⟨fun _ => ⟨rfl, by simp [hlive]⟩, fun h => absurd ⟨hmp, rfl⟩ h⟩
  | some f =>
    obtain ⟨op, data⟩ := f
    have hse : h₁.next ≠ 0 := by omega
    obtain ⟨h₃, hadd⟩ := Option.isSome_iff_exists.mp
      (by simp [fuseSessionAddChan, fuseSessionNew, hc, h0, Heap.bump] :
        (fuseSessionAddChan (fuseSessionNew h₁ op data).1 h₁.next ch).isSome)
    have hl : TdLive h₁.next ch c.fd h₃ := TdLive.of_addChan (by simpa [fuseSessionNew] using hc) hadd
    cases daemonOk
    · obtain ⟨h', he, hg⟩ := hl.errUnmount mp hse hch
      refine ⟨⟨h', 0, ch, sig, tdUnmounts ch c.fd mp, [ch]⟩, ?_, fun h => absurd rfl h,
        fun _ => .inr ⟨hch, rfl, (fun h => nomatch h.2), fun _ => ⟨rfl, hg.2 hch⟩⟩⟩
      simp only [fuseSetupCommonOther, hm, if_neg hch]
      simp only [fuseSessionNew] at hadd ⊢
      simp [hadd, he]
    · refine ⟨⟨h₃, h₁.next, ch, (fuseSetSignalHandlers .other sig h₁.next fun _ => 0).1, [], []⟩,
        ?_, fun _ => ⟨hl, hch, rfl, rfl, rfl⟩, fun h => absurd h hse⟩
      simp only [fuseSetupCommonOther, hm, if_neg hch]
      simp only [fuseSessionNew] at hadd ⊢
      simp [hadd, fuseSetSignalHandlers]

/-- Without a mount point, a mount on descriptor `5` makes the channel at `1`, and
`fuse_new_common` fails: the channel is neither unmounted nor destroyed. -/
theorem setup_other_cleans_up_example :
    0 < Heap.empty.next ∧ (-1 : Int) ≤ 5 ∧
    (fuseSetupCommonOther Heap.empty quietState 0 5 ⟨0, 0, 0⟩ 4096 true none true).map
      (fun r => (r.fuse, r.ch, r.unmounts, r.destroyed)) = some (0, 1, [], []) ∧
    ∃ r, fuseSetupCommonOther Heap.empty quietState 0 5 ⟨0, 0, 0⟩ 4096 true none true = some r ∧
      (r.fuse ≠ 0 → TdLive r.fuse r.ch 5 r.heap ∧ r.ch ≠ 0 ∧ r.sig.fuseInstance = r.fuse ∧
        r.unmounts = [] ∧ r.destroyed = []) ∧
      (r.fuse = 0 → r.ch = 0 ∧ r.unmounts = (if (5 : Int) = -1 then [] else [(0, 5)]) ∧
          r.destroyed = [] ∨
        r.ch ≠ 0 ∧ r.unmounts = tdUnmounts r.ch 5 0 ∧
          (0 = 0 ∧ (none : Option (FuseSessionOps × Nat)) = none →
            r.destroyed = [] ∧ r.heap.chans r.ch ≠ none) ∧
          (¬(0 = 0 ∧ (none : Option (FuseSessionOps × Nat)) = none) →
            r.destroyed = [r.ch] ∧ r.heap.chans r.ch = none)) :=
  ⟨by decide, by decide, rfl, @setup_other_cleans_up 0 Heap.empty quietState 5 ⟨0, 0, 0⟩ 4096 true
    true none (by decide) (by decide)⟩

end Setup

end MacFuse
