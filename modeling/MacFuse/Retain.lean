import MacFuse.Session

/-!
# Concurrent retain and release

On the Apple build a channel counts its references in `retain_count`, under the channel's lock.
Any number of threads call `fuse_chan_retain` and `fuse_chan_release`; each call's locked
section is one step, and the release whose section found `--retain_count == 0` frees the
channel in a later step of its own, after the lock. A thread retains or releases only while
it holds a reference (the initial one, or one it retained), so a step needs some reference
outstanding; which thread holds it does not change what the steps do.
-/

namespace MacFuse

/-- One channel under concurrent `fuse_chan_retain` and `fuse_chan_release` callers. -/
structure RetainState where
  /-- The channel; the locked sections change `retainCount`. -/
  chan : FuseChan
  /-- The references the callers hold. -/
  held : Nat
  /-- Completed `fuse_chan_retain` calls. -/
  retains : Nat
  /-- Completed locked sections of `fuse_chan_release`; call `k` is the `k`-th, from `0`. -/
  releases : Nat
  /-- The release calls whose locked section set `release` and that have not freed yet. -/
  freeing : List Nat
  /-- The release calls that destroyed the lock, released the disk and freed the channel. -/
  freed : List Nat
  /-- The calls made out of the channel: the disk release of the free. -/
  log : List Effect
  deriving DecidableEq, Repr

/-- The channel as `fuse_chan_new_common` leaves it, with whatever fields `c` gives it
otherwise, and its creator holding the one reference. -/
def RetainState.init (c : FuseChan) : RetainState :=
  ⟨{ c with retainCount := 1 }, 1, 0, 0, [], [], []⟩

/-- What a thread does next: a locked section, or the free after a release that reached
zero. -/
inductive RetainAction where
  | retain
  | release
  | free (k : Nat)
  deriving DecidableEq, Repr

/-- The release call whose channel a `free` step frees. -/
def RetainAction.freed? : RetainAction → Option Nat
  | .free k => some k
  | _ => none

/-- One step. `fuse_chan_retain` and the locked part of `fuse_chan_release` run the channel's
own sections; the free runs `if (ch->disk) CFRelease(ch->disk)` and `free(ch)`. -/
def RetainState.step (s : RetainState) : RetainAction → Option RetainState
  | .retain =>
    if 0 < s.held then
      some { s with chan := s.chan.retainSection, held := s.held + 1, retains := s.retains + 1 }
    else none
  | .release =>
    if 0 < s.held then
      let (c, release) := s.chan.releaseSection
      some { s with chan := c, held := s.held - 1, releases := s.releases + 1,
                    freeing := if release then s.freeing ++ [s.releases] else s.freeing }
    else none
  | .free k =>
    if k ∈ s.freeing then
      some { s with freeing := s.freeing.erase k, freed := s.freed ++ [k],
                    log := if s.chan.disk = 0 then s.log else s.log ++ [.cfRelease s.chan.disk] }
    else none

/-- The states reachable from a new channel by any schedule of the callers. -/
inductive RetainReachable (c : FuseChan) : RetainState → Prop where
  | init : RetainReachable c (RetainState.init c)
  | step {s s' : RetainState} (a : RetainAction) :
      RetainReachable c s → s.step a = some s' → RetainReachable c s'

/-- The count is the references held; the count plus the completed releases is one plus the
retains; while some reference is held nobody has freed, and once the last one is released
exactly the last release call frees, once, releasing the disk once. -/
structure RetainInv (s : RetainState) : Prop where
  count_eq : s.chan.retainCount = s.held
  balance : s.held + s.releases = 1 + s.retains
  frees : s.freeing ++ s.freed = if s.held = 0 then [s.releases - 1] else []
  log_eq : s.log = if s.freed = [] ∨ s.chan.disk = 0 then [] else [.cfRelease s.chan.disk]

theorem RetainInv.init (c : FuseChan) : RetainInv (RetainState.init c) :=
  ⟨rfl, rfl, rfl, by simp [RetainState.init]⟩

section Steps

variable {s s' : RetainState}

theorem RetainInv.retain (hi : RetainInv s) (hs : s.step .retain = some s') : RetainInv s' := by
  by_cases hpos : 0 < s.held
  · simp only [RetainState.step, hpos, if_true, Option.some.injEq] at hs
    subst hs
    have hh : s.held ≠ 0 := by omega
    refine ⟨by simp [FuseChan.retainSection, hi.count_eq], by simp; have := hi.balance; omega,
      by simpa [hh] using hi.frees, by simpa [FuseChan.retainSection] using hi.log_eq⟩
  · simp [RetainState.step, hpos] at hs

theorem RetainInv.release (hi : RetainInv s) (hs : s.step .release = some s') :
    RetainInv s' := by
  by_cases hpos : 0 < s.held
  · simp only [RetainState.step, hpos, if_true, Option.some.injEq] at hs
    subst hs
    have hh : s.held ≠ 0 := by omega
    have hf := hi.frees
    simp only [hh, if_false, List.append_eq_nil] at hf
    have hrel : (s.chan.releaseSection.2 = true) = (s.held = 1) := by
      simp [FuseChan.releaseSection, hi.count_eq]; omega
    refine ⟨by simp [FuseChan.releaseSection, hi.count_eq]; omega,
      by simp; have := hi.balance; omega, ?_, ?_⟩
    · by_cases h1 : s.held = 1 <;> simp [hrel, h1, hf]
      omega
    · simpa [FuseChan.releaseSection, hf.2] using hi.log_eq
  · simp [RetainState.step, hpos] at hs

theorem RetainInv.free (hi : RetainInv s) {k : Nat} (hs : s.step (.free k) = some s') :
    RetainInv s' := by
  by_cases hk : k ∈ s.freeing
  · simp only [RetainState.step, hk, if_true, Option.some.injEq] at hs
    subst hs
    have hf := hi.frees
    have h0 : s.held = 0 := by
      by_contra hne; simp [hne] at hf; simp [hf.1] at hk
    simp only [h0, if_true] at hf
    have hfk : s.freeing = [k] ∧ s.freed = [] := by
      rcases List.append_eq_cons_iff.mp hf with ⟨hnil, -⟩ | ⟨a, ha, hrest⟩
      · simp [hnil] at hk
      · obtain ⟨rfl, h2⟩ := List.append_eq_nil.mp hrest.symm
        rw [ha, List.mem_singleton] at hk
        exact ⟨by rw [ha, hk], h2⟩
    refine ⟨hi.count_eq, hi.balance, by simp [hfk, h0]; simpa [hfk] using hf, ?_⟩
    have := hi.log_eq
    by_cases hd : s.chan.disk = 0 <;> simp_all
  · simp [RetainState.step, hk] at hs

/-- Every step keeps the invariant. -/
theorem RetainInv.step (hi : RetainInv s) {a : RetainAction} (hs : s.step a = some s') :
    RetainInv s' := by
  cases a with
  | retain => exact hi.retain hs
  | release => exact hi.release hs
  | free k => exact hi.free hs

end Steps

theorem RetainReachable.inv {c : FuseChan} {s : RetainState} (h : RetainReachable c s) :
    RetainInv s := by
  induction h with
  | init => exact RetainInv.init c
  | step _ _ hs ih => exact ih.step hs

/-- Run the steps of a schedule in order; `none` when one of them is not enabled. -/
def RetainState.run (s : RetainState) : List RetainAction → Option RetainState
  | [] => some s
  | a :: as => (s.step a).bind fun s' => s'.run as

theorem RetainReachable.run {c : FuseChan} {s s' : RetainState} (as : List RetainAction)
    (h : RetainReachable c s) (hr : s.run as = some s') : RetainReachable c s' := by
  induction as generalizing s with
  | nil => cases hr; exact h
  | cons a as ih =>
    obtain ⟨s₁, hs, hr'⟩ := Option.bind_eq_some.mp hr
    exact ih (.step a h hs) hr'

/-- A step adds its own action to the counters and to the frees done, and leaves the disk. -/
theorem RetainState.step_counts {s s' : RetainState} {a : RetainAction}
    (hs : s.step a = some s') :
    s'.retains = s.retains + [a].count .retain ∧ s'.releases = s.releases + [a].count .release ∧
    s'.freed = s.freed ++ a.freed?.toList ∧ s'.chan.disk = s.chan.disk := by
  cases a with
  | retain =>
    by_cases hpos : 0 < s.held <;> simp [RetainState.step, hpos] at hs
    subst hs; simp [RetainAction.freed?, FuseChan.retainSection]
  | release =>
    by_cases hpos : 0 < s.held <;> simp [RetainState.step, hpos] at hs
    subst hs; simp [RetainAction.freed?, FuseChan.releaseSection]
  | free k =>
    by_cases hk : k ∈ s.freeing <;> simp [RetainState.step, hk] at hs
    subst hs; simp [RetainAction.freed?]

/-- A run adds the retains, releases and frees its schedule holds, and leaves the disk. -/
theorem RetainState.run_counts {s s' : RetainState} {as : List RetainAction}
    (hr : s.run as = some s') :
    s'.retains = s.retains + as.count .retain ∧ s'.releases = s.releases + as.count .release ∧
    s'.freed = s.freed ++ as.filterMap RetainAction.freed? ∧ s'.chan.disk = s.chan.disk := by
  induction as generalizing s with
  | nil => cases hr; simp
  | cons a as ih =>
    obtain ⟨s₁, hs, hr'⟩ := Option.bind_eq_some.mp hr
    obtain ⟨h1, h2, h3, h4⟩ := RetainState.step_counts hs
    obtain ⟨h1', h2', h3', h4'⟩ := ih hr'
    have hcount (x : RetainAction) : (a :: as).count x = [a].count x + as.count x :=
      List.count_append x [a] as
    refine ⟨?_, ?_, ?_, h4'.trans h4⟩
    · rw [h1', h1, hcount]; omega
    · rw [h2', h2, hcount]; omega
    · rw [h3', h3]; cases a <;> simp [RetainAction.freed?]

/-- Under every schedule of concurrent `fuse_chan_retain` and `fuse_chan_release` calls on a
new channel, each caller releasing only references it holds, the count never goes below zero
and is one plus the retain calls minus the release calls of the schedule. The release calls
that free the channel (the free pending or done) are none while the releases are fewer than one
plus the retains, and then exactly one: the last, whose locked section took the count from one
to zero. The frees done are the schedule's own, and the disk is released once, by that free.
While a reference is held, a retain and a release can run, and a pending free can run. -/
theorem retain_release_frees_once (c : FuseChan) (as : List RetainAction) (s : RetainState)
    (h : (RetainState.init c).run as = some s) :
    0 ≤ s.chan.retainCount ∧
    s.chan.retainCount = 1 + (as.count .retain : Int) - as.count .release ∧
    (s.freeing ++ s.freed =
      if as.count .release = 1 + as.count .retain then [as.count .release - 1] else []) ∧
    s.freed = as.filterMap RetainAction.freed? ∧
    s.log = (if s.freed = [] ∨ c.disk = 0 then [] else [.cfRelease c.disk]) ∧
    (0 < s.chan.retainCount → (s.step .retain).isSome ∧ (s.step .release).isSome) ∧
    ∀ k ∈ s.freeing, (s.step (.free k)).isSome := by
  obtain ⟨hc, hb, hf, hl⟩ := (RetainReachable.run as .init h).inv
  obtain ⟨hr, hrel, hfr, hd⟩ := RetainState.run_counts h
  simp only [RetainState.init, Nat.zero_add, List.nil_append] at hr hrel hfr hd
  rw [← hr, ← hrel]
  refine ⟨by omega, by omega, ?_, hfr, by rw [hl, hd], fun hpos => ?_, fun k hk => ?_⟩
  · rw [hf]
    by_cases h0 : s.held = 0
    · rw [if_pos h0, if_pos (by omega)]
    · rw [if_neg h0, if_neg (by omega)]
  · have hpos : 0 < s.held := by omega
    simp [RetainState.step, hpos]
  · simp [RetainState.step, hk]

/-- A channel with a disk attached. -/
def retainChan : FuseChan := ⟨1, ⟨8, 9, 0⟩, 0, 3, 5, 4096, 0, 0⟩

/-- Retain once and release twice, the second release freeing the channel. -/
def retainSchedule : List RetainAction := [.retain, .release, .release, .free 1]

theorem retain_release_frees_once_example :
    ∃ s, (RetainState.init retainChan).run retainSchedule = some s ∧
      0 ≤ s.chan.retainCount ∧
      s.chan.retainCount =
        1 + (retainSchedule.count .retain : Int) - retainSchedule.count .release ∧
      (s.freeing ++ s.freed =
        if retainSchedule.count .release = 1 + retainSchedule.count .retain then
          [retainSchedule.count .release - 1] else []) ∧
      s.freed = retainSchedule.filterMap RetainAction.freed? ∧
      s.log = (if s.freed = [] ∨ retainChan.disk = 0 then [] else [.cfRelease retainChan.disk]) ∧
      (0 < s.chan.retainCount → (s.step .retain).isSome ∧ (s.step .release).isSome) ∧
      ∀ k ∈ s.freeing, (s.step (.free k)).isSome :=
  ⟨_, rfl, retain_release_frees_once retainChan retainSchedule _ rfl⟩

end MacFuse
