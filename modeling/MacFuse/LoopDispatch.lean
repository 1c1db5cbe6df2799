import MacFuse.Request

/-!
# The dispatch loop

`fuse_session_loop_dispatch` reads requests into one scratch buffer, copies each into a buffer of
its own, and submits a block that calls `fuse_session_process_buf` on the copy to a concurrent
queue. This file runs the reader, any number of submitted blocks, and `fuse_session_exit` from
other threads in every interleaving: each step is one statement of the reader, one whole block,
or the exit. A block touches only its own copy, so running it in one step loses no schedule.

`malloc` may fail, and on success returns any address not allocated; the receive results are
arbitrary. Two records are kept beside the state the code has: the requests whose copy was
allocated, in order, with the bytes and channel their receive reported, and the calls the
blocks made.
-/

namespace MacFuse

/-- `EINTR`. -/
def eintr : Int := 4

/-- A submitted block: the values it captured, `fbuf.mem`, `fbuf.size` and `tmpch`, and the
position of its request among the submitted ones. -/
structure Block where
  id : Nat
  addr : Nat
  size : Nat
  ch : Nat
  deriving DecidableEq, Repr

/-- Where the reader is. `copy` holds the count a receive returned and, beside it, the bytes and
channel the receive reported. -/
inductive ReaderPc where
  /-- Before the scratch buffer, queue and group are created. -/
  | start
  /-- At `while (!fuse_session_exited(se))`. -/
  | head
  /-- At `fuse_session_receive_buf`. -/
  | recv
  /-- After a receive returned `res > 0`, at the copy and the submit. -/
  | copy (res : Nat) (bytes : List UInt8) (ch : Nat)
  /-- At `dispatch_group_wait`. -/
  | wait
  /-- Returned `ret`. -/
  | done (ret : Int)
  deriving DecidableEq, Repr

/-- The loop, the blocks and the session's `exited` flag. -/
structure LoopState where
  pc : ReaderPc
  exited : Bool
  res : Int
  /-- The session's channel, the `tmpch` each iteration starts from. -/
  ch : Nat
  /-- The scratch buffer `buf`. -/
  scratch : List UInt8
  /-- The copies, by address. -/
  mem : Nat → Option (List UInt8)
  /-- Submitted blocks that have not run yet. -/
  pending : List Block
  /-- The calls `fuse_session_process_buf(se, buf, ch)` the blocks made, each with its request. -/
  calls : List (Nat × FuseBuf × Nat)
  /-- The requests whose copy was allocated: the bytes and channel their receive reported. -/
  granted : List (List UInt8 × Nat)
  stderr : List String

/-- The loop entered on a session whose channel is `ch`, with a scratch buffer of `bufsize`
bytes holding `scratch`. -/
def LoopState.init (ch : Nat) (scratch : List UInt8) (exited : Bool) : LoopState :=
  ⟨.start, exited, 0, ch, scratch, fun _ => none, [], [], [], []⟩

/-- What runs next. -/
inductive LoopAction where
  /-- `malloc(bufsize)`, `dispatch_queue_create` and `dispatch_group_create`, with whether each
  succeeded. -/
  | start (bufOk queueOk groupOk : Bool)
  /-- The loop's test of `fuse_session_exited(se)`. -/
  | check
  /-- `fuse_session_receive_buf` returned `res`, wrote `bytes` at the start of the scratch
  buffer and reported channel `ch`. -/
  | receive (res : Int) (bytes : List UInt8) (ch : Nat)
  /-- `malloc(res)` returned `addr` (`none`: `NULL`), then the copy and the submit. -/
  | copy (addr : Option Nat)
  /-- A submitted block runs: `fuse_session_process_buf(se, &fbuf, tmpch)` and `free`. -/
  | run (b : Block)
  /-- `dispatch_group_wait` returned, `0` when `ok`. -/
  | wait (ok : Bool)
  /-- `fuse_session_exit(se)` from another thread or a signal. -/
  | exit
  deriving Repr

/-- The code after `out:`: free the scratch buffer, release the group and queue,
`fuse_session_reset(se)` and return. -/
def LoopState.out (s : LoopState) : LoopState :=
  { s with pc := .done (if s.res < 0 then -1 else 0), exited := false }

/-- Report a failure on `stderr` and set `res = -1`. -/
def LoopState.fail (s : LoopState) (line : String) : LoopState :=
  { s with res := -1, stderr := s.stderr ++ [line] }

/-- One step; `none` when it cannot run. -/
def LoopState.step (s : LoopState) : LoopAction → Option LoopState
  | .start bufOk queueOk groupOk =>
    if s.pc = .start then
      some (if !bufOk then (s.fail "fuse: failed to allocate read buffer\n").out
        else if !queueOk then (s.fail "fuse: failed to create session queue\n").out
        else if !groupOk then (s.fail "fuse: failed to create session group\n").out
        else { s with pc := .head })
    else none
  | .check =>
    if s.pc = .head then some { s with pc := if s.exited then .wait else .recv } else none
  | .receive res bytes ch =>
    if s.pc = .recv ∧ (0 < res → bytes.length = res.toNat) then
      some { s with
        res := res
        scratch := writeBytes s.scratch bytes
        pc := if res = -eintr then .head else if res ≤ 0 then .wait else .copy res.toNat bytes ch }
    else none
  | .copy addr =>
    match s.pc, addr with
    | .copy _ _ _, none =>
      some { (s.fail "fuse: failed to allocate process buffer\n") with pc := .wait }
    | .copy r bytes ch, some a =>
      if a ≠ 0 ∧ s.mem a = none then
        some { s with
          mem := Function.update s.mem a (some (s.scratch.take r))
          pending := s.pending ++ [⟨s.granted.length, a, r, ch⟩]
          granted := s.granted ++ [(bytes, ch)]
          pc := .head }
      else none
    | _, _ => none
  | .run b =>
    match s.mem b.addr with
    | some bytes =>
      if b ∈ s.pending then
        some { s with
          calls := s.calls ++ [(b.id, ⟨b.size, bytes, false⟩, b.ch)]
          mem := Function.update s.mem b.addr none
          pending := s.pending.erase b }
      else none
    | none => none
  | .wait ok =>
    if s.pc = .wait then
      if ok then (if s.pending = [] then some s.out else none)
      else some (s.fail "fuse: dispatch_group_wait timed out\n").out
    else none
  | .exit => some { s with exited := true }

/-- Run the steps of a schedule in order; `none` when one of them cannot run. -/
def LoopState.run (s : LoopState) : List LoopAction → Option LoopState
  | [] => some s
  | a :: as => (s.step a).bind fun s' => s'.run as

theorem LoopState.run_append (s : LoopState) (as bs : List LoopAction) :
    s.run (as ++ bs) = (s.run as).bind fun s' => s'.run bs := by
  induction as generalizing s with
  | nil => rfl
  | cons a as ih =>
    show ((s.step a).bind fun s' => s'.run (as ++ bs)) = _
    simp only [ih, LoopState.run, Option.bind_assoc]

/-! ## The blocks -/

/-- The requests a schedule grants: each receive with a positive result whose `malloc` then
succeeded, with the bytes and channel the receive reported. `last` is the receive waiting for
its `malloc`. -/
def requestsOf : List LoopAction → Option (List UInt8 × Nat) → List (List UInt8 × Nat)
  | [], _ => []
  | .receive res bytes ch :: as, _ => requestsOf as (if 0 < res then some (bytes, ch) else none)
  | .copy (some _) :: as, some r => r :: requestsOf as none
  | .copy none :: as, _ => requestsOf as none
  | _ :: as, last => requestsOf as last

/-- The receive a reader at `pc` is about to copy. -/
def ReaderPc.request : ReaderPc → Option (List UInt8 × Nat)
  | .copy _ bytes ch => some (bytes, ch)
  | _ => none

/-- What the blocks and copies keep: every granted request is pending or was called, once; a
call got its request's bytes, size and channel; a pending block's copy holds its request's
bytes; the pending copies are distinct; and before the copy the scratch buffer starts with the
bytes received. -/
structure LoopInv (s : LoopState) : Prop where
  perm : (s.calls.map Prod.fst ++ s.pending.map Block.id).Perm (List.range s.granted.length)
  calls_eq : ∀ c ∈ s.calls, ∃ g, s.granted[c.1]? = some g ∧ c.2 = (⟨g.1.length, g.1, false⟩, g.2)
  pending_eq : ∀ b ∈ s.pending, ∃ g, s.granted[b.id]? = some g ∧ s.mem b.addr = some g.1 ∧
    b.size = g.1.length ∧ b.ch = g.2
  addr_nodup : (s.pending.map Block.addr).Nodup
  copy_eq : ∀ {r bytes ch}, s.pc = .copy r bytes ch → bytes.length = r ∧ s.scratch.take r = bytes

theorem LoopInv.init (ch : Nat) (scratch : List UInt8) (ex : Bool) :
    LoopInv (LoopState.init ch scratch ex) :=
  ⟨by simp [LoopState.init], by simp [LoopState.init], by simp [LoopState.init],
    by simp [LoopState.init], fun h => by cases h⟩

theorem getElem?_append_of_eq_some {α : Type} {l l' : List α} {i : Nat} {a : α}
    (h : l[i]? = some a) : (l ++ l')[i]? = some a := by
  rw [List.getElem?_append_left (List.getElem?_eq_some_iff.mp h).1, h]

/-- In a list whose images are distinct, what is left after erasing `a` has images other than
`a`'s. -/
theorem map_ne_of_mem_erase {α β : Type} [DecidableEq α] {f : α → β} {l : List α} {a b : α}
    (hnd : (l.map f).Nodup) (ha : a ∈ l) (hb : b ∈ l.erase a) : f b ≠ f a := by
  have hcons := ((List.perm_cons_erase ha).map f).nodup_iff.mp hnd
  rw [List.map_cons, List.nodup_cons] at hcons
  exact fun h => hcons.1 (h ▸ List.mem_map_of_mem f hb)

section Steps

variable {s s' : LoopState}

/-- A step that changes none of the blocks, copies, requests or the scratch buffer, and does not
start a copy. -/
structure LoopState.Frame (s s' : LoopState) : Prop where
  calls : s'.calls = s.calls
  pending : s'.pending = s.pending
  granted : s'.granted = s.granted
  mem : s'.mem = s.mem
  scratch : s'.scratch = s.scratch
  copy : ∀ {r bytes ch}, s'.pc = .copy r bytes ch → s.pc = .copy r bytes ch

theorem LoopInv.frame (hi : LoopInv s) (hf : s.Frame s') : LoopInv s' := by
  obtain ⟨hc, hp, hg, hm, hs, hpc⟩ := hf
  exact ⟨hc ▸ hp ▸ hg ▸ hi.perm, hc ▸ hg ▸ hi.calls_eq,
    hp ▸ hg ▸ hm ▸ hi.pending_eq, hp ▸ hi.addr_nodup, fun h => hs ▸ hi.copy_eq (hpc h)⟩

@[simp] theorem LoopState.out_pc : s.out.pc = .done (if s.res < 0 then -1 else 0) := rfl

theorem LoopState.frame_out (hf : s.Frame s') : s.Frame s'.out :=
  ⟨hf.calls, hf.pending, hf.granted, hf.mem, hf.scratch, fun h => by simp at h⟩

theorem LoopState.frame_fail (line : String) : s.Frame (s.fail line) :=
  ⟨rfl, rfl, rfl, rfl, rfl, id⟩

/-- `start` runs at `start`: one of the three allocations fails and the loop is out with a
message, or all three succeed and the loop goes to its head. -/
theorem LoopState.step_start {b q g : Bool} (hs : s.step (.start b q g) = some s') :
    s.pc = .start ∧ ((b = false ∨ q = false ∨ g = false) ∧ (∃ line, s' = (s.fail line).out) ∨
      b = true ∧ q = true ∧ g = true ∧ s' = { s with pc := .head }) := by
  by_cases hpc : s.pc = .start
  · rw [LoopState.step, if_pos hpc, Option.some.injEq] at hs
    subst hs
    refine ⟨hpc, ?_⟩
    cases b <;> cases q <;> cases g
    all_goals first | exact .inl ⟨by decide, _, rfl⟩ | exact .inr ⟨rfl, rfl, rfl, rfl⟩
  · simp [LoopState.step, hpc] at hs

/-- `check` runs at the head and goes to the wait once the session has exited, else to the
receive. -/
theorem LoopState.step_check (hs : s.step .check = some s') :
    s.pc = .head ∧ s' = { s with pc := if s.exited then .wait else .recv } := by
  by_cases hpc : s.pc = .head
  · rw [LoopState.step, if_pos hpc, Option.some.injEq] at hs
    exact ⟨hpc, hs.symm⟩
  · simp [LoopState.step, hpc] at hs

/-- `receive` runs at the receive, with a result that matches its bytes: the bytes go to the
scratch buffer, and the loop retries after `-EINTR`, goes to the wait after any other result
`≤ 0`, and copies the request otherwise. -/
theorem LoopState.step_receive {res : Int} {bytes : List UInt8} {ch : Nat}
    (hs : s.step (.receive res bytes ch) = some s') :
    s.pc = .recv ∧ (0 < res → bytes.length = res.toNat) ∧ s' = { s with
      res := res
      scratch := writeBytes s.scratch bytes
      pc := if res = -eintr then .head else if res ≤ 0 then .wait else .copy res.toNat bytes ch } := by
  by_cases hc : s.pc = .recv ∧ (0 < res → bytes.length = res.toNat)
  · rw [LoopState.step, if_pos hc, Option.some.injEq] at hs
    exact ⟨hc.1, hc.2, hs.symm⟩
  · simp [LoopState.step, hc] at hs

/-- `copy addr` runs at a copy: a failed allocation reports and goes to the wait; a fresh
non-`NULL` buffer receives the request, which becomes pending and granted. -/
theorem LoopState.step_copy {addr : Option Nat} (hs : s.step (.copy addr) = some s') :
    ∃ r bytes ch, s.pc = .copy r bytes ch ∧
      (addr = none ∧ s' = { s.fail "fuse: failed to allocate process buffer\n" with pc := .wait } ∨
        ∃ a, addr = some a ∧ a ≠ 0 ∧ s.mem a = none ∧ s' = { s with
          mem := Function.update s.mem a (some (s.scratch.take r))
          pending := s.pending ++ [⟨s.granted.length, a, r, ch⟩]
          granted := s.granted ++ [(bytes, ch)]
          pc := .head }) := by
  simp only [LoopState.step] at hs
  split at hs
  · rename_i r bytes ch hpc
    exact ⟨r, bytes, ch, hpc, .inl ⟨rfl, (Option.some.inj hs).symm⟩⟩
  · rename_i r bytes ch a hpc
    split_ifs at hs with ha
    exact ⟨r, bytes, ch, hpc, .inr ⟨a, rfl, ha.1, ha.2, (Option.some.inj hs).symm⟩⟩
  · cases hs

/-- `run b` runs a pending block whose buffer is allocated: the call is recorded, the buffer
freed, and the block no longer pending. -/
theorem LoopState.step_run {b : Block} (hs : s.step (.run b) = some s') :
    ∃ bytes, s.mem b.addr = some bytes ∧ b ∈ s.pending ∧ s' = { s with
      calls := s.calls ++ [(b.id, ⟨b.size, bytes, false⟩, b.ch)]
      mem := Function.update s.mem b.addr none
      pending := s.pending.erase b } := by
  simp only [LoopState.step] at hs
  split at hs
  · rename_i bytes hm
    split_ifs at hs with hb
    exact ⟨bytes, hm, hb, (Option.some.inj hs).symm⟩
  · cases hs

/-- `wait` runs at the wait: once the group has drained the loop is out; a wait that timed out
reports, and the loop is out with `res = -1`. -/
theorem LoopState.step_wait {ok : Bool} (hs : s.step (.wait ok) = some s') :
    s.pc = .wait ∧ (ok = true ∧ s.pending = [] ∧ s' = s.out ∨
      ok = false ∧ s' = (s.fail "fuse: dispatch_group_wait timed out\n").out) := by
  by_cases hpc : s.pc = .wait
  · rw [LoopState.step, if_pos hpc] at hs
    refine ⟨hpc, ?_⟩
    cases ok
    · exact .inr ⟨rfl, (Option.some.inj hs).symm⟩
    · by_cases hp : s.pending = []
      · rw [if_pos rfl, if_pos hp, Option.some.injEq] at hs
        exact .inl ⟨rfl, hp, hs.symm⟩
      · simp [hp] at hs
  · simp [LoopState.step, hpc] at hs

theorem LoopState.frame_start {b q g : Bool} (hs : s.step (.start b q g) = some s') :
    s.Frame s' := by
  obtain ⟨-, ⟨-, _, rfl⟩ | ⟨-, -, -, rfl⟩⟩ := LoopState.step_start hs
  · exact LoopState.frame_out (LoopState.frame_fail _)
  · exact ⟨rfl, rfl, rfl, rfl, rfl, fun h => by simp at h⟩

theorem LoopState.frame_check (hs : s.step .check = some s') : s.Frame s' := by
  obtain ⟨-, rfl⟩ := LoopState.step_check hs
  exact ⟨rfl, rfl, rfl, rfl, rfl, fun h => by split_ifs at h⟩

theorem LoopState.frame_wait {ok : Bool} (hs : s.step (.wait ok) = some s') : s.Frame s' := by
  obtain ⟨-, ⟨-, -, rfl⟩ | ⟨-, rfl⟩⟩ := LoopState.step_wait hs
  · exact LoopState.frame_out ⟨rfl, rfl, rfl, rfl, rfl, id⟩
  · exact LoopState.frame_out (LoopState.frame_fail _)

theorem LoopState.frame_exit (hs : s.step .exit = some s') : s.Frame s' := by
  cases hs; exact ⟨rfl, rfl, rfl, rfl, rfl, id⟩

theorem LoopInv.receive (hi : LoopInv s) {res : Int} {bytes : List UInt8} {ch : Nat}
    (hs : s.step (.receive res bytes ch) = some s') : LoopInv s' := by
  obtain ⟨-, hlen, rfl⟩ := LoopState.step_receive hs
  refine ⟨hi.perm, hi.calls_eq, hi.pending_eq, hi.addr_nodup, fun {r b c} h => ?_⟩
  split_ifs at h with h1 h2
  cases h
  have hlen := hlen (by omega)
  exact ⟨hlen, by rw [← hlen, writeBytes, List.take_left]⟩

theorem LoopInv.copy (hi : LoopInv s) {addr : Option Nat} (hs : s.step (.copy addr) = some s') :
    LoopInv s' := by
  obtain ⟨r, bytes, ch, hpc, ⟨-, rfl⟩ | ⟨a, -, -, ha, rfl⟩⟩ := LoopState.step_copy hs
  · exact hi.frame ⟨rfl, rfl, rfl, rfl, rfl, fun h => by simp at h⟩
  · obtain ⟨hlen, htake⟩ := hi.copy_eq hpc
    have hfresh : ∀ b ∈ s.pending, b.addr ≠ a := fun b hb heq => by
      obtain ⟨g, -, hm, -⟩ := hi.pending_eq b hb
      rw [heq, ha] at hm; cases hm
    refine ⟨?_, fun c hc => ?_, fun b hb => ?_, ?_, fun h => by simp at h⟩
    · simp only [List.map_append, List.length_append, List.length_singleton, List.range_succ,
        ← List.append_assoc, List.map_cons, List.map_nil]
      exact hi.perm.append_right _
    · obtain ⟨g, hg, heq⟩ := hi.calls_eq c hc
      exact ⟨g, getElem?_append_of_eq_some hg, heq⟩
    · rcases List.mem_append.mp hb with hb | hb
      · obtain ⟨g, hg, hm, hsz, hch⟩ := hi.pending_eq b hb
        exact ⟨g, getElem?_append_of_eq_some hg,
          by simp only [Function.update_noteq (hfresh b hb), hm], hsz, hch⟩
      · rw [List.mem_singleton] at hb
        subst hb
        exact ⟨(bytes, ch), by simp, by simp [htake], hlen.symm, rfl⟩
    · simp only [List.map_append, List.map_cons, List.map_nil]
      refine List.pairwise_append.mpr ⟨hi.addr_nodup, List.pairwise_singleton _ _, ?_⟩
      intro x hx y hy
      obtain ⟨b, hb, rfl⟩ := List.mem_map.mp hx
      rw [List.mem_singleton] at hy
      exact hy ▸ hfresh b hb

theorem LoopInv.run (hi : LoopInv s) {b : Block} (hs : s.step (.run b) = some s') :
    LoopInv s' := by
  obtain ⟨bytes, hm, hb, rfl⟩ := LoopState.step_run hs
  obtain ⟨g, hg, hmg, hsz, hch⟩ := hi.pending_eq b hb
  rw [hm, Option.some.injEq] at hmg
  subst hmg
  refine ⟨?_, fun c hc => ?_, fun b' hb' => ?_,
    (List.erase_sublist _ _).map _ |>.nodup hi.addr_nodup, hi.copy_eq⟩
  · simp only [List.map_append, List.map_cons, List.map_nil, List.append_assoc,
      List.singleton_append]
    exact (((List.perm_cons_erase hb).map Block.id).symm.append_left _).trans hi.perm
  · rcases List.mem_append.mp hc with hc | hc
    · exact hi.calls_eq c hc
    · rw [List.mem_singleton] at hc
      subst hc
      exact ⟨g, hg, by rw [hsz, hch]⟩
  · obtain ⟨g', hg', hm', hsz', hch'⟩ := hi.pending_eq b' (List.mem_of_mem_erase hb')
    exact ⟨g', hg', by
      simp only [Function.update_noteq (map_ne_of_mem_erase hi.addr_nodup hb hb'), hm'],
      hsz', hch'⟩

/-- Every step keeps the invariant. -/
theorem LoopInv.step (hi : LoopInv s) {a : LoopAction} (hs : s.step a = some s') : LoopInv s' := by
  cases a with
  | start b q g => exact hi.frame (LoopState.frame_start hs)
  | check => exact hi.frame (LoopState.frame_check hs)
  | receive res bytes ch => exact hi.receive hs
  | copy addr => exact hi.copy hs
  | run b => exact hi.run hs
  | wait ok => exact hi.frame (LoopState.frame_wait hs)
  | exit => exact hi.frame (LoopState.frame_exit hs)

/-- A step adds to the granted requests exactly what `requestsOf` reads off it. -/
theorem LoopState.granted_step {a : LoopAction} (hs : s.step a = some s') (t : List LoopAction) :
    s'.granted ++ requestsOf t s'.pc.request = s.granted ++ requestsOf (a :: t) s.pc.request := by
  cases a with
  | receive res bytes ch =>
    obtain ⟨hc, -, rfl⟩ := LoopState.step_receive hs
    split_ifs with h1 h2
    · simp [requestsOf, h1, eintr, ReaderPc.request, hc]
    · simp [requestsOf, show ¬0 < res by omega, ReaderPc.request, hc]
    · simp [requestsOf, show 0 < res by omega, ReaderPc.request, hc]
  | copy addr =>
    obtain ⟨r, bytes, ch, hpc, ⟨rfl, rfl⟩ | ⟨a, rfl, -, -, rfl⟩⟩ := LoopState.step_copy hs
    · simp [requestsOf, ReaderPc.request, LoopState.fail, hpc]
    · simp [requestsOf, hpc, ReaderPc.request]
  | start b q g =>
    have hpc : s.pc = .start := by
      by_contra h; simp [LoopState.step, h] at hs
    have hf := LoopState.frame_start hs
    have : s'.pc.request = none := by
      cases h' : s'.pc <;> simp [ReaderPc.request]
      exact absurd (hf.copy h') (by simp [hpc])
    rw [hf.granted, this, hpc]
    rfl
  | check =>
    obtain ⟨h1, rfl⟩ := LoopState.step_check hs
    split_ifs <;> simp [requestsOf, h1, ReaderPc.request]
  | run b =>
    obtain ⟨-, -, -, rfl⟩ := LoopState.step_run hs
    simp [requestsOf]
  | wait ok =>
    obtain ⟨h1, ⟨-, -, rfl⟩ | ⟨-, rfl⟩⟩ := LoopState.step_wait hs <;>
      simp [requestsOf, h1, ReaderPc.request, LoopState.out, LoopState.fail]
  | exit => cases hs; simp [requestsOf]

end Steps

theorem LoopInv.run_of {s s' : LoopState} (hi : LoopInv s) {t : List LoopAction}
    (hr : s.run t = some s') : LoopInv s' := by
  induction t generalizing s with
  | nil => cases hr; exact hi
  | cons a t ih =>
    obtain ⟨s₁, hs, hr'⟩ := Option.bind_eq_some.mp hr
    exact ih (hi.step hs) hr'

theorem LoopState.granted_run {s s' : LoopState} {t : List LoopAction} (hr : s.run t = some s') :
    s'.granted = s.granted ++ requestsOf t s.pc.request := by
  induction t generalizing s with
  | nil => cases hr; simp [requestsOf]
  | cons a t ih =>
    obtain ⟨s₁, hs, hr'⟩ := Option.bind_eq_some.mp hr
    rw [ih hr', LoopState.granted_step hs]

/-- After the return with nothing pending, no step adds a block, a call or a request. -/
theorem LoopState.run_done {s s' : LoopState} {ret : Int} (hpc : s.pc = .done ret)
    (hp : s.pending = []) {t : List LoopAction} (hr : s.run t = some s') :
    s'.pc = .done ret ∧ s'.pending = [] ∧ s'.calls = s.calls ∧ s'.granted = s.granted := by
  induction t generalizing s with
  | nil => cases hr; exact ⟨hpc, hp, rfl, rfl⟩
  | cons a t ih =>
    obtain ⟨s₁, hs, hr'⟩ := Option.bind_eq_some.mp hr
    have h₁ : s₁.pc = .done ret ∧ s₁.pending = [] ∧ s₁.calls = s.calls ∧
        s₁.granted = s.granted := by
      cases a with
      | exit => cases hs; exact ⟨hpc, hp, rfl, rfl⟩
      | run b => simp [LoopState.step, hp] at hs; split at hs <;> simp at hs
      | copy addr => simp [LoopState.step, hpc] at hs
      | _ => simp [LoopState.step, hpc] at hs
    obtain ⟨h1, h2, h3, h4⟩ := ih h₁.1 h₁.2.1 hr'
    exact ⟨h1, h2, h3.trans h₁.2.2.1, h4.trans h₁.2.2.2⟩

/-- Under every schedule of receive results, allocation results, blocks and exits, the loop
submits one block for each receive with a positive result whose copy was allocated, and no
other: those that have run called `fuse_session_process_buf` once each, with a buffer of the
received size holding the bytes that receive reported and on the channel it reported, and
those still pending hold those bytes in their own copy. Once `dispatch_group_wait` has returned
`0`, every one of them has made its call. -/
theorem dispatch_loop_blocks (ch : Nat) (scratch : List UInt8) (ex : Bool)
    (trace : List LoopAction) (s : LoopState)
    (hrun : (LoopState.init ch scratch ex).run trace = some s) :
    s.granted = requestsOf trace none ∧
    (s.calls.map Prod.fst ++ s.pending.map Block.id).Perm (List.range s.granted.length) ∧
    (∀ c ∈ s.calls, ∃ g, s.granted[c.1]? = some g ∧ c.2 = (⟨g.1.length, g.1, false⟩, g.2)) ∧
    (∀ b ∈ s.pending, ∃ g, s.granted[b.id]? = some g ∧ s.mem b.addr = some g.1 ∧
      b.size = g.1.length ∧ b.ch = g.2) ∧
    (LoopAction.wait true ∈ trace →
      s.pending = [] ∧ (s.calls.map Prod.fst).Perm (List.range s.granted.length)) := by
  have hi := (LoopInv.init ch scratch ex).run_of hrun
  refine ⟨by simpa [LoopState.init, ReaderPc.request] using LoopState.granted_run hrun,
    hi.perm, hi.calls_eq, hi.pending_eq, fun hw => ?_⟩
  obtain ⟨pre, post, rfl⟩ := List.append_of_mem hw
  rw [LoopState.run_append] at hrun
  obtain ⟨s₁, h₁, hr⟩ := Option.bind_eq_some.mp hrun
  obtain ⟨s₂, hs, hpost⟩ := Option.bind_eq_some.mp hr
  simp only [LoopState.step] at hs
  split_ifs at hs with hw1 hp
  cases hs
  obtain ⟨-, hpend, -⟩ := LoopState.run_done (s := s₁.out) rfl hp hpost
  exact ⟨hpend, by simpa [hpend] using hi.perm⟩

/-- Two requests on channel `2`, the second received into the scratch buffer before the first
block runs, then an exit. -/
def dispatchExample : List LoopAction :=
  [.start true true true, .check, .receive 3 [1, 2, 3] 2, .copy (some 10), .check,
    .receive 2 [7, 7] 2, .copy (some 11), .run ⟨0, 10, 3, 2⟩, .exit, .check,
    .run ⟨1, 11, 2, 2⟩, .wait true]

/-- The state `dispatchExample` ends in. -/
def dispatchFinal : LoopState :=
  ((LoopState.init 2 (List.replicate 8 0) false).run dispatchExample).getD
    (LoopState.init 2 (List.replicate 8 0) false)

theorem dispatch_loop_blocks_example :
    (LoopState.init 2 (List.replicate 8 0) false).run dispatchExample = some dispatchFinal ∧
    dispatchFinal.granted = requestsOf dispatchExample none ∧
    (dispatchFinal.calls.map Prod.fst ++ dispatchFinal.pending.map Block.id).Perm
      (List.range dispatchFinal.granted.length) ∧
    (∀ c ∈ dispatchFinal.calls, ∃ g, dispatchFinal.granted[c.1]? = some g ∧
      c.2 = (⟨g.1.length, g.1, false⟩, g.2)) ∧
    (∀ b ∈ dispatchFinal.pending, ∃ g, dispatchFinal.granted[b.id]? = some g ∧
      dispatchFinal.mem b.addr = some g.1 ∧ b.size = g.1.length ∧ b.ch = g.2) ∧
    (LoopAction.wait true ∈ dispatchExample → dispatchFinal.pending = [] ∧
      (dispatchFinal.calls.map Prod.fst).Perm (List.range dispatchFinal.granted.length)) :=
  have hrun : (LoopState.init 2 (List.replicate 8 0) false).run dispatchExample =
      some dispatchFinal := rfl
  ⟨hrun, dispatch_loop_blocks 2 (List.replicate 8 0) false dispatchExample dispatchFinal hrun⟩

/-! ## The result -/

/-- A step that reports a failure: a creation or allocation that failed, a receive with a
negative result other than `-EINTR`, or `dispatch_group_wait` failing. -/
def LoopAction.Fails : LoopAction → Prop
  | .start b q g => b = false ∨ q = false ∨ g = false
  | .receive res _ _ => res < 0 ∧ res ≠ -eintr
  | .copy addr => addr = none
  | .wait ok => ok = false
  | _ => False

/-- The result the last receive of a schedule returned. -/
def lastReceive (t : List LoopAction) : Option Int :=
  t.foldl (fun last a => match a with
    | .receive res _ _ => some res
    | _ => last) none

theorem lastReceive_append_receive (t : List LoopAction) (res : Int) (bytes : List UInt8)
    (ch : Nat) : lastReceive (t ++ [.receive res bytes ch]) = some res := by
  simp [lastReceive, List.foldl_append]

theorem lastReceive_append_of_ne (t : List LoopAction) {a : LoopAction}
    (h : ∀ res bytes ch, a ≠ .receive res bytes ch) :
    lastReceive (t ++ [a]) = lastReceive t := by
  cases a
  case receive res bytes ch => exact absurd rfl (h res bytes ch)
  all_goals simp only [lastReceive, List.foldl_append, List.foldl_cons, List.foldl_nil]

/-- What the result depends on: `res` is negative exactly when a step failed or the last
receive returned `-EINTR`; after a failure the reader only waits and returns; and the value
returned is `-1` for a negative `res` and `0` otherwise. -/
structure ResultInv (t : List LoopAction) (s : LoopState) : Prop where
  res_neg : s.res < 0 ↔ (∃ a ∈ t, a.Fails) ∨ lastReceive t = some (-eintr)
  failed : (∃ a ∈ t, a.Fails) → s.pc = .wait ∨ ∃ ret, s.pc = .done ret
  done_ret : ∀ {ret}, s.pc = .done ret → ret = if s.res < 0 then -1 else 0

theorem ResultInv.init (ch : Nat) (scratch : List UInt8) (ex : Bool) :
    ResultInv [] (LoopState.init ch scratch ex) :=
  ⟨by simp [LoopState.init, lastReceive], by simp, fun h => by cases h⟩

theorem exists_fails_append (t : List LoopAction) (a : LoopAction) :
    (∃ x ∈ t ++ [a], x.Fails) ↔ (∃ x ∈ t, x.Fails) ∨ a.Fails := by
  simp [or_and_right, exists_or]

section Result

variable {t : List LoopAction} {s s' : LoopState}

/-- A step that neither fails nor receives, and leaves `res` alone. -/
theorem ResultInv.keep (hk : ResultInv t s) {a : LoopAction} (ha : ¬a.Fails)
    (hl : lastReceive (t ++ [a]) = lastReceive t) (hres : s'.res = s.res)
    (hfailed : (∃ x ∈ t, x.Fails) → s'.pc = .wait ∨ ∃ ret, s'.pc = .done ret)
    (hdone : ∀ {ret}, s'.pc = .done ret → ret = if s.res < 0 then -1 else 0) :
    ResultInv (t ++ [a]) s' :=
  ⟨by rw [hres, hk.res_neg, exists_fails_append, hl, or_iff_left ha],
    fun h => hfailed (((exists_fails_append t a).mp h).resolve_right ha),
    fun h => hres ▸ hdone h⟩

/-- A step that keeps the reader where it is. -/
theorem ResultInv.still (hk : ResultInv t s) {a : LoopAction} (ha : ¬a.Fails)
    (hl : lastReceive (t ++ [a]) = lastReceive t) (hres : s'.res = s.res) (hpc : s'.pc = s.pc) :
    ResultInv (t ++ [a]) s' :=
  hk.keep ha hl hres (fun h => hpc ▸ hk.failed h) fun h => hk.done_ret (hpc ▸ h)

/-- A failing step that returns or goes to the wait, with `res = -1`. -/
theorem ResultInv.of_fail {a : LoopAction} (ha : a.Fails) (hres : s'.res = -1)
    (hpc : s'.pc = .wait ∨ s'.pc = .done (-1)) : ResultInv (t ++ [a]) s' :=
  ⟨by rw [hres, exists_fails_append]; exact iff_of_true (by decide) (.inl (.inr ha)),
    fun _ => hpc.imp id fun h => ⟨_, h⟩,
    fun h => by rcases hpc with h' | h' <;> rw [h'] at h <;> cases h; simp [hres]⟩

theorem ResultInv.not_failed (hk : ResultInv t s) (hw : s.pc ≠ .wait)
    (hd : ∀ ret, s.pc ≠ .done ret) : ¬∃ a ∈ t, a.Fails := fun h => by
  rcases hk.failed h with h' | ⟨ret, h'⟩
  · exact hw h'
  · exact hd ret h'

/-- Every step keeps the account of the result. -/
theorem ResultInv.step (hk : ResultInv t s) {a : LoopAction} (hs : s.step a = some s') :
    ResultInv (t ++ [a]) s' := by
  have hl := fun {a : LoopAction} => lastReceive_append_of_ne t (a := a)
  cases a with
  | start b q g =>
    obtain ⟨hpc, ⟨hf, _, rfl⟩ | ⟨rfl, rfl, rfl, rfl⟩⟩ := LoopState.step_start hs
    · exact ResultInv.of_fail hf rfl (.inr rfl)
    · exact hk.keep (by simp [LoopAction.Fails]) (hl (by simp)) rfl
        (fun h => absurd h (hk.not_failed (by simp [hpc]) (by simp [hpc]))) (fun h => by cases h)
  | check =>
    obtain ⟨hpc, rfl⟩ := LoopState.step_check hs
    exact hk.keep (by simp [LoopAction.Fails]) (hl (by simp)) rfl
      (fun h => absurd h (hk.not_failed (by simp [hpc]) (by simp [hpc])))
      (fun h => by split_ifs at h)
  | receive res bytes ch =>
    obtain ⟨hpc, -, rfl⟩ := LoopState.step_receive hs
    have hnf := hk.not_failed (by simp [hpc]) (by simp [hpc])
    have heintr : (0 : Int) < eintr := by decide
    refine ⟨?_, fun h => ?_, fun h => ?_⟩
    · rw [exists_fails_append, lastReceive_append_receive]
      simp only [hnf, false_or]
      simp only [LoopAction.Fails, Option.some.injEq]
      omega
    · rcases (exists_fails_append _ _).mp h with h | ⟨hneg, hne⟩
      · exact absurd h hnf
      · exact .inl (by simp only [if_neg hne, if_pos (show res ≤ 0 by omega)])
    · simp only at h
      split_ifs at h
  | copy addr =>
    obtain ⟨r, bytes, ch, hpc, ⟨rfl, rfl⟩ | ⟨a, rfl, -, -, rfl⟩⟩ := LoopState.step_copy hs
    · exact ResultInv.of_fail rfl rfl (.inl rfl)
    · exact hk.keep (by simp [LoopAction.Fails]) (hl (by simp)) rfl
        (fun h => absurd h (hk.not_failed (by simp [hpc]) (by simp [hpc]))) (fun h => by cases h)
  | run b =>
    obtain ⟨-, -, -, rfl⟩ := LoopState.step_run hs
    exact hk.still (by simp [LoopAction.Fails]) (hl (by simp)) rfl rfl
  | wait ok =>
    obtain ⟨hpc, ⟨rfl, -, rfl⟩ | ⟨rfl, rfl⟩⟩ := LoopState.step_wait hs
    · exact hk.keep (by simp [LoopAction.Fails]) (hl (by simp)) rfl
        (fun _ => .inr ⟨_, rfl⟩) (fun h => by cases h; rfl)
    · exact ResultInv.of_fail rfl rfl (.inr rfl)
  | exit =>
    cases hs
    exact hk.still (by simp [LoopAction.Fails]) (hl (by simp)) rfl rfl

theorem ResultInv.run {pre t : List LoopAction} (hk : ResultInv pre s) (hr : s.run t = some s') :
    ResultInv (pre ++ t) s' := by
  induction t generalizing pre s with
  | nil => cases hr; simpa using hk
  | cons a t ih =>
    obtain ⟨s₁, hs, hr'⟩ := Option.bind_eq_some.mp hr
    simpa using ih (hk.step hs) hr'

end Result

/-- Under every schedule, the loop returns `0` or `-1`, and `-1` exactly when a step failed (a
creation or allocation, a receive with a negative result other than `-EINTR`, or the wait), or
when the last receive returned `-EINTR`: the loop then stops on an exit seen right after the
`continue`, with `res` still `-EINTR`. -/
theorem loop_dispatch_result (ch : Nat) (scratch : List UInt8) (ex : Bool)
    (trace : List LoopAction) (s : LoopState)
    (hrun : (LoopState.init ch scratch ex).run trace = some s) {ret : Int}
    (hdone : s.pc = .done ret) :
    (ret = 0 ∨ ret = -1) ∧
    (ret = -1 ↔ (∃ a ∈ trace, a.Fails) ∨ lastReceive trace = some (-eintr)) := by
  have hk := (ResultInv.init ch scratch ex).run hrun
  rw [List.nil_append] at hk
  rw [hk.done_ret hdone, ← hk.res_neg]
  constructor
  · split_ifs <;> simp
  · split_ifs with h <;> simp [h]

/-- The receive returns `-EINTR`, the session is exited before the loop tests it again, and
`dispatch_group_wait` returns `0`. -/
def eintrExitRun : List LoopAction :=
  [.start true true true, .check, .receive (-eintr) [] 2, .exit, .check, .wait true]

theorem loop_dispatch_result_example :
    (LoopState.init 2 (List.replicate 8 0) false).run eintrExitRun =
      some (((LoopState.init 2 (List.replicate 8 0) false).run eintrExitRun).getD
        (LoopState.init 2 (List.replicate 8 0) false)) ∧
    (((LoopState.init 2 (List.replicate 8 0) false).run eintrExitRun).getD
        (LoopState.init 2 (List.replicate 8 0) false)).pc = .done (-1) ∧
    ((-1 : Int) = 0 ∨ (-1 : Int) = -1) ∧
    ((-1 : Int) = -1 ↔ (∃ a ∈ eintrExitRun, a.Fails) ∨ lastReceive eintrExitRun = some (-eintr)) :=
  have hrun : (LoopState.init 2 (List.replicate 8 0) false).run eintrExitRun =
      some (((LoopState.init 2 (List.replicate 8 0) false).run eintrExitRun).getD
        (LoopState.init 2 (List.replicate 8 0) false)) := rfl
  have hdone : (((LoopState.init 2 (List.replicate 8 0) false).run eintrExitRun).getD
      (LoopState.init 2 (List.replicate 8 0) false)).pc = .done (-1) := rfl
  ⟨hrun, hdone, loop_dispatch_result 2 _ false eintrExitRun _ hrun hdone⟩

/-- On that schedule no step failed, and the loop returns `-1`. -/
theorem eintr_then_exit_returns_error :
    ((LoopState.init 2 (List.replicate 8 0) false).run eintrExitRun).map LoopState.pc =
      some (.done (-1)) ∧ ∀ a ∈ eintrExitRun, ¬a.Fails := by
  refine ⟨rfl, ?_⟩
  simp [eintrExitRun, LoopAction.Fails, eintr]

end MacFuse
