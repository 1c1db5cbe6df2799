import MacFuse.Cmdline
import MacFuse.Process
import MacFuse.Signals

/-!
# Setting up, running and tearing down a file system

`fuse_main_common` is the life of a file system the helper drives. `fuse_setup_common` parses
the command line, mounts, makes the `fuse` object, daemonizes and installs the signal handlers; a
failure after the mount jumps to `err_unmount`, which unmounts and destroys what was made, and
every failure after the parse ends at `err_free`, which frees the mount point. Then the loop the
command line chose runs, and `fuse_teardown_common` removes the signal handlers, unmounts,
destroys `fuse` and frees the mount point.

What these calls do to the mount, the channel and the session is modelled in `Lifecycle`. Here
their results are given, the calls are recorded in order, and the model follows the helper's
strings, the signal state and the exit status. Over every run, whatever the arguments and
whatever each call returns:

* the mount point a successful parse hands back is freed exactly once, and nothing else is;
* so `fuse_main_common` passes to `free` only `NULL` or live strings, and the strings it leaves
  allocated are the `loop=` value of a parse that succeeded, or both strings of a
  `fuse_opt_parse` that failed;
* once setup returns `fuse`, the loop variant is one the code runs, so the `return 1` for an
  unknown variant is never reached: the loop and the teardown run, and the exit status is the
  loop's.
-/

namespace MacFuse

/-- The calls `fuse_setup_common`, `fuse_main_common` and `fuse_teardown_common` make on the
mount, the channel, the session and the process. -/
inductive MainCall where
  /-- `fuse_mount_common(*mountpoint, &args)`. -/
  | mount
  /-- `fuse_new_common(ch, &args, op, op_size, user_data, compat)`. -/
  | newCommon
  /-- `fuse_daemonize(foreground)`. -/
  | daemonize
  /-- `fuse_set_signal_handlers(fuse_get_session(fuse))`. -/
  | setSignalHandlers
  /-- `fuse_loop`, `fuse_loop_mt` or `fuse_loop_dispatch`, as the variant says. -/
  | loop (m : LoopSetting)
  /-- `fuse_remove_signal_handlers(se)`. -/
  | removeSignalHandlers
  /-- `fuse_unmount_common(mountpoint, ch)`. -/
  | unmount
  /-- `fuse_destroy(fuse)`. -/
  | destroy
  deriving DecidableEq, Repr

/-- What a run depends on besides the arguments: the parse's environment, the results of the
calls modelled elsewhere, and what the uninitialised variables behind the output pointers
hold. -/
structure MainEnv where
  cmdline : CmdlineEnv
  /-- The channel `fuse_mount_common` returns, `0` for `NULL`. -/
  mountChan : Nat
  /-- The `fuse` `fuse_new_common` returns, `0` for `NULL`. -/
  newFuse : Nat
  /-- `fuse_get_session(fuse)`. -/
  session : Nat
  /-- The descriptors `fuse_daemonize` starts from, and the results of its calls. -/
  fds : FdTable
  daemon : DaemonEnv
  /-- The signal state, and what `dispatch_source_create` returns for each signal. -/
  sig : SigState
  create : Nat → Nat
  /-- What the loop of each variant returns. -/
  loopRes : LoopSetting → Int
  /-- `fuse_main_common`'s uninitialised `mountpoint` and `multithreaded`. -/
  staleMountpoint : Nat
  staleLoop : LoopSetting
  /-- `fuse_setup_common`'s uninitialised `foreground`. -/
  staleForeground : Int

/-- What `fuse_setup_common` returns and leaves behind. -/
structure SetupResult where
  /-- The `fuse` returned, `0` for `NULL`. -/
  fuse : Nat
  /-- The caller's `*mountpoint` and `*multithreaded`, and the local `foreground`. -/
  out : CmdlineOut
  heap : StrHeap
  stderr : List String
  sig : SigState
  calls : List MainCall

/-- `fuse_setup_common(argc, argv, op, op_size, mountpoint, multithreaded, NULL, user_data,
compat)` with the caller's variables `mountpoint` and `multithreaded` (`none` for a `NULL`
pointer). A failed `fuse_daemonize` adds the text it hands to `perror`. `none` is undefined
behaviour: the parse's, or `*mountpoint` read through a `NULL` pointer. -/
def fuseSetupCommon (env : MainEnv) (args : List (List Char)) (heap : StrHeap)
    (mountpoint : Option Nat) (multithreaded : Option LoopSetting) : Option SetupResult :=
  (fuseParseCmdline env.cmdline args heap
      ⟨mountpoint, multithreaded, some env.staleForeground⟩).bind fun r =>
    if r.res = -1 then some ⟨0, r.out, r.heap, r.stderr, env.sig, []⟩
    else r.out.mountpoint.map fun mp =>
      if env.cmdline.platform = .apple ∧ mp = 0 then
        ⟨0, r.out, r.heap, r.stderr ++ ["fuse: no mount point\n"], env.sig, []⟩
      else if env.mountChan = 0 then ⟨0, r.out, r.heap.free mp, r.stderr, env.sig, [.mount]⟩
      else if env.newFuse = 0 then
        ⟨0, r.out, r.heap.free mp, r.stderr, env.sig, [.mount, .newCommon, .unmount]⟩
      else
        let d := fuseDaemonize env.fds env.daemon (r.out.foreground.getD env.staleForeground != 0)
        let stderr := r.stderr ++ d.report.toList
        if d.ret = -1 then
          ⟨0, r.out, r.heap.free mp, stderr, env.sig,
            [.mount, .newCommon, .daemonize, .unmount, .destroy]⟩
        else
          let hs := fuseSetSignalHandlers env.cmdline.platform env.sig env.session env.create
          if hs.2 = -1 then
            ⟨0, r.out, r.heap.free mp, stderr, hs.1,
              [.mount, .newCommon, .daemonize, .setSignalHandlers, .unmount, .destroy]⟩
          else
            ⟨env.newFuse, r.out, r.heap, stderr, hs.1,
              [.mount, .newCommon, .daemonize, .setSignalHandlers]⟩

/-- `fuse_teardown_common(fuse, mountpoint)`: the signal handlers go, the channel is unmounted,
`fuse` is destroyed and the mount point freed. -/
def fuseTeardownCommon (env : MainEnv) (heap : StrHeap) (sig : SigState) (mountpoint : Nat) :
    StrHeap × SigState × List MainCall :=
  (heap.free mountpoint, fuseRemoveSignalHandlers env.cmdline.platform sig env.session,
    [.removeSignalHandlers, .unmount, .destroy])

/-- What `fuse_main_common` returns and leaves behind. -/
structure MainResult where
  status : Int
  heap : StrHeap
  stderr : List String
  sig : SigState
  calls : List MainCall

/-- `fuse_main_common(argc, argv, op, op_size, user_data, compat)`: set up, run the loop the
command line chose, tear down, and return `1` when setup failed or the loop returned `-1`. -/
def fuseMainCommon (env : MainEnv) (args : List (List Char)) (heap : StrHeap) :
    Option MainResult :=
  (fuseSetupCommon env args heap (some env.staleMountpoint) (some env.staleLoop)).map fun s =>
    if s.fuse = 0 then ⟨1, s.heap, s.stderr, s.sig, s.calls⟩
    else
      match s.out.multithreaded with
      | some (.other _) | none => ⟨1, s.heap, s.stderr, s.sig, s.calls⟩
      | some m =>
        let t := fuseTeardownCommon env s.heap s.sig (s.out.mountpoint.getD env.staleMountpoint)
        ⟨if env.loopRes m = -1 then 1 else 0, t.1, s.stderr, t.2.1, s.calls ++ .loop m :: t.2.2⟩

/-- The parse `fuse_setup_common` runs for `fuse_main_common`. -/
def mainParse (env : MainEnv) (args : List (List Char)) (heap : StrHeap) :
    Option CmdlineResult :=
  fuseParseCmdline env.cmdline args heap
    ⟨some env.staleMountpoint, some env.staleLoop, some env.staleForeground⟩

/-- Every call succeeds, each loop returns `0`, and descriptors 0 to 2 are open. -/
def plainMainEnv : MainEnv :=
  ⟨plainCmdlineEnv, 1, 1, 1, ⟨[some (.inherited 0), some (.inherited 1), some (.inherited 2)]⟩,
    ⟨true, true, true, true⟩, quietState, fun _ => 7, fun _ => 0, 0, .other 0, 0⟩

/-! ## What setup and the run do to the helper's strings -/

section Strings

variable {env : MainEnv} {args : List (List Char)} {heap : StrHeap}

/-- The ways out of `fuse_setup_common`: the parse failed; or it handed back the mount point
`p`, which every failed step after it frees (`p` is `NULL` when there is no mount point), and
which a `fuse` returned keeps. -/
theorem fuseSetupCommon_cases {mp : Option Nat} {mt : Option LoopSetting} {s : SetupResult}
    (h : fuseSetupCommon env args heap mp mt = some s) :
    ∃ r, fuseParseCmdline env.cmdline args heap ⟨mp, mt, some env.staleForeground⟩ = some r ∧
      s.out = r.out ∧
      (r.res = -1 ∧ s.fuse = 0 ∧ s.heap = r.heap ∨
        ∃ p, r.res = 0 ∧ r.out.mountpoint = some p ∧
          (s.fuse = 0 ∧ s.heap = r.heap.free p ∨ s.fuse ≠ 0 ∧ s.heap = r.heap)) := by
  obtain ⟨r, hr, h⟩ := Option.bind_eq_some.mp h
  refine ⟨r, hr, ?_⟩
  by_cases hres : r.res = -1
  · rw [if_pos hres] at h
    cases h; exact ⟨rfl, .inl ⟨hres, rfl, rfl⟩⟩
  rw [if_neg hres] at h
  obtain ⟨p, hp, rfl⟩ := Option.map_eq_some'.mp h
  have h0 : r.res = 0 := (fuseParseCmdline_res hr).resolve_left hres
  generalize fuseSetSignalHandlers env.cmdline.platform env.sig env.session env.create = hs
  generalize fuseDaemonize env.fds env.daemon _ = d
  simp only []
  by_cases hno : env.cmdline.platform = .apple ∧ p = 0
  · rw [if_pos hno]
    exact ⟨rfl, .inr ⟨p, h0, hp, .inl ⟨rfl, by rw [hno.2, StrHeap.free_zero]⟩⟩⟩
  rw [if_neg hno]
  by_cases hm : env.mountChan = 0
  · rw [if_pos hm]; exact ⟨rfl, .inr ⟨p, h0, hp, .inl ⟨rfl, rfl⟩⟩⟩
  rw [if_neg hm]
  by_cases hn : env.newFuse = 0
  · rw [if_pos hn]; exact ⟨rfl, .inr ⟨p, h0, hp, .inl ⟨rfl, rfl⟩⟩⟩
  rw [if_neg hn]
  by_cases hd : d.ret = -1
  · rw [if_pos hd]; exact ⟨rfl, .inr ⟨p, h0, hp, .inl ⟨rfl, rfl⟩⟩⟩
  rw [if_neg hd]
  by_cases hsig : hs.2 = -1
  · rw [if_pos hsig]; exact ⟨rfl, .inr ⟨p, h0, hp, .inl ⟨rfl, rfl⟩⟩⟩
  · rw [if_neg hsig]; exact ⟨rfl, .inr ⟨p, h0, hp, .inr ⟨hn, rfl⟩⟩⟩

variable {r : MainResult}

/-- `fuse_main_common` frees, of the parse's strings, exactly the mount point a successful parse
handed back: by the path of a failed setup step, or by the teardown. -/
theorem fuseMainCommon_heap (h : fuseMainCommon env args heap = some r) :
    ∃ r₀, mainParse env args heap = some r₀ ∧
      (r₀.res = -1 ∧ r.heap = r₀.heap ∨
        ∃ p, r₀.res = 0 ∧ r₀.out.mountpoint = some p ∧ r.heap = r₀.heap.free p) := by
  obtain ⟨s, hs, rfl⟩ := Option.map_eq_some'.mp h
  obtain ⟨r₀, hr₀, hout, hcases⟩ := fuseSetupCommon_cases hs
  refine ⟨r₀, hr₀, ?_⟩
  rcases hcases with ⟨hres, hf, hheap⟩ | ⟨p, hres, hp, ⟨hf, hheap⟩ | ⟨hf, hheap⟩⟩
  · exact .inl ⟨hres, by simp [hf, hheap]⟩
  · exact .inr ⟨p, hres, hp, by simp [hf, hheap]⟩
  obtain ⟨m, hm, hknown⟩ := fuseParseCmdline_loop hr₀ hres rfl
  refine .inr ⟨p, hres, hp, ?_⟩
  simp only [if_neg hf, hout, hm]
  rcases hknown with rfl | rfl | rfl <;> simp [fuseTeardownCommon, hheap, hp]

end Strings

/-! ## The loop and the exit status -/

section Status

variable {env : MainEnv} {args : List (List Char)} {heap : StrHeap} {r : MainResult}

/-- Once `fuse_setup_common` returns `fuse`, the loop variant is one of the three, so the
`return 1` of `fuse_main_common` for another variant is never reached: the loop runs, the
teardown follows, and the exit status is `1` exactly when the loop returned `-1`. A failed setup
gives `1` and no further call. -/
theorem fuse_main_common_status (h : fuseMainCommon env args heap = some r) :
    ∃ s, fuseSetupCommon env args heap (some env.staleMountpoint) (some env.staleLoop) = some s ∧
      (s.fuse = 0 → r.status = 1 ∧ r.calls = s.calls) ∧
      (s.fuse ≠ 0 → ∃ m, (m = .singleThreaded ∨ m = .multiThreaded ∨ m = .dispatch) ∧
          s.out.multithreaded = some m ∧
          r.calls = s.calls ++ [.loop m, .removeSignalHandlers, .unmount, .destroy] ∧
          r.status = if env.loopRes m = -1 then 1 else 0) := by
  obtain ⟨s, hs, rfl⟩ := Option.map_eq_some'.mp h
  refine ⟨s, hs, fun hf => by simp [hf], fun hf => ?_⟩
  obtain ⟨r₀, hr₀, hout, hcases⟩ := fuseSetupCommon_cases hs
  have hres : r₀.res = 0 := by
    rcases hcases with ⟨-, h0, -⟩ | ⟨-, h0, -⟩
    · exact absurd h0 hf
    · exact h0
  obtain ⟨m, hm, hknown⟩ := fuseParseCmdline_loop hr₀ hres rfl
  refine ⟨m, hknown, by rw [hout, hm], ?_⟩
  simp only [if_neg hf, hout, hm]
  rcases hknown with rfl | rfl | rfl <;> simp [fuseTeardownCommon]

theorem fuse_main_common_status_example :
    ∃ r, fuseMainCommon plainMainEnv dispatchLoopArgs StrHeap.empty = some r ∧
      ∃ s, fuseSetupCommon plainMainEnv dispatchLoopArgs StrHeap.empty (some 0) (some (.other 0)) =
          some s ∧
        (s.fuse = 0 → r.status = 1 ∧ r.calls = s.calls) ∧
        (s.fuse ≠ 0 → ∃ m, (m = .singleThreaded ∨ m = .multiThreaded ∨ m = .dispatch) ∧
            s.out.multithreaded = some m ∧
            r.calls = s.calls ++ [.loop m, .removeSignalHandlers, .unmount, .destroy] ∧
            r.status = if plainMainEnv.loopRes m = -1 then 1 else 0) :=
  ⟨_, rfl, @fuse_main_common_status plainMainEnv dispatchLoopArgs StrHeap.empty _ rfl⟩

end Status

end MacFuse
