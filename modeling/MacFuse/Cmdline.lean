import MacFuse.FuseOpt

/-!
# Parsing the command line

`fuse_parse_cmdline` runs the option parser of `FuseOpt` over the arguments. Unless a `fsname=`
or `subtype=` option was given it adds `-osubtype=` and the program's name. It then writes the
mount point, the loop variant and the foreground flag through its three output pointers, each
of which may be `NULL`. A `loop=` value it does not know sends it to its error path, which frees
what the parse allocated and returns `-1`.
-/

namespace MacFuse

/-! ## `fuse_parse_cmdline` -/

/-- The part of `progname` after its last `/`, as `add_default_subtype` takes it: a name that
ends in `/` gives `/` itself. -/
def subtypeBasename (progname : List Char) : List Char :=
  match progname.reverse.indexOf? '/' with
  | none => progname
  | some 0 => ['/']
  | some j => (progname.reverse.take j).reverse

/-- `add_default_subtype(progname, args)`: `-osubtype=` and the program's base name, built in a
buffer of its own. -/
def OptCtx.addDefaultSubtype (c : OptCtx) (env : CmdlineEnv) (progname : List Char) :
    OptCtx × Int :=
  if !(c.attempt env).2 then ((c.attempt env).1.print "fuse: memory allocation failed\n", -1)
  else (c.attempt env).1.addArg env ("-osubtype=".toList ++ subtypeBasename progname)

/-- `if (!hopts.nodefault_subtype) res = add_default_subtype(args->argv[0], args);`, with `none`
for the read of `argv[0]` in an empty vector. -/
def OptCtx.defaultSubtype (c : OptCtx) (env : CmdlineEnv) : Option (OptCtx × Int) :=
  if c.hopts.nodefaultSubtype = 0 then c.outargs.head?.map (c.addDefaultSubtype env)
  else some (c, 0)

/-- A value of the caller's `*multithreaded`: one of the `FUSE_LOOP_*` constants, or whatever
else it held. -/
inductive LoopSetting where
  | singleThreaded
  | multiThreaded
  | dispatch
  | other (v : Int)
  deriving DecidableEq, Repr

/-- The caller's variables behind `mountpoint`, `multithreaded` and `foreground`; `none` for a
`NULL` pointer. -/
structure CmdlineOut where
  mountpoint : Option Nat
  multithreaded : Option LoopSetting
  foreground : Option Int
  deriving DecidableEq, Repr

/-- What `fuse_parse_cmdline` returns and leaves behind. -/
structure CmdlineResult where
  res : Int
  out : CmdlineOut
  args : List (List Char)
  heap : StrHeap
  stderr : List String

/-- The loop variant `fuse_parse_cmdline` picks: `-s` first, then a `loop=` value, which must be
one of the three names (`none` otherwise), and multi-threaded by default. The outer `none` is a
read of a `loop` string that is not live. -/
def loopSetting (heap : StrHeap) (o : HelperOpts) : Option (Option LoopSetting) :=
  if o.singlethread ≠ 0 then some (some .singleThreaded)
  else if o.loop = 0 then some (some .multiThreaded)
  else (heap.strs o.loop).map fun s =>
    if s = "single_threaded".toList then some .singleThreaded
    else if s = "multi_threaded".toList then some .multiThreaded
    else if s = "dispatch".toList then some .dispatch
    else none

/-- The label `err`: free `loop` and `mountpoint` and return `-1`. -/
def parseCmdlineErr (c : OptCtx) (heap : StrHeap) (out : CmdlineOut) (stderr : List String) :
    CmdlineResult :=
  ⟨-1, out, c.outargs, (heap.free c.hopts.loop).free c.hopts.mountpoint, stderr⟩

/-- `if (mountpoint) *mountpoint = hopts.mountpoint; else free(hopts.mountpoint);` -/
def writeMountpoint (c : OptCtx) (out : CmdlineOut) : StrHeap × CmdlineOut :=
  if out.mountpoint.isSome then (c.heap, { out with mountpoint := some c.hopts.mountpoint })
  else (c.heap.free c.hopts.mountpoint, out)

/-- The outputs of `fuse_parse_cmdline` once the parse and the subtype are done: the mount point
first, then the loop variant, whose unknown name takes the error path, then the foreground
flag. -/
def parseCmdlineOutputs (c : OptCtx) (out : CmdlineOut) : Option CmdlineResult :=
  let w := writeMountpoint c out
  let done (out : CmdlineOut) : CmdlineResult :=
    ⟨0, { out with foreground := out.foreground.map fun _ => c.hopts.foreground }, c.outargs,
      w.1, c.stderr⟩
  match out.multithreaded with
  | none => some (done w.2)
  | some _ =>
    (loopSetting w.1 c.hopts).map fun
      | some m => done { w.2 with multithreaded := some m }
      | none => parseCmdlineErr c w.1 w.2 (c.stderr ++ ["fuse: invalid option loop\n"])

/-- `fuse_parse_cmdline(args, mountpoint, multithreaded, foreground)` on the argument vector
`args`, with the caller's variables `out`. `none` is undefined behaviour: a subtype for an
empty vector reads `argv[0]`, which is `NULL`. -/
def fuseParseCmdline (env : CmdlineEnv) (args : List (List Char)) (heap : StrHeap)
    (out : CmdlineOut) : Option CmdlineResult :=
  let parsed := fuseOptParse env args (OptCtx.init heap)
  if parsed.2 = -1 then some ⟨-1, out, args, parsed.1.heap, parsed.1.stderr⟩
  else (parsed.1.defaultSubtype env).bind fun r =>
    if r.2 = -1 then some (parseCmdlineErr r.1 r.1.heap out r.1.stderr)
    else parseCmdlineOutputs r.1 out

/-- An option ends, as `process_gopt` reads it, at an escape `\000` that decodes to NUL. -/
example : (fuseParseCmdline plainCmdlineEnv
    ["prog".toList, "/mnt".toList, "-o".toList, "loop=dispatch\\000x".toList] StrHeap.empty
    ⟨some 7, some (.other 9), some 3⟩).map (fun r => r.out.multithreaded) =
      some (some .dispatch) := by
  decide

namespace OptCtx

variable {c : OptCtx} {env : CmdlineEnv}

/-- Adding the default subtype keeps the helper's options and strings, and reports only a failed
allocation. -/
theorem defaultSubtype_strs {s : OptCtx × Int} (h : c.defaultSubtype env = some s) :
    s.1.heap = c.heap ∧ s.1.hopts = c.hopts ∧
      s.1.stderr = if s.2 = -1 then c.stderr ++ ["fuse: memory allocation failed\n"]
        else c.stderr := by
  unfold defaultSubtype at h
  split_ifs at h
  · obtain ⟨a, -, rfl⟩ := Option.map_eq_some'.mp h
    unfold addDefaultSubtype
    by_cases ha : (!(c.attempt env).2) = true
    · rw [if_pos ha]; exact ⟨rfl, rfl, rfl⟩
    · rw [if_neg ha]; exact ⟨addArg_heap _, addArg_hopts _, addArg_stderr _⟩
  · cases h; exact ⟨rfl, rfl, rfl⟩

end OptCtx

/-! ## What `fuse_parse_cmdline` hands back -/

section Results

variable {env : CmdlineEnv} {args : List (List Char)} {heap : StrHeap} {out : CmdlineOut}
  {r : CmdlineResult} {c : OptCtx}

@[simp] theorem parseCmdlineErr_res (s : List String) : (parseCmdlineErr c heap out s).res = -1 :=
  rfl

@[simp] theorem parseCmdlineErr_out (s : List String) : (parseCmdlineErr c heap out s).out = out :=
  rfl

/-- The error path frees `loop` and then `mountpoint`: while the mount point is live it is a
string the path releases, last. -/
theorem parseCmdlineErr_frees_mountpoint (hm : heap.Holds c.hopts.mountpoint) (s : List String) :
    c.hopts.mountpoint = 0 ∨
      (parseCmdlineErr c heap out s).heap.freed.getLast? = some c.hopts.mountpoint ∧
      (parseCmdlineErr c heap out s).heap.strs c.hopts.mountpoint = none :=
  (hm.free c.distinct).free_self

/-- While both strings are live, the error path frees nothing else. -/
theorem parseCmdlineErr_badFrees (hm : heap.Holds c.hopts.mountpoint)
    (hl : heap.Holds c.hopts.loop) (s : List String) :
    (parseCmdlineErr c heap out s).heap.badFrees = heap.badFrees :=
  (hm.free c.distinct).badFrees_free.trans hl.badFrees_free

theorem writeMountpoint_snd :
    (writeMountpoint c out).2 = { out with mountpoint := out.mountpoint.map fun _ => c.hopts.mountpoint } := by
  rcases out with ⟨_ | _, _, _⟩ <;> rfl

theorem writeMountpoint_fst (hm : out.mountpoint.isSome) : (writeMountpoint c out).1 = c.heap :=
  congrArg Prod.fst (if_pos hm)

/-- Once the mount point is written, `fuse_parse_cmdline` fails only on an unknown loop variant,
and otherwise returns `0` with the mount point's string where it was written. -/
theorem parseCmdlineOutputs_cases (h : parseCmdlineOutputs c out = some r) :
    r = parseCmdlineErr c (writeMountpoint c out).1 (writeMountpoint c out).2
        (c.stderr ++ ["fuse: invalid option loop\n"]) ∨
      r.res = 0 ∧ r.heap = (writeMountpoint c out).1 ∧
        r.out.mountpoint = (writeMountpoint c out).2.mountpoint := by
  unfold parseCmdlineOutputs at h
  split at h
  · cases h; exact .inr ⟨rfl, rfl, rfl⟩
  · obtain ⟨m, -, rfl⟩ := Option.map_eq_some'.mp h
    split
    · exact .inr ⟨rfl, rfl, rfl⟩
    · exact .inl rfl

/-- The three ways out of `fuse_parse_cmdline`, after the parse `fuse_opt_parse` made: it failed,
with the outputs untouched; adding the subtype failed, into the error path, after a report of
the failed allocation; or the outputs were written. The last two start from a context with the
parse's options and strings. -/
theorem fuseParseCmdline_cases (h : fuseParseCmdline env args heap out = some r) :
    ((fuseOptParse env args (OptCtx.init heap)).2 = -1 ∧ r.res = -1 ∧ r.out = out ∧
      r.heap = (fuseOptParse env args (OptCtx.init heap)).1.heap ∧
      r.stderr = (fuseOptParse env args (OptCtx.init heap)).1.stderr) ∨
    ∃ c : OptCtx, (fuseOptParse env args (OptCtx.init heap)).2 ≠ -1 ∧
      c.heap = (fuseOptParse env args (OptCtx.init heap)).1.heap ∧
      c.hopts = (fuseOptParse env args (OptCtx.init heap)).1.hopts ∧
      (r = parseCmdlineErr c c.heap out c.stderr ∧
          c.stderr = (fuseOptParse env args (OptCtx.init heap)).1.stderr ++
            ["fuse: memory allocation failed\n"] ∨
        parseCmdlineOutputs c out = some r ∧
          c.stderr = (fuseOptParse env args (OptCtx.init heap)).1.stderr) := by
  dsimp only [fuseParseCmdline] at h
  split_ifs at h with hp
  · cases h; exact .inl ⟨hp, rfl, rfl, rfl, rfl⟩
  · obtain ⟨s, hs, h⟩ := Option.bind_eq_some.mp h
    obtain ⟨hheap, hopts, hstderr⟩ := OptCtx.defaultSubtype_strs hs
    split_ifs at h with h1
    · cases h; exact .inr ⟨s.1, hp, hheap, hopts, .inl ⟨rfl, by rw [hstderr, if_pos h1]⟩⟩
    · exact .inr ⟨s.1, hp, hheap, hopts, .inr ⟨h, by rw [hstderr, if_neg h1]⟩⟩

/-- When `fuse_parse_cmdline` returns `0`, `fuse_opt_parse` succeeded, and a mount point handed
back is the one it parsed, in the heap it left. -/
theorem fuseParseCmdline_ok (h : fuseParseCmdline env args heap out = some r) (hres : r.res = 0) :
    (fuseOptParse env args (OptCtx.init heap)).2 ≠ -1 ∧ ∀ p, r.out.mountpoint = some p →
      p = (fuseOptParse env args (OptCtx.init heap)).1.hopts.mountpoint ∧
        r.heap = (fuseOptParse env args (OptCtx.init heap)).1.heap := by
  rcases fuseParseCmdline_cases h with ⟨-, h1, -⟩ | ⟨c, hok, hheap, hopts, ⟨rfl, -⟩ | ⟨ho, -⟩⟩
  · omega
  · simp at hres
  refine ⟨hok, fun p hp => ?_⟩
  rcases parseCmdlineOutputs_cases ho with rfl | ⟨-, hheap', hmp⟩
  · simp at hres
  · rcases out with ⟨_ | q, mt, fg⟩
    · simp [hmp, writeMountpoint_snd] at hp
    · obtain rfl : c.hopts.mountpoint = p := by simpa [hmp, writeMountpoint_snd] using hp
      exact ⟨by rw [hopts], hheap'.trans hheap⟩

/-- On success, a mount point handed back is the parse's own, in the heap the parse left. -/
theorem fuseParseCmdline_success (h : fuseParseCmdline env args heap out = some r)
    (hres : r.res = 0) {p : Nat} (hp : r.out.mountpoint = some p) :
    ∃ c : OptCtx, r.heap = c.heap ∧ c.hopts.mountpoint = p ∧
      (c.mountpointStr = none ∨ ∃ a ∈ args.tail, c.mountpointStr = resolvedMountpoint env a) ∧
      c.hopts = (fuseOptParse env args (OptCtx.init heap)).1.hopts := by
  obtain ⟨rfl, hheap⟩ := (fuseParseCmdline_ok h hres).2 p hp
  exact ⟨_, hheap, rfl, fuseOptParse_mountpointStr env args _, rfl⟩

/-- A mount point, then a `loop=` value `fuse_parse_cmdline` does not know. -/
def invalidLoopArgs : List (List Char) :=
  ["prog".toList, "/mnt".toList, "-o".toList, "loop=bogus".toList]

/-- When `fuse_parse_cmdline` returns `-1`, `*multithreaded` and `*foreground` are as they were,
and so is `*mountpoint`, except when the call failed at an unknown loop variant, which it reports
after what the parse wrote: the mount point is written before the variant is checked, and the
error path then frees it, so a caller with a pointer is left `NULL` or a string the call has
just freed. -/
theorem fuse_parse_cmdline_error_outputs (h : fuseParseCmdline env args heap out = some r)
    (hres : r.res = -1) :
    r.out.multithreaded = out.multithreaded ∧ r.out.foreground = out.foreground ∧
      (r.stderr ≠ (fuseOptParse env args (OptCtx.init heap)).1.stderr ++
          ["fuse: invalid option loop\n"] → r.out.mountpoint = out.mountpoint) ∧
      (r.stderr = (fuseOptParse env args (OptCtx.init heap)).1.stderr ++
          ["fuse: invalid option loop\n"] →
        r.out.mountpoint = out.mountpoint.map
          (fun _ => (fuseOptParse env args (OptCtx.init heap)).1.hopts.mountpoint) ∧
        (out.mountpoint.isSome →
          (fuseOptParse env args (OptCtx.init heap)).1.hopts.mountpoint = 0 ∨
          r.heap.freed.getLast? = some (fuseOptParse env args (OptCtx.init heap)).1.hopts.mountpoint ∧
          r.heap.strs (fuseOptParse env args (OptCtx.init heap)).1.hopts.mountpoint = none)) := by
  rcases fuseParseCmdline_cases h with ⟨-, -, hout, -, hs⟩ | ⟨c, -, -, hopts, ⟨rfl, hs⟩ | ⟨ho, hs⟩⟩
  · refine ⟨by rw [hout], by rw [hout], fun _ => by rw [hout], fun he => ?_⟩
    have := congrArg List.length (hs.symm.trans he)
    simp at this
  · refine ⟨rfl, rfl, fun _ => rfl, fun he => ?_⟩
    have := List.append_cancel_left (hs.symm.trans he)
    simp at this
  rcases parseCmdlineOutputs_cases ho with rfl | ⟨h0, -⟩
  · refine ⟨by simp [writeMountpoint_snd], by simp [writeMountpoint_snd],
      fun hne => absurd (by simp [parseCmdlineErr, hs]) hne, fun _ => ?_⟩
    rw [← hopts]
    refine ⟨by simp [parseCmdlineErr, writeMountpoint_snd], fun hm => ?_⟩
    rw [parseCmdlineErr, writeMountpoint_fst hm]
    exact parseCmdlineErr_frees_mountpoint c.mountpoint_holds _
  · omega

theorem fuse_parse_cmdline_error_outputs_example :
    ∃ r, fuseParseCmdline plainCmdlineEnv invalidLoopArgs StrHeap.empty
        ⟨some 7, some (.other 9), some 3⟩ = some r ∧ r.res = -1 ∧
      r.out.multithreaded = some (.other 9) ∧ r.out.foreground = some 3 ∧
      (r.stderr ≠ (fuseOptParse plainCmdlineEnv invalidLoopArgs (OptCtx.init StrHeap.empty)).1.stderr ++
          ["fuse: invalid option loop\n"] → r.out.mountpoint = some 7) ∧
      (r.stderr = (fuseOptParse plainCmdlineEnv invalidLoopArgs (OptCtx.init StrHeap.empty)).1.stderr ++
          ["fuse: invalid option loop\n"] →
        r.out.mountpoint = (some 7 : Option Nat).map (fun _ =>
          (fuseOptParse plainCmdlineEnv invalidLoopArgs (OptCtx.init StrHeap.empty)).1.hopts.mountpoint) ∧
        ((some 7 : Option Nat).isSome →
          (fuseOptParse plainCmdlineEnv invalidLoopArgs
            (OptCtx.init StrHeap.empty)).1.hopts.mountpoint = 0 ∨
          r.heap.freed.getLast? = some (fuseOptParse plainCmdlineEnv invalidLoopArgs
            (OptCtx.init StrHeap.empty)).1.hopts.mountpoint ∧
          r.heap.strs (fuseOptParse plainCmdlineEnv invalidLoopArgs
            (OptCtx.init StrHeap.empty)).1.hopts.mountpoint = none)) :=
  ⟨_, rfl, rfl, @fuse_parse_cmdline_error_outputs plainCmdlineEnv invalidLoopArgs StrHeap.empty
    ⟨some 7, some (.other 9), some 3⟩ _ rfl rfl⟩

theorem parse_cmdline_invalid_loop_frees_mountpoint :
    (fuseParseCmdline plainCmdlineEnv invalidLoopArgs StrHeap.empty
        ⟨some 7, some (.other 9), some 3⟩).map (fun r => (r.res, r.out, r.heap.freed)) =
      some (-1, ⟨some 1, some (.other 9), some 3⟩, [2, 1]) := by
  decide

/-- When `fuse_parse_cmdline` returns `0`, the mount point it writes is `NULL` or a live
string. -/
theorem fuse_parse_cmdline_success_mountpoint (h : fuseParseCmdline env args heap out = some r)
    (hres : r.res = 0) {p : Nat} (hp : r.out.mountpoint = some p) : r.heap.Holds p := by
  obtain ⟨c, hheap, rfl, -⟩ := fuseParseCmdline_success h hres hp
  exact hheap ▸ c.mountpoint_holds

theorem fuse_parse_cmdline_success_mountpoint_example :
    ∃ r, fuseParseCmdline plainCmdlineEnv ["prog".toList, "/mnt".toList] StrHeap.empty
        ⟨some 7, some (.other 9), some 3⟩ = some r ∧ r.res = 0 ∧ r.out.mountpoint = some 1 ∧
      r.heap.Holds 1 :=
  ⟨_, rfl, rfl, rfl, @fuse_parse_cmdline_success_mountpoint plainCmdlineEnv
    ["prog".toList, "/mnt".toList] StrHeap.empty ⟨some 7, some (.other 9), some 3⟩ _ rfl rfl 1 rfl⟩

/-- When `fuse_parse_cmdline` returns `0` with a non-`NULL` mount point, its string is what
`realpath` made of an argument after the program's name, or on the Apple build that argument
itself. -/
theorem fuse_parse_cmdline_mountpoint_from_args (h : fuseParseCmdline env args heap out = some r)
    (hres : r.res = 0) {p : Nat} (hp : r.out.mountpoint = some p) (hp0 : p ≠ 0) :
    ∃ a ∈ args.tail, r.heap.strs p = resolvedMountpoint env a := by
  obtain ⟨c, hheap, rfl, hc, -⟩ := fuseParseCmdline_success h hres hp
  have hstr : c.mountpointStr = c.heap.strs c.hopts.mountpoint := if_neg hp0
  rw [hheap, ← hstr]
  rcases hc with hnone | hfrom
  · have hlive := (c.mountpoint_holds.resolve_left hp0).2
    rw [← hstr, hnone] at hlive
    simp at hlive
  · exact hfrom

theorem fuse_parse_cmdline_mountpoint_from_args_example :
    ∃ r, fuseParseCmdline plainCmdlineEnv ["prog".toList, "/mnt".toList] StrHeap.empty
        ⟨some 7, some (.other 9), some 3⟩ = some r ∧ r.res = 0 ∧ r.out.mountpoint = some 1 ∧
      (1 : Nat) ≠ 0 ∧ ∃ a ∈ ["/mnt".toList], r.heap.strs 1 = resolvedMountpoint plainCmdlineEnv a :=
  ⟨_, rfl, rfl, rfl, Nat.one_ne_zero, @fuse_parse_cmdline_mountpoint_from_args plainCmdlineEnv
    ["prog".toList, "/mnt".toList] StrHeap.empty ⟨some 7, some (.other 9), some 3⟩ _ rfl rfl 1 rfl
    Nat.one_ne_zero⟩

/-- `fuse_parse_cmdline` returns `0` only when at most one argument after the program's name is
a non-option, as the loop of `opt_parse` sorts them; the mount point it hands back is then `NULL`
when there is none, and otherwise the string kept for that one argument. -/
theorem fuse_parse_cmdline_mountpoint_nonopt (h : fuseParseCmdline env args heap out = some r)
    (hres : r.res = 0) :
    match nonoptArgs false args.tail with
    | [] => ∀ p, r.out.mountpoint = some p → p = 0
    | [a] => ∀ p, r.out.mountpoint = some p → p ≠ 0 ∧ r.heap.strs p = resolvedMountpoint env a
    | _ :: _ :: _ => False := by
  obtain ⟨hok, hout⟩ := fuseParseCmdline_ok h hres
  have hm : MountpointFrom env none (fuseOptParse env args (OptCtx.init heap)).1.mountpointStr
      (nonoptArgs false args.tail) := fuseOptParse_mountpointFrom hok
  generalize nonoptArgs false args.tail = ns at hm ⊢
  rcases ns with _ | ⟨a, _ | ⟨b, ns⟩⟩
  · intro p hp
    obtain ⟨rfl, -⟩ := hout p hp
    exact OptCtx.mountpointStr_eq_none.mp hm
  · obtain ⟨-, s, hs, hm⟩ := hm
    intro p hp
    obtain ⟨rfl, hheap⟩ := hout p hp
    obtain ⟨h0, hstr⟩ := OptCtx.mountpointStr_eq_some hm
    exact ⟨h0, by rw [hheap, hstr, hs]⟩
  · exact hm.elim

theorem fuse_parse_cmdline_mountpoint_nonopt_example :
    ∃ r, fuseParseCmdline plainCmdlineEnv ["prog".toList, "/mnt".toList] StrHeap.empty
        ⟨some 7, some (.other 9), some 3⟩ = some r ∧ r.res = 0 ∧
      ∀ p, r.out.mountpoint = some p →
        p ≠ 0 ∧ r.heap.strs p = resolvedMountpoint plainCmdlineEnv "/mnt".toList :=
  ⟨_, rfl, rfl, @fuse_parse_cmdline_mountpoint_nonopt plainCmdlineEnv
    ["prog".toList, "/mnt".toList] StrHeap.empty ⟨some 7, some (.other 9), some 3⟩ _ rfl rfl⟩

/-- The context `fuse_parse_cmdline` starts its outputs from has freed nothing more than the
caller's heap. -/
theorem fuseParseCmdline_ctx_badFrees {c : OptCtx}
    (hheap : c.heap = (fuseOptParse env args (OptCtx.init heap)).1.heap) :
    c.heap.badFrees = heap.badFrees := by
  rw [hheap]; exact fuseOptParse_badFrees env args _

/-- With a `mountpoint` pointer to write to, `fuse_parse_cmdline` frees only `NULL` or live
strings. -/
theorem fuseParseCmdline_badFrees (h : fuseParseCmdline env args heap out = some r)
    (hm : out.mountpoint.isSome) : r.heap.badFrees = heap.badFrees := by
  rcases fuseParseCmdline_cases h with ⟨-, -, -, hheap, -⟩ | ⟨c, -, hheap, -, ⟨rfl, -⟩ | ⟨ho, -⟩⟩
  · rw [hheap]; exact fuseOptParse_badFrees env args _
  · exact (parseCmdlineErr_badFrees c.mountpoint_holds c.loop_holds _).trans
      (fuseParseCmdline_ctx_badFrees hheap)
  rcases parseCmdlineOutputs_cases ho with rfl | ⟨-, hheap', -⟩
  · rw [writeMountpoint_fst hm]
    exact (parseCmdlineErr_badFrees c.mountpoint_holds c.loop_holds _).trans
      (fuseParseCmdline_ctx_badFrees hheap)
  · rw [hheap', writeMountpoint_fst hm, fuseParseCmdline_ctx_badFrees hheap]

/-- The parse owns, from the caller's next address on, only its mount point and `loop` value. -/
theorem fuseOptParse_owns (env : CmdlineEnv) (args : List (List Char)) (heap : StrHeap) :
    (fuseOptParse env args (OptCtx.init heap)).1.Owns heap.next :=
  OptCtx.StrSteps.owns (fuseOptParse_strSteps env args _) heap.next_pos (OptCtx.owns_next _)

/-- The parse leaves the caller's strings alone. -/
theorem fuseOptParse_above (env : CmdlineEnv) (args : List (List Char)) (heap : StrHeap) :
    (fuseOptParse env args (OptCtx.init heap)).1.Above heap :=
  OptCtx.StrSteps.above (fuseOptParse_strSteps env args _) (OptCtx.init_above heap)

/-- `fuse_parse_cmdline` leaves every string below the caller's next address as it was: it frees
only strings its parse allocated. -/
theorem fuseParseCmdline_frame (h : fuseParseCmdline env args heap out = some r) {q : Nat}
    (hq : q < heap.next) : r.heap.strs q = heap.strs q := by
  have ha := fuseOptParse_above env args heap
  rcases fuseParseCmdline_cases h with ⟨-, -, -, hheap, -⟩ | ⟨c, -, hheap, hopts, hr⟩
  · rw [hheap]; exact ha.strs_eq q hq
  have hc : c.heap.strs q = heap.strs q := hheap ▸ ha.strs_eq q hq
  have hm (h' : StrHeap) : (h'.free c.hopts.mountpoint).strs q = h'.strs q :=
    StrHeap.free_strs_below (hopts ▸ ha.mountpoint) hq
  have hl (h' : StrHeap) : (h'.free c.hopts.loop).strs q = h'.strs q :=
    StrHeap.free_strs_below (hopts ▸ ha.loop) hq
  have hw : (writeMountpoint c out).1.strs q = c.heap.strs q := by
    unfold writeMountpoint; split_ifs
    exacts [rfl, hm _]
  rcases hr with ⟨rfl, -⟩ | ⟨ho, -⟩
  · simp only [parseCmdlineErr, hm, hl, hc]
  rcases parseCmdlineOutputs_cases ho with rfl | ⟨-, hheap', -⟩
  · simp only [parseCmdlineErr, hm, hl, hw, hc]
  · rw [hheap', hw, hc]

/-- The strings `fuse_parse_cmdline` leaves live, from the caller's next address on. -/
theorem fuseParseCmdline_live (h : fuseParseCmdline env args heap out = some r)
    {p : Nat} (hp : heap.next ≤ p) (hlt : p < r.heap.next) :
    (r.heap.strs p).isSome ↔
      (p = (fuseOptParse env args (OptCtx.init heap)).1.hopts.loop ∨
        p = (fuseOptParse env args (OptCtx.init heap)).1.hopts.mountpoint ∧
          (out.mountpoint.isSome ∨ (fuseOptParse env args (OptCtx.init heap)).2 = -1)) ∧
      (r.res = 0 ∨ (fuseOptParse env args (OptCtx.init heap)).2 = -1) := by
  have ho := fuseOptParse_owns env args heap
  have hb := heap.next_pos
  rcases fuseParseCmdline_cases h with ⟨hfail, -, -, hheap, -⟩ | ⟨c, hok, hheap, hopts, hr⟩
  · rw [hheap] at hlt ⊢
    rw [ho.live_iff hb hp hlt]
    simp only [hfail, or_true, and_true]
    exact or_comm
  have hoc : c.Owns heap.next := fun q hq hq' hs => by
    rw [hheap, hopts] at *; exact ho q hq hq' hs
  rw [← hopts]
  rcases hr with ⟨rfl, -⟩ | ⟨ho', -⟩
  · simp only [parseCmdlineErr, StrHeap.free_next] at hlt
    simp [parseCmdlineErr, hoc.free_both hb hp hlt (.inl rfl), hok]
  rcases parseCmdlineOutputs_cases ho' with rfl | ⟨hres, hheap', -⟩ <;>
    rcases out with ⟨_ | q, mt, fg⟩
  · simp only [parseCmdlineErr, writeMountpoint, Option.isSome_none, Bool.false_eq_true,
      if_false, StrHeap.free_next] at hlt
    simp [parseCmdlineErr, writeMountpoint, hoc.free_both hb hp hlt (.inr rfl), hok]
  · simp only [parseCmdlineErr, writeMountpoint, Option.isSome_some, if_true,
      StrHeap.free_next] at hlt
    simp [parseCmdlineErr, writeMountpoint, hoc.free_both hb hp hlt (.inl rfl), hok]
  · -- without a pointer the mount point is freed, and only the `loop` value is left
    have hd := c.distinct
    simp only [hheap', writeMountpoint, Option.isSome_none, Bool.false_eq_true, if_false,
      StrHeap.free_next] at hlt ⊢
    rw [StrHeap.free_strs_isSome, hoc.live_iff hb hp hlt]
    simp only [hres, hok, false_or, or_false, true_or, and_true, and_false]
    omega
  · simp only [hheap', writeMountpoint, Option.isSome_some, if_true] at hlt ⊢
    rw [hoc.live_iff hb hp hlt]
    simp only [hres, true_or, and_true]
    exact or_comm

/-- A mount point, then the dispatch loop. -/
def dispatchLoopArgs : List (List Char) :=
  ["prog".toList, "/mnt".toList, "-o".toList, "loop=dispatch".toList]

/-- The loop variant `fuse_parse_cmdline` picks is one of the three it knows. -/
theorem loopSetting_known {heap : StrHeap} {o : HelperOpts} {m : LoopSetting}
    (h : loopSetting heap o = some (some m)) :
    m = .singleThreaded ∨ m = .multiThreaded ∨ m = .dispatch := by
  unfold loopSetting at h
  by_cases hs : o.singlethread ≠ 0
  · rw [if_pos hs] at h; cases h; exact .inl rfl
  by_cases hl : o.loop = 0
  · rw [if_neg hs, if_pos hl] at h; cases h; exact .inr (.inl rfl)
  rw [if_neg hs, if_neg hl] at h
  obtain ⟨s, -, hname⟩ := Option.map_eq_some'.mp h
  revert hname
  split_ifs <;> intro hname <;> cases hname <;> simp

/-- `fuse_parse_cmdline` returns `-1` or `0`. -/
theorem fuseParseCmdline_res (h : fuseParseCmdline env args heap out = some r) :
    r.res = -1 ∨ r.res = 0 := by
  rcases fuseParseCmdline_cases h with ⟨-, h1, -⟩ | ⟨c, -, -, -, ⟨rfl, -⟩ | ⟨ho, -⟩⟩
  · exact .inl h1
  · exact .inl rfl
  rcases parseCmdlineOutputs_cases ho with rfl | ⟨h0, -⟩
  · exact .inl rfl
  · exact .inr h0

/-- When `fuse_parse_cmdline` returns `0`, the loop variant it wrote is one of the three. -/
theorem fuseParseCmdline_loop (h : fuseParseCmdline env args heap out = some r)
    (hres : r.res = 0) (hmt : out.multithreaded.isSome) :
    ∃ m, r.out.multithreaded = some m ∧
      (m = .singleThreaded ∨ m = .multiThreaded ∨ m = .dispatch) := by
  rcases fuseParseCmdline_cases h with ⟨-, h1, -⟩ | ⟨c, -, -, -, ⟨rfl, -⟩ | ⟨ho, -⟩⟩
  · omega
  · simp at hres
  obtain ⟨t, ht⟩ := Option.isSome_iff_exists.mp hmt
  unfold parseCmdlineOutputs at ho
  rw [ht] at ho
  obtain ⟨ls, hls, rfl⟩ := Option.map_eq_some'.mp ho
  cases ls with
  | none => simp at hres
  | some m => exact ⟨m, rfl, loopSetting_known hls⟩

/-- Without a pointer, the mount point's string is freed before the loop variant is checked,
and the error path frees it a second time. -/
example : (fuseParseCmdline plainCmdlineEnv invalidLoopArgs StrHeap.empty
    ⟨none, some (.other 9), some 3⟩).map (fun r => r.heap.badFrees) = some [1] := by
  decide

end Results

end MacFuse
