import Mathlib.Data.List.Basic

/-!
# Descriptors, daemonizing and worker threads

Around the session, `helper.c` and `fuse_mt.c` manage the process itself. Before it mounts,
`fuse_mount_common` opens `/dev/null` until descriptors 0, 1 and 2 are all open.
`fuse_daemonize` makes a pipe and forks. The parent waits on the pipe for one byte and exits.
The child starts a session, points 0, 1 and 2 at `/dev/null`, and writes the byte.
`__fuse_loop_mt` starts its worker threads with every signal blocked, and each of them runs
`do_work`, reading commands and handing them to the processor until the first `NULL`.

A process's descriptors are a table of slots. `open`, `pipe` and `dup2` follow POSIX:
`open` and `pipe` hand out the lowest closed descriptor. Each call that may fail takes its
result as a parameter.
-/

namespace MacFuse

/-- What an open descriptor refers to. -/
inductive FdFile where
  /-- `/dev/null`. -/
  | devNull
  /-- The read end of `fuse_daemonize`'s `waiter` pipe. -/
  | pipeRead
  /-- Its write end. -/
  | pipeWrite
  /-- A file the process had open before, told apart by a tag. -/
  | inherited (tag : Nat)
  deriving DecidableEq, Repr

/-- A process's descriptor table: slot `n` is what descriptor `n` refers to, `none` when it is
closed. The descriptors past the last slot are closed. -/
structure FdTable where
  slots : List (Option FdFile)
  deriving DecidableEq, Repr

/-- Write one slot, padding with closed slots up to it. -/
def setSlot : List (Option FdFile) → Nat → Option FdFile → List (Option FdFile)
  | [], 0, f => [f]
  | [], n + 1, f => none :: setSlot [] n f
  | _ :: l, 0, f => f :: l
  | x :: l, n + 1, f => x :: setSlot l n f

@[simp] theorem getElem?_setSlot_join (l : List (Option FdFile)) (n m : Nat)
    (f : Option FdFile) : (setSlot l n f)[m]?.join = if m = n then f else l[m]?.join := by
  induction l, n, f using setSlot.induct generalizing m with
  | case1 f => cases m <;> simp [setSlot]
  | case2 n f ih =>
    cases m
    · simp [setSlot]
    · simp only [setSlot, List.getElem?_cons_succ, ih, Nat.succ_eq_add_one,
        Nat.add_right_cancel_iff, List.getElem?_nil]
  | case3 x l f => cases m <;> simp [setSlot]
  | case4 x l n f ih =>
    cases m
    · simp [setSlot]
    · simp only [setSlot, List.getElem?_cons_succ, ih, Nat.succ_eq_add_one,
        Nat.add_right_cancel_iff]

namespace FdTable

/-- What descriptor `n` refers to. -/
def file (t : FdTable) (n : Nat) : Option FdFile := t.slots[n]?.join

/-- Descriptor `n` now refers to `f`. -/
def set (t : FdTable) (n : Nat) (f : Option FdFile) : FdTable := ⟨setSlot t.slots n f⟩

/-- The lowest closed descriptor. -/
def lowestFree (t : FdTable) : Nat := t.slots.findIdx Option.isNone

/-- A successful `open` of `f`: it takes the lowest closed descriptor. -/
def openFile (t : FdTable) (f : FdFile) : FdTable := t.set t.lowestFree (some f)

/-- `close(fd)`. -/
def close (t : FdTable) (fd : Nat) : FdTable := t.set fd none

/-- `dup2(fd, fd2)`: `fd2`, closed first if it was open, refers to what `fd` does. Nothing
changes when the two are equal, or when `fd` is closed (`EBADF`). -/
def dup2 (t : FdTable) (fd fd2 : Nat) : FdTable :=
  if fd = fd2 then t
  else match t.file fd with
    | some f => t.set fd2 (some f)
    | none => t

/-- Whether some descriptor refers to `f`. -/
def holds (t : FdTable) (f : FdFile) : Bool := t.slots.contains (some f)

/-- `open("/dev/null", O_RDWR)`: the table and the descriptor, `-1` when the call fails. -/
def openDevNull (t : FdTable) (ok : Bool) : FdTable × Int :=
  if ok then (t.openFile .devNull, t.lowestFree) else (t, -1)

/-- A successful `pipe(waiter)`: the table, `waiter[0]` (the read end) and `waiter[1]`. -/
def pipe (t : FdTable) : FdTable × Nat × Nat :=
  ((t.openFile .pipeRead).openFile .pipeWrite, t.lowestFree, (t.openFile .pipeRead).lowestFree)

/-- Descriptors 0, 1 and 2 are all open. -/
def StdOpen (t : FdTable) : Prop := ∀ n < 3, t.file n ≠ none

instance (t : FdTable) : Decidable t.StdOpen := inferInstanceAs (Decidable (∀ n < 3, _))

/-- `t'` is `t` but for closed descriptors among 0, 1 and 2 that now refer to `/dev/null`. -/
def FillsStd (t t' : FdTable) : Prop :=
  ∀ n, t'.file n = t.file n ∨ n < 3 ∧ t.file n = none ∧ t'.file n = some .devNull

section Lemmas

variable {t : FdTable} {n m : Nat}

@[simp] theorem file_set (t : FdTable) (n : Nat) (f : Option FdFile) (m : Nat) :
    (t.set n f).file m = if m = n then f else t.file m :=
  getElem?_setSlot_join t.slots n m f

theorem file_lowestFree (t : FdTable) : t.file t.lowestFree = none := by
  unfold file lowestFree
  by_cases h : t.slots.findIdx Option.isNone < t.slots.length
  · rw [List.getElem?_eq_getElem h]
    simpa using List.findIdx_getElem (w := h)
  · rw [List.getElem?_eq_none (by omega)]
    rfl

/-- Every descriptor below the lowest closed one is open. -/
theorem lowestFree_le (hm : t.file m = none) : t.lowestFree ≤ m := by
  by_contra hlt
  have hlt : m < t.lowestFree := by omega
  have hlen : m < t.slots.length := lt_of_lt_of_le hlt (List.findIdx_le_length _)
  have hsome := List.not_of_lt_findIdx hlt
  simp [file, List.getElem?_eq_getElem hlen] at hm
  simp [hm] at hsome

theorem file_ne_none_of_lt (hm : m < t.lowestFree) : t.file m ≠ none :=
  fun h => absurd (lowestFree_le h) (by omega)

@[simp] theorem file_openFile (t : FdTable) (f : FdFile) (m : Nat) :
    (t.openFile f).file m = if m = t.lowestFree then some f else t.file m :=
  file_set _ _ _ _

theorem lowestFree_lt_openFile (t : FdTable) (f : FdFile) :
    t.lowestFree < (t.openFile f).lowestFree := by
  by_contra hle
  have hfree := file_lowestFree (t.openFile f)
  rw [file_openFile] at hfree
  by_cases heq : (t.openFile f).lowestFree = t.lowestFree
  · rw [if_pos heq] at hfree
    cases hfree
  · rw [if_neg heq] at hfree
    exact hle (lt_of_le_of_ne (lowestFree_le hfree) (Ne.symm heq))

@[simp] theorem file_close (t : FdTable) (fd m : Nat) :
    (t.close fd).file m = if m = fd then none else t.file m :=
  file_set _ _ _ _

theorem file_dup2_of {fd : Nat} {f : FdFile} (fd2 : Nat) (hfd : t.file fd = some f)
    (m : Nat) :
    (t.dup2 fd fd2).file m = if m = fd2 then some f else t.file m := by
  unfold dup2
  by_cases h : fd = fd2
  · subst h
    rw [if_pos rfl]
    split_ifs with hm
    · rw [hm, hfd]
    · rfl
  · simp only [if_neg h, hfd, file_set]

theorem holds_of_file {f : FdFile} (h : t.file n = some f) : t.holds f = true := by
  simp only [file] at h
  simpa [holds] using List.getElem?_mem (Option.join_eq_some.mp h)

theorem FillsStd.refl (t : FdTable) : t.FillsStd t := fun _ => .inl rfl

theorem FillsStd.trans {t₁ t₂ t₃ : FdTable} (h₁ : t₁.FillsStd t₂)
    (h₂ : t₂.FillsStd t₃) : t₁.FillsStd t₃ := fun n => by
  rcases h₂ n with h | ⟨hn, h0, hd⟩
  · rcases h₁ n with h' | ⟨hn, h0, hd⟩
    · exact .inl (h.trans h')
    · exact .inr ⟨hn, h0, h.trans hd⟩
  · rcases h₁ n with h' | ⟨-, -, h'⟩
    · exact .inr ⟨hn, h'.symm.trans h0, hd⟩
    · cases h'.symm.trans h0

end Lemmas

end FdTable

/-! ## The `/dev/null` loop of `fuse_mount_common` -/

/-- The loop at the top of `fuse_mount_common`, which makes sure descriptors 0, 1 and 2 are
open: `do { fd = open("/dev/null", O_RDWR); if (fd > 2) close(fd); }` while `fd` is in
`0..2`. `oks` are the results of the successive `open` calls; `none` when they run out. -/
def fuseMountCommonOpenStd (t : FdTable) : List Bool → Option (FdTable × Int)
  | [] => none
  | ok :: oks =>
    let fd := (t.openDevNull ok).2
    let t' := if fd > 2 then (t.openDevNull ok).1.close fd.toNat else (t.openDevNull ok).1
    if 0 ≤ fd ∧ fd ≤ 2 then fuseMountCommonOpenStd t' oks else some (t', fd)

theorem fuseMountCommonOpenStd_false (t : FdTable) (oks : List Bool) :
    fuseMountCommonOpenStd t (false :: oks) = some (t, -1) := by
  simp [fuseMountCommonOpenStd, FdTable.openDevNull]

/-- A successful `open` returns the lowest closed descriptor: the loop goes on when that is one
of 0, 1 and 2, and closes it and stops otherwise. -/
theorem fuseMountCommonOpenStd_true (t : FdTable) (oks : List Bool) :
    fuseMountCommonOpenStd t (true :: oks) =
      if t.lowestFree ≤ 2 then fuseMountCommonOpenStd (t.openFile .devNull) oks
      else some ((t.openFile .devNull).close t.lowestFree, t.lowestFree) := by
  by_cases hl : t.lowestFree ≤ 2
  · have h₁ : ¬(t.lowestFree : Int) > 2 := by omega
    have h₂ : 0 ≤ (t.lowestFree : Int) ∧ (t.lowestFree : Int) ≤ 2 := by omega
    simp only [fuseMountCommonOpenStd, FdTable.openDevNull, if_true, h₁, h₂, hl, if_false,
      and_self]
  · have h₁ : (t.lowestFree : Int) > 2 := by omega
    have h₂ : ¬(0 ≤ (t.lowestFree : Int) ∧ (t.lowestFree : Int) ≤ 2) := by omega
    simp only [fuseMountCommonOpenStd, FdTable.openDevNull, if_true, h₁, h₂, hl, if_false,
      Int.toNat_ofNat]

/-- One more `open` than there are closed descriptors below 3 is enough for the loop to stop:
each `open` that keeps it going fills the lowest closed one. -/
theorem fuseMountCommonOpenStd_isSome (t : FdTable) (oks : List Bool)
    (hlen : 3 - t.lowestFree < oks.length) : (fuseMountCommonOpenStd t oks).isSome := by
  induction oks generalizing t with
  | nil => simp at hlen
  | cons ok oks ih =>
    cases ok
    · simp [fuseMountCommonOpenStd_false]
    · rw [fuseMountCommonOpenStd_true]
      split_ifs with hl
      · have hgt := t.lowestFree_lt_openFile .devNull
        exact ih _ (by simp only [List.length_cons] at hlen; omega)
      · rfl

/-- What the loop leaves: closed descriptors among 0, 1 and 2 opened on `/dev/null`, nothing
else changed, and, unless an `open` failed, 0, 1 and 2 all open. -/
theorem fuseMountCommonOpenStd_of_eq_some {t t' : FdTable} {oks : List Bool} {fd : Int}
    (h : fuseMountCommonOpenStd t oks = some (t', fd)) :
    t.FillsStd t' ∧ (fd < 0 ∨ 2 < fd ∧ t'.StdOpen) := by
  induction oks generalizing t with
  | nil => cases h
  | cons ok oks ih =>
    cases ok
    · rw [fuseMountCommonOpenStd_false] at h
      cases h
      exact ⟨.refl _, .inl (by decide)⟩
    · rw [fuseMountCommonOpenStd_true] at h
      split_ifs at h with hl
      · refine (ih h).imp_left (FdTable.FillsStd.trans fun n => ?_)
        by_cases hn : n = t.lowestFree
        · exact .inr ⟨by omega, hn ▸ t.file_lowestFree, by simp [hn]⟩
        · exact .inl (by simp [hn])
      · cases h
        have hsame : ∀ n, ((t.openFile .devNull).close t.lowestFree).file n = t.file n := by
          intro n
          by_cases hn : n = t.lowestFree <;> simp [hn, t.file_lowestFree]
        exact ⟨fun n => .inl (hsame n), .inr ⟨by omega,
          fun n hn => hsame n ▸ FdTable.file_ne_none_of_lt (by omega)⟩⟩

/-- Four answers are enough: the loop stops after at most four opens. It changes nothing but
closed descriptors among 0, 1 and 2, which it opens on `/dev/null`, and unless an `open` failed
it stops only once 0, 1 and 2 are all open. -/
theorem fuse_mount_common_opens_std (t : FdTable) (oks : List Bool) (hlen : 4 ≤ oks.length) :
    ∃ t' fd, fuseMountCommonOpenStd t oks = some (t', fd) ∧ t.FillsStd t' ∧
      (fd < 0 ∨ 2 < fd ∧ t'.StdOpen) := by
  obtain ⟨⟨t', fd⟩, h⟩ := Option.isSome_iff_exists.mp
    (fuseMountCommonOpenStd_isSome t oks (by omega))
  exact ⟨t', fd, h, fuseMountCommonOpenStd_of_eq_some h⟩

theorem fuse_mount_common_opens_std_example :
    4 ≤ [true, true, true, true].length ∧
    ∃ t' fd, fuseMountCommonOpenStd ⟨[some (.inherited 0), none, some (.inherited 2)]⟩
      [true, true, true, true] = some (t', fd) ∧
      FdTable.FillsStd ⟨[some (.inherited 0), none, some (.inherited 2)]⟩ t' ∧
      (fd < 0 ∨ 2 < fd ∧ t'.StdOpen) :=
  ⟨by decide, fuse_mount_common_opens_std _ _ (by decide)⟩

/-! ## `fuse_daemonize` -/

/-- The results of the calls of `fuse_daemonize` that may fail. -/
structure DaemonEnv where
  pipeOk : Bool
  forkOk : Bool
  setsidOk : Bool
  /-- The child's `open("/dev/null", O_RDWR, 0)`. -/
  openOk : Bool
  deriving DecidableEq, Repr

/-- How the parent of the `fork` ends. -/
inductive ParentFate where
  /-- Its `read` returned and it called `_exit(0)`. -/
  | exited
  /-- It waits in `read` for good. -/
  | blocked
  deriving DecidableEq, Repr

/-- The end of `fuse_daemonize` in the process that goes on with the caller's work: the caller
itself, or the forked child. -/
structure Daemonized where
  ret : Int
  fds : FdTable
  /-- The text handed to `perror`. -/
  report : Option String
  /-- The parent of the `fork`, when there was one. -/
  parent : Option ParentFate
  deriving DecidableEq, Repr

/-- The parent's `read(waiter[0], &completed, sizeof(completed))`, with the parent's table
`fds`: it returns once the child's byte is in the pipe, or at end of file, once no descriptor
refers to the write end. The parent's own `waiter[1]` is one of those. -/
def waiterRead (byte : Bool) (fds : FdTable) : ParentFate :=
  if byte || !fds.holds .pipeWrite then .exited else .blocked

/-- The child's redirection: `nullfd = open("/dev/null", O_RDWR, 0)` and, when that worked,
`dup2(nullfd, 0)`, `dup2(nullfd, 1)`, `dup2(nullfd, 2)` and, for `nullfd > 2`, `close(nullfd)`. -/
def FdTable.nullStd (t : FdTable) (ok : Bool) : FdTable :=
  let nullfd := (t.openDevNull ok).2
  let t₁ := (t.openDevNull ok).1
  if nullfd ≠ -1 then
    let t₂ := ((t₁.dup2 nullfd.toNat 0).dup2 nullfd.toNat 1).dup2 nullfd.toNat 2
    if nullfd > 2 then t₂.close nullfd.toNat else t₂
  else t₁

/-- `fuse_daemonize(foreground)`. In the background it makes the `waiter` pipe and forks. The
parent reads one byte from the pipe and calls `_exit(0)`. The child calls `setsid`, redirects 0,
1 and 2 to `/dev/null`, writes the byte to `waiter[1]`, closes both ends and returns 0. The
child's `chdir("/")` is not modelled: its result is ignored. -/
def fuseDaemonize (t : FdTable) (env : DaemonEnv) (foreground : Bool) : Daemonized :=
  if foreground then ⟨0, t, none, none⟩
  else if !env.pipeOk then ⟨-1, t, some "fuse_daemonize: pipe", none⟩
  else
    let (t₁, waiter0, waiter1) := t.pipe
    if !env.forkOk then ⟨-1, t₁, some "fuse_daemonize: fork", none⟩
    else if !env.setsidOk then
      ⟨-1, t₁, some "fuse_daemonize: setsid", some (waiterRead false t₁)⟩
    else
      let t₂ := t₁.nullStd env.openOk
      ⟨0, (t₂.close waiter0).close waiter1, none,
        some (waiterRead (t₂.file waiter1 = some .pipeWrite) t₁)⟩

/-- `fuse_daemonize` in the background when `pipe`, `fork` and `setsid` succeed: the child's
end. -/
theorem fuseDaemonize_child (t : FdTable) (openOk : Bool) :
    fuseDaemonize t ⟨true, true, true, openOk⟩ false =
      ⟨0, ((t.pipe.1.nullStd openOk).close t.pipe.2.1).close t.pipe.2.2, none,
        some (waiterRead ((t.pipe.1.nullStd openOk).file t.pipe.2.2 = some .pipeWrite)
          t.pipe.1)⟩ := rfl

namespace FdTable

variable {t : FdTable}

theorem file_dup2_self {fd : Nat} {f : FdFile} (fd2 : Nat) (hfd : t.file fd = some f) :
    (t.dup2 fd fd2).file fd = some f := by
  rw [file_dup2_of fd2 hfd]
  split_ifs <;> simp [hfd]

/-- After the redirection, 0, 1 and 2 refer to `/dev/null` when the `open` worked; every other
descriptor is as it was, `nullfd` closed again. -/
theorem file_nullStd (t : FdTable) (ok : Bool) (m : Nat) :
    (t.nullStd ok).file m = if m < 3 ∧ ok then some .devNull else t.file m := by
  cases ok
  · simp [nullStd, openDevNull]
  · have hnull : (t.openFile .devNull).file t.lowestFree = some .devNull := by simp
    have h₁ := file_dup2_self 0 hnull
    have hdup : ∀ m, ((((t.openFile .devNull).dup2 t.lowestFree 0).dup2 t.lowestFree 1).dup2
        t.lowestFree 2).file m =
        if m < 3 ∨ m = t.lowestFree then some .devNull else t.file m := by
      intro m
      rw [file_dup2_of 2 (file_dup2_self 1 h₁), file_dup2_of 1 h₁, file_dup2_of 0 hnull,
        file_openFile]
      simp only [← ite_or]
      exact if_congr (by omega) rfl rfl
    simp only [nullStd, openDevNull, if_true, Int.toNat_ofNat, and_true]
    rw [if_pos (by omega)]
    by_cases hl : 2 < t.lowestFree
    · rw [if_pos (show (t.lowestFree : Int) > 2 by omega), file_close, hdup]
      by_cases hm : m = t.lowestFree
      · simp [hm, t.file_lowestFree, show ¬t.lowestFree < 3 by omega]
      · simp [hm]
    · rw [if_neg (show ¬(t.lowestFree : Int) > 2 by omega), hdup]
      by_cases hm : m < 3
      · simp [hm]
      · simp [hm, show m ≠ t.lowestFree by omega]

/-- `pipe` takes the two lowest closed descriptors, the read end first. -/
theorem pipe_spec (t : FdTable) :
    t.pipe.2.1 = t.lowestFree ∧ t.pipe.2.1 < t.pipe.2.2 ∧ t.file t.pipe.2.2 = none ∧
    (∀ m < t.pipe.2.2, m ≠ t.pipe.2.1 → t.file m ≠ none) ∧
    ∀ m, t.pipe.1.file m = if m = t.pipe.2.2 then some .pipeWrite
      else if m = t.pipe.2.1 then some .pipeRead else t.file m := by
  have hlt := t.lowestFree_lt_openFile .pipeRead
  have hfree := (t.openFile .pipeRead).file_lowestFree
  rw [file_openFile, if_neg (by omega)] at hfree
  refine ⟨rfl, hlt, hfree, fun m hm hne => ?_, fun m => by simp [pipe]⟩
  have h := file_ne_none_of_lt hm
  rwa [file_openFile, if_neg (show m ≠ t.lowestFree from hne)] at h

theorem pipe_holds (t : FdTable) :
    t.pipe.1.holds .pipeRead = true ∧ t.pipe.1.holds .pipeWrite = true := by
  obtain ⟨-, hlt, -, -, hf⟩ := t.pipe_spec
  exact ⟨holds_of_file (n := t.pipe.2.1) (by simp [hf, show t.pipe.2.1 ≠ t.pipe.2.2 by omega]),
    holds_of_file (n := t.pipe.2.2) (by simp [hf])⟩

end FdTable

/-- With 0, 1 and 2 open on entry, as `fuse_mount_common` leaves them, a background
`fuse_daemonize` whose calls succeed detaches cleanly: the parent gets its byte and exits, and
the daemon's descriptors are those it had but for 0, 1 and 2 on `/dev/null`; both ends of the
pipe are closed. -/
theorem fuse_daemonize_detaches {t : FdTable} (ht : t.StdOpen) (openOk : Bool) :
    (fuseDaemonize t ⟨true, true, true, openOk⟩ false).ret = 0 ∧
    (fuseDaemonize t ⟨true, true, true, openOk⟩ false).parent = some .exited ∧
    ∀ m, (fuseDaemonize t ⟨true, true, true, openOk⟩ false).fds.file m =
      if m < 3 ∧ openOk then some .devNull else t.file m := by
  obtain ⟨hw₀, hlt, hfree₁, -, hf⟩ := t.pipe_spec
  have hfree₀ : t.file t.pipe.2.1 = none := hw₀ ▸ t.file_lowestFree
  have h₀ : 3 ≤ t.pipe.2.1 := by
    by_contra h
    exact ht _ (by omega) hfree₀
  rw [fuseDaemonize_child]
  refine ⟨rfl, ?_, fun m => ?_⟩
  · simp [waiterRead, FdTable.file_nullStd, show ¬t.pipe.2.2 < 3 by omega, hf]
  · simp only [FdTable.file_close, FdTable.file_nullStd, hf]
    by_cases hm₁ : m = t.pipe.2.2
    · simp [hm₁, show ¬t.pipe.2.2 < 3 by omega, hfree₁]
    by_cases hm₀ : m = t.pipe.2.1
    · simp [hm₀, show ¬t.pipe.2.1 < 3 by omega, hfree₀,
        show t.pipe.2.1 ≠ t.pipe.2.2 by omega]
    simp [hm₀, hm₁]

theorem fuse_daemonize_detaches_example :
    FdTable.StdOpen ⟨[some (.inherited 0), some (.inherited 1), some (.inherited 2)]⟩ ∧
    (fuseDaemonize ⟨[some (.inherited 0), some (.inherited 1), some (.inherited 2)]⟩
      ⟨true, true, true, true⟩ false).ret = 0 ∧
    (fuseDaemonize ⟨[some (.inherited 0), some (.inherited 1), some (.inherited 2)]⟩
      ⟨true, true, true, true⟩ false).parent = some .exited ∧
    ∀ m, (fuseDaemonize ⟨[some (.inherited 0), some (.inherited 1), some (.inherited 2)]⟩
      ⟨true, true, true, true⟩ false).fds.file m =
      if m < 3 ∧ true then some .devNull
      else FdTable.file ⟨[some (.inherited 0), some (.inherited 1), some (.inherited 2)]⟩ m :=
  ⟨by decide, fuse_daemonize_detaches (by decide) true⟩

/-- With two of 0, 1 and 2 closed on entry, `pipe` hands them out, and the child's `dup2` calls
turn `waiter[1]` into `/dev/null` before it writes the byte. The child returns 0 with two of
its standard descriptors closed, and the parent, which keeps its own `waiter[1]` open, waits
in `read` for good. -/
theorem fuse_daemonize_closed_std_blocks {t : FdTable} {a b : Nat} (hab : a < b) (hb : b < 3)
    (ha : t.file a = none) (hb' : t.file b = none) :
    (fuseDaemonize t ⟨true, true, true, true⟩ false).ret = 0 ∧
    (fuseDaemonize t ⟨true, true, true, true⟩ false).parent = some .blocked ∧
    ∃ m n, m < n ∧ n < 3 ∧
      (fuseDaemonize t ⟨true, true, true, true⟩ false).fds.file m = none ∧
      (fuseDaemonize t ⟨true, true, true, true⟩ false).fds.file n = none := by
  obtain ⟨hw₀, hlt, -, hopen, hf⟩ := t.pipe_spec
  have h₁ : t.pipe.2.2 < 3 := by
    by_contra h
    by_cases hbw : b = t.pipe.2.1
    · exact FdTable.file_ne_none_of_lt (hw₀ ▸ hbw ▸ hab) ha
    · exact hopen b (by omega) hbw hb'
  rw [fuseDaemonize_child]
  refine ⟨rfl, ?_, t.pipe.2.1, t.pipe.2.2, hlt, h₁, by simp, by simp⟩
  simp [waiterRead, FdTable.file_nullStd, h₁, t.pipe_holds.2]

theorem fuse_daemonize_closed_std_blocks_example :
    0 < 1 ∧ 1 < 3 ∧ FdTable.file ⟨[]⟩ 0 = none ∧ FdTable.file ⟨[]⟩ 1 = none ∧
    (fuseDaemonize ⟨[]⟩ ⟨true, true, true, true⟩ false).ret = 0 ∧
    (fuseDaemonize ⟨[]⟩ ⟨true, true, true, true⟩ false).parent = some .blocked ∧
    ∃ m n, m < n ∧ n < 3 ∧
      (fuseDaemonize ⟨[]⟩ ⟨true, true, true, true⟩ false).fds.file m = none ∧
      (fuseDaemonize ⟨[]⟩ ⟨true, true, true, true⟩ false).fds.file n = none :=
  ⟨by decide, by decide, rfl, rfl,
    fuse_daemonize_closed_std_blocks (a := 0) (b := 1) (by decide) (by decide) rfl rfl⟩

/-- After the pipe is made, a failing `fuse_daemonize` returns with both ends of the pipe still
open, and once it has forked the parent waits in `read` for good: the child never writes. -/
theorem fuse_daemonize_error_keeps_pipe (t : FdTable) (env : DaemonEnv) (hp : env.pipeOk = true)
    (hr : (fuseDaemonize t env false).ret = -1) :
    (fuseDaemonize t env false).fds.holds .pipeRead = true ∧
    (fuseDaemonize t env false).fds.holds .pipeWrite = true ∧
    (env.forkOk = true → (fuseDaemonize t env false).parent = some .blocked) := by
  obtain ⟨hR, hW⟩ := t.pipe_holds
  cases hf : env.forkOk <;> cases hs : env.setsidOk <;>
    simp_all [fuseDaemonize, waiterRead]

theorem fuse_daemonize_error_keeps_pipe_example :
    (⟨true, true, false, true⟩ : DaemonEnv).pipeOk = true ∧
    (fuseDaemonize ⟨[]⟩ ⟨true, true, false, true⟩ false).ret = -1 ∧
    (fuseDaemonize ⟨[]⟩ ⟨true, true, false, true⟩ false).fds.holds .pipeRead = true ∧
    (fuseDaemonize ⟨[]⟩ ⟨true, true, false, true⟩ false).fds.holds .pipeWrite = true ∧
    ((⟨true, true, false, true⟩ : DaemonEnv).forkOk = true →
      (fuseDaemonize ⟨[]⟩ ⟨true, true, false, true⟩ false).parent = some .blocked) :=
  ⟨rfl, rfl, fuse_daemonize_error_keeps_pipe _ _ rfl rfl⟩

/-! ## The worker threads of `__fuse_loop_mt` -/

/-- `FUSE_NUM_WORKERS`: the caller and the threads it starts. -/
def fuseNumWorkers : Nat := 5

/-- The threads of `__fuse_loop_mt`: the caller's signal mask (which signals it blocks), the
masks the started workers run with, what was printed, and the exit status once `exit` ran. -/
structure MtState where
  mask : Nat → Bool
  workers : List (Nat → Bool)
  stderr : List String
  exited : Option Int

/-- The caller with signal mask `mask`, before the workers start. -/
def MtState.init (mask : Nat → Bool) : MtState := ⟨mask, [], [], none⟩

/-- `start_thread(w)`, where `pthread_create` returns `res` and `strerror` gives the text of an
error number. It blocks every signal (`sigfillset`, `pthread_sigmask(SIG_SETMASK, &newset,
&oldset)`), creates the worker, which starts with the creator's mask, and restores the old mask.
On an error it prints it and calls `exit(1)`. -/
def MtState.startThread (s : MtState) (strerror : Nat → String) (res : Nat) : MtState :=
  let oldset := s.mask
  let s₁ := { s with mask := fun _ => true }
  let s₂ := if res = 0 then { s₁ with workers := s₁.workers ++ [s₁.mask] } else s₁
  let s₃ := { s₂ with mask := oldset }
  if res ≠ 0 then
    { s₃ with stderr := s₃.stderr ++ ["Error creating thread: " ++ strerror res ++ "\n"],
              exited := some 1 }
  else s₃

/-- The first loop of `__fuse_loop_mt`,
`for(i = 1; i < FUSE_NUM_WORKERS; i++) start_thread(w);`, over the rounds `is`, where
`create i` is what `pthread_create` returns in round `i`. Nothing runs after `exit`. -/
def MtState.startWorkers (s : MtState) (create : Nat → Nat) (strerror : Nat → String)
    (is : List Nat) : MtState :=
  is.foldl (fun s i => if s.exited.isSome then s else s.startThread strerror (create i)) s

/-- The threads once `__fuse_loop_mt` has run its first loop; the caller then serves requests
itself in `do_work`. -/
def fuseLoopMtStart (mask : Nat → Bool) (create : Nat → Nat) (strerror : Nat → String) :
    MtState :=
  (MtState.init mask).startWorkers create strerror (List.range' 1 (fuseNumWorkers - 1))

section Workers

variable {s : MtState} {create : Nat → Nat} {strerror : Nat → String}

theorem MtState.startWorkers_exited (s : MtState) (h : s.exited.isSome) (is : List Nat) :
    s.startWorkers create strerror is = s := by
  induction is with
  | nil => rfl
  | cons i is ih => simpa [MtState.startWorkers, h] using ih

/-- A round whose `pthread_create` succeeds adds one worker with every signal blocked. -/
theorem MtState.startWorkers_cons_ok (hs : s.exited = none) {i : Nat} (hc : create i = 0)
    (is : List Nat) :
    s.startWorkers create strerror (i :: is) =
      { s with workers := s.workers ++ [fun _ => true] }.startWorkers create strerror is := by
  simp [MtState.startWorkers, hs, MtState.startThread, hc]

/-- A round whose `pthread_create` fails prints the error and exits; the rounds after it do
nothing. -/
theorem MtState.startWorkers_cons_fail (hs : s.exited = none) {i : Nat} (hc : create i ≠ 0)
    (is : List Nat) :
    s.startWorkers create strerror (i :: is) = { s with
      stderr := s.stderr ++ ["Error creating thread: " ++ strerror (create i) ++ "\n"],
      exited := some 1 } := by
  simp only [MtState.startWorkers, List.foldl_cons, hs, Option.isSome_none,
    Bool.false_eq_true, if_false]
  refine (MtState.startWorkers_exited _ (by simp [MtState.startThread, hc]) is).trans ?_
  simp [MtState.startThread, hc]

/-- The loop keeps the caller's mask and starts each worker with every signal blocked, one per
round up to the first failed `pthread_create`. With no failure nothing is printed; at the first
failure its error is printed and the process exits with status 1. -/
theorem MtState.startWorkers_spec (hs : s.exited = none) (is : List Nat) :
    (s.startWorkers create strerror is).mask = s.mask ∧
    (∃ ws, (s.startWorkers create strerror is).workers = s.workers ++ ws ∧
      (∀ m ∈ ws, ∀ sig, m sig) ∧
      ws.length = (is.takeWhile fun i => create i == 0).length) ∧
    ((s.startWorkers create strerror is).exited = none ∧
        (s.startWorkers create strerror is).stderr = s.stderr ∧ (∀ i ∈ is, create i = 0) ∨
      ∃ i, is.find? (fun i => create i != 0) = some i ∧
        (s.startWorkers create strerror is).exited = some 1 ∧
        (s.startWorkers create strerror is).stderr =
          s.stderr ++ ["Error creating thread: " ++ strerror (create i) ++ "\n"]) := by
  induction is generalizing s with
  | nil => exact ⟨rfl, ⟨[], by simp [MtState.startWorkers]⟩, .inl ⟨hs, rfl, by simp⟩⟩
  | cons i is ih =>
    by_cases hc : create i = 0
    · obtain ⟨hm, ⟨ws, hws, hall, hlen⟩, hout⟩ := ih (s := { s with
        workers := s.workers ++ [fun _ => true] }) hs
      rw [MtState.startWorkers_cons_ok hs hc]
      refine ⟨hm, ⟨(fun _ => true) :: ws, by simp [hws], by simpa using hall, ?_⟩, ?_⟩
      · simp [List.takeWhile_cons, hc, hlen]
      · rcases hout with ⟨hex, herr, hall'⟩ | ⟨j, hj, hex, herr⟩
        · exact .inl ⟨hex, herr, List.forall_mem_cons.mpr ⟨hc, hall'⟩⟩
        · exact .inr ⟨j, by simp [List.find?_cons, hc, hj], hex, herr⟩
    · rw [MtState.startWorkers_cons_fail hs hc]
      exact ⟨rfl, ⟨[], by simp, by simp, by simp [List.takeWhile_cons, hc]⟩,
        .inr ⟨i, by simp [List.find?_cons, hc], rfl, rfl⟩⟩

end Workers

/-- Over any rounds, the first loop of `__fuse_loop_mt` starts its workers with every signal
blocked, so that the caller, whose mask it restores, is the thread that takes the signals. It
starts one worker per round up to the first failed `pthread_create` and none after it. With no
failure nothing is printed; at the first failure its error is printed with `strerror` and the
process exits with status 1. With every creation succeeding, `__fuse_loop_mt` starts
`FUSE_NUM_WORKERS - 1` workers, and the caller makes the last. -/
theorem fuse_loop_mt_masks_workers (mask : Nat → Bool) (create : Nat → Nat)
    (strerror : Nat → String) (is : List Nat) :
    ((MtState.init mask).startWorkers create strerror is).mask = mask ∧
    (∀ m ∈ ((MtState.init mask).startWorkers create strerror is).workers, ∀ sig, m sig = true) ∧
    ((MtState.init mask).startWorkers create strerror is).workers.length =
      (is.takeWhile fun i => create i == 0).length ∧
    (((MtState.init mask).startWorkers create strerror is).exited = none ∧
        ((MtState.init mask).startWorkers create strerror is).stderr = [] ∧
        (∀ i ∈ is, create i = 0) ∨
      ∃ i, is.find? (fun i => create i != 0) = some i ∧
        ((MtState.init mask).startWorkers create strerror is).exited = some 1 ∧
        ((MtState.init mask).startWorkers create strerror is).stderr =
          ["Error creating thread: " ++ strerror (create i) ++ "\n"]) ∧
    ((∀ i, 1 ≤ i → i < fuseNumWorkers → create i = 0) →
      (fuseLoopMtStart mask create strerror).exited = none ∧
      (fuseLoopMtStart mask create strerror).workers.length = fuseNumWorkers - 1) := by
  obtain ⟨hm, ⟨ws, hws, hall, hlen⟩, hout⟩ :=
    @MtState.startWorkers_spec (MtState.init mask) create strerror rfl is
  have hws' : ((MtState.init mask).startWorkers create strerror is).workers = ws :=
    hws.trans (List.nil_append ws)
  refine ⟨hm, hws' ▸ hall, hws' ▸ hlen, by simpa [MtState.init] using hout, fun h => ?_⟩
  have hall0 : ∀ i ∈ List.range' 1 (fuseNumWorkers - 1), create i = 0 := fun i hi => by
    simp only [List.mem_range'_1, fuseNumWorkers] at hi
    exact h i hi.1 (by simp only [fuseNumWorkers]; omega)
  obtain ⟨-, ⟨ws, hws, -, hlen⟩, hout⟩ := @MtState.startWorkers_spec (MtState.init mask) create
    strerror rfl (List.range' 1 (fuseNumWorkers - 1))
  refine ⟨?_, ?_⟩
  · rcases hout with ⟨hex, -⟩ | ⟨i, hi, -⟩
    · exact hex
    · have hne := List.find?_some hi
      simp [hall0 i (List.mem_of_find?_eq_some hi)] at hne
  · rw [fuseLoopMtStart, hws.trans (List.nil_append ws), hlen,
      List.takeWhile_eq_self_iff.mpr (fun i hi => by simp [hall0 i hi]), List.length_range']

example :
    ((MtState.init (fun _ => false)).startWorkers (fun i => if i = 2 then 11 else 0)
        (fun _ => "Resource temporarily unavailable") [1, 2, 3]).workers.length = 1 ∧
    ((MtState.init (fun _ => false)).startWorkers (fun i => if i = 2 then 11 else 0)
        (fun _ => "Resource temporarily unavailable") [1, 2, 3]).stderr =
      ["Error creating thread: Resource temporarily unavailable\n"] := by
  decide

/-! ## The workers' loop, `do_work`

The caller and the workers it started all run `do_work` on the one `struct fuse_worker`: each
thread reads a command with `__fuse_read_cmd` and calls the processor on it, for ever, and the
first `NULL` makes the process `exit(1)`. `__fuse_read_cmd` (in `fuse.c`, not among the sources)
hands each command it returns to the one thread that called it; which command comes next, and
when `NULL` comes, is the schedule's choice. -/

/-- Where a thread is in `do_work`: at `__fuse_read_cmd`, or holding the command it read, before
`w->proc(w->f, cmd, w->data)`. -/
inductive WorkerPc where
  | read
  | process (cmd : Nat)
  deriving DecidableEq, Repr

/-- The command a thread holds. -/
def WorkerPc.cmd? : WorkerPc → Option Nat
  | .read => none
  | .process c => some c

/-- The threads in `do_work`, what `__fuse_read_cmd` returns next (`none`: `NULL`), the commands
the processor was called on, in order, and the exit status once `exit` ran. -/
structure PoolState where
  threads : List WorkerPc
  cmds : List (Option Nat)
  calls : List Nat
  exited : Option Int
  deriving DecidableEq, Repr

/-- `n` threads at their first read. -/
def PoolState.init (n : Nat) (cmds : List (Option Nat)) : PoolState :=
  ⟨List.replicate n .read, cmds, [], none⟩

/-- The next statement of one thread. -/
inductive PoolAction where
  /-- Thread `i` calls `__fuse_read_cmd`. -/
  | read (i : Nat)
  /-- Thread `i` calls the processor on the command it holds. -/
  | process (i : Nat)
  deriving DecidableEq, Repr

/-- One step; `none` when it cannot run. Nothing runs after `exit`. -/
def PoolState.step (s : PoolState) : PoolAction → Option PoolState
  | .read i =>
    if s.exited = none ∧ s.threads[i]? = some .read then
      match s.cmds with
      | [] => none
      | none :: rest => some { s with cmds := rest, exited := some 1 }
      | some c :: rest => some { s with threads := s.threads.set i (.process c), cmds := rest }
    else none
  | .process i =>
    match s.exited, s.threads[i]? with
    | none, some (.process c) =>
      some { s with threads := s.threads.set i .read, calls := s.calls ++ [c] }
    | _, _ => none

/-- Run the steps of a schedule in order; `none` when one of them cannot run. -/
def PoolState.run (s : PoolState) : List PoolAction → Option PoolState
  | [] => some s
  | a :: as => (s.step a).bind fun s' => s'.run as

/-- The commands the threads hold. -/
def PoolState.held (s : PoolState) : List Nat := s.threads.filterMap WorkerPc.cmd?

section Pool

theorem filterMap_cons_toList {α β : Type} (f : α → Option β) (a : α) (l : List α) :
    (a :: l).filterMap f = (f a).toList ++ l.filterMap f := by
  cases h : f a <;> simp [List.filterMap_cons, h]

/-- Replacing one thread's place changes what the threads hold by that thread's command. -/
theorem filterMap_cmd_set {ts : List WorkerPc} {i : Nat} {y : WorkerPc} (h : ts[i]? = some y)
    (x : WorkerPc) :
    (y.cmd?.toList ++ (ts.set i x).filterMap WorkerPc.cmd?).Perm
      (x.cmd?.toList ++ ts.filterMap WorkerPc.cmd?) := by
  induction ts generalizing i with
  | nil => simp at h
  | cons t ts ih =>
    cases i with
    | zero =>
      obtain rfl : t = y := by simpa using h
      simp only [List.set_cons_zero, filterMap_cons_toList, ← List.append_assoc]
      exact List.perm_append_comm.append_right _
    | succ i =>
      simp only [List.set_cons_succ, filterMap_cons_toList]
      exact (List.perm_append_comm_assoc _ _ _).trans
        (((ih (by simpa using h)).append_left _).trans (List.perm_append_comm_assoc _ _ _))

/-- What a run of the pool has done with the commands: `pre`, the part of the input read so far,
went command by command to the processor or to the thread still holding it; it holds a `NULL`
only as its last entry, once the process has exited. -/
structure PoolInv (cmds₀ : List (Option Nat)) (pre : List (Option Nat)) (s : PoolState) :
    Prop where
  split : cmds₀ = pre ++ s.cmds
  accounted : (s.calls ++ s.held).Perm (pre.filterMap id)
  exit : s.exited = none ∧ none ∉ pre ∨ s.exited = some 1 ∧ ∃ p, pre = p ++ [none] ∧ none ∉ p

theorem PoolInv.init (n : Nat) (cmds₀ : List (Option Nat)) :
    PoolInv cmds₀ [] (PoolState.init n cmds₀) :=
  ⟨rfl, by simp [PoolState.init, PoolState.held, List.filterMap_replicate, WorkerPc.cmd?],
    .inl ⟨rfl, List.not_mem_nil _⟩⟩

theorem PoolState.step_exited {s s' : PoolState} {a : PoolAction} (h : s.step a = some s') :
    s.exited = none := by
  cases a with
  | read i =>
    simp only [PoolState.step] at h
    split_ifs at h with hc
    exact hc.1
  | process i =>
    simp only [PoolState.step] at h
    split at h
    · next _ _ c hex hc => exact hex
    · cases h

/-- Each step keeps the account: a read moves the next command to the thread, or exits on
`NULL`; a call of the processor moves the thread's command to the calls. -/
theorem PoolInv.step {cmds₀ pre : List (Option Nat)} {s s' : PoolState} {a : PoolAction}
    (hi : PoolInv cmds₀ pre s) (h : s.step a = some s') :
    ∃ pre', PoolInv cmds₀ pre' s' := by
  have hnone : none ∉ pre := by
    rcases hi.exit with ⟨-, h0⟩ | ⟨h1, -⟩
    · exact h0
    · simp [PoolState.step_exited h] at h1
  cases a with
  | read i =>
    simp only [PoolState.step] at h
    split_ifs at h with hc
    obtain ⟨hex, hi'⟩ := hc
    split at h
    · cases h
    · next rest hcmds =>
      -- `NULL`: the process exits
      cases h
      refine ⟨pre ++ [none], ⟨by rw [hi.split, hcmds, List.append_assoc]; rfl, ?_, ?_⟩⟩
      · simpa [List.filterMap_append] using hi.accounted
      · exact .inr ⟨rfl, pre, rfl, hnone⟩
    · next c rest hcmds =>
      cases h
      refine ⟨pre ++ [some c], ⟨by rw [hi.split, hcmds, List.append_assoc]; rfl, ?_, ?_⟩⟩
      · have hset := filterMap_cmd_set hi' (.process c)
        simp only [WorkerPc.cmd?, Option.toList, List.nil_append] at hset
        show (s.calls ++ (s.threads.set i (.process c)).filterMap WorkerPc.cmd?).Perm _
        have hmid : (s.calls ++ c :: s.held).Perm ((s.calls ++ s.held) ++ [c]) :=
          List.perm_middle.trans (List.perm_append_singleton _ _).symm
        exact (hset.append_left _).trans (hmid.trans
          (by simpa [List.filterMap_append] using hi.accounted.append_right [c]))
      · exact .inl ⟨hex, by simpa using hnone⟩
  | process i =>
    simp only [PoolState.step] at h
    split at h
    · next _ _ c hex hc =>
      cases h
      refine ⟨pre, ⟨hi.split, ?_, hi.exit⟩⟩
      have hset := filterMap_cmd_set hc .read
      simp only [WorkerPc.cmd?, Option.toList, List.nil_append] at hset
      show ((s.calls ++ [c]) ++ (s.threads.set i .read).filterMap WorkerPc.cmd?).Perm _
      rw [List.append_assoc, List.singleton_append]
      exact (hset.append_left _).trans hi.accounted
    · cases h

theorem PoolInv.run {cmds₀ : List (Option Nat)} :
    ∀ (t : List PoolAction) {pre : List (Option Nat)} {s s' : PoolState},
      PoolInv cmds₀ pre s → s.run t = some s' → ∃ pre', PoolInv cmds₀ pre' s'
  | [], pre, _, _, hi, h => by cases h; exact ⟨pre, hi⟩
  | a :: t, _, _, _, hi, h => by
    obtain ⟨s₁, hs, ht⟩ := Option.bind_eq_some.mp h
    obtain ⟨pre₁, hi₁⟩ := hi.step hs
    exact PoolInv.run t hi₁ ht

end Pool

end MacFuse
