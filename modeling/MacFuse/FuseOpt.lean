import MacFuse.Session
import Mathlib.Logic.Relation
import Mathlib.Data.List.Basic

/-!
# The option parser

`fuse_opt_parse` as `fuse_parse_cmdline` runs it: over the arguments, with the helper's table
`fuse_helper_opts` and its processing function `fuse_helper_opt_proc`, which keeps the first
argument that is not an option as the mount point and a `loop=` value as the loop variant. The
results here are about the parser alone: it frees only the `loop` string a later `loop=`
replaces, its mount point is the one non-option argument, the options it keeps split back into
themselves, and each of its steps owns the helper's strings.

`fuse_opt.c` is not among the sources: `fuse_opt_parse` is modelled from the library's
behaviour, for the kinds of template the helper's table has. C strings are lists of characters.
The two strings the parse allocates for the helper live in a heap that never reuses an address,
so that a freed pointer stays recognisable. Every call that allocates may fail: `mallocOk n` is
the result of the `n`-th attempt.
-/

namespace MacFuse

/-! ## Strings on the heap -/

/-- The helper's `malloc`ed strings: the live ones, the next address (never reused, never
`NULL`), and what was passed to `free`. -/
structure StrHeap where
  strs : Nat → Option (List Char)
  next : Nat
  /-- The live strings released by `free`, in order. -/
  freed : List Nat
  /-- The pointers passed to `free` that were not live: a second `free`, or a wild pointer. -/
  badFrees : List Nat
  next_pos : 0 < next

namespace StrHeap

/-- No string allocated yet. -/
def empty : StrHeap := ⟨fun _ => none, 1, [], [], Nat.one_pos⟩

/-- `p` is `NULL` or a live string of the heap. -/
def Holds (h : StrHeap) (p : Nat) : Prop := p = 0 ∨ p < h.next ∧ (h.strs p).isSome

/-- A successful allocation of a copy of `s`, at the next address. -/
def dup (h : StrHeap) (s : List Char) : StrHeap :=
  { h with strs := Function.update h.strs h.next (some s), next := h.next + 1,
           next_pos := Nat.succ_pos _ }

/-- `free(p)`: nothing for `NULL`; a live string is released; any other pointer is a bad
free. -/
def free (h : StrHeap) (p : Nat) : StrHeap :=
  if p = 0 then h
  else if (h.strs p).isSome then
    { h with strs := Function.update h.strs p none, freed := h.freed ++ [p] }
  else { h with badFrees := h.badFrees ++ [p] }

variable {h : StrHeap} {p : Nat}

theorem holds_dup_next (h : StrHeap) (s : List Char) : (h.dup s).Holds h.next :=
  .inr ⟨Nat.lt_succ_self _, by simp [dup]⟩

theorem Holds.next_ne (hp : h.Holds p) : h.next ≠ p := by
  rcases hp with rfl | ⟨hlt, -⟩
  · exact Nat.pos_iff_ne_zero.mp h.next_pos
  · omega

theorem Holds.dup (hp : h.Holds p) (s : List Char) : (h.dup s).Holds p := by
  rcases hp with rfl | ⟨hlt, hs⟩
  · exact .inl rfl
  · exact .inr ⟨Nat.lt_succ_of_lt hlt, by simpa [StrHeap.dup, Nat.ne_of_lt hlt] using hs⟩

theorem dup_strs_of_ne {q : Nat} (hq : q ≠ h.next) (s : List Char) :
    (h.dup s).strs q = h.strs q := by
  simp [dup, Function.update_noteq hq]

@[simp] theorem free_next (h : StrHeap) (p : Nat) : (h.free p).next = h.next := by
  unfold free; split_ifs <;> rfl

theorem free_strs_of_ne {q : Nat} (hq : q ≠ p) : (h.free p).strs q = h.strs q := by
  unfold free; split_ifs <;> simp [Function.update_apply, hq]

@[simp] theorem free_zero (h : StrHeap) : h.free 0 = h := if_pos rfl

/-- Freeing `NULL` or a pointer at `base` or above leaves every string below `base`. -/
theorem free_strs_below {base q : Nat} (hp : p = 0 ∨ base ≤ p) (hq : q < base) :
    (h.free p).strs q = h.strs q := by
  rcases hp with rfl | hp
  · rw [free_zero]
  · exact free_strs_of_ne (by omega)

/-- After `free(p)` of a pointer that is not `NULL`, no string lives at `p`: it was released, or
none was there. -/
theorem free_strs_self (hp : p ≠ 0) : (h.free p).strs p = none := by
  unfold free
  split_ifs with h0 hs
  · exact absurd h0 hp
  · simp
  · simpa using hs

/-- A string is live after `free(q)` when it was, and `q` is `NULL` or another pointer. -/
theorem free_strs_isSome {q : Nat} :
    ((h.free q).strs p).isSome ↔ (h.strs p).isSome ∧ (q = 0 ∨ p ≠ q) := by
  by_cases hq : q = 0
  · simp [free, hq]
  by_cases hpq : p = q
  · subst hpq; simp [free_strs_self hq, hq]
  · simp [free_strs_of_ne hpq, hpq]

/-- Freeing another pointer leaves a string live. -/
theorem Holds.free {q : Nat} (hq : h.Holds q) (hne : q ≠ 0 → q ≠ p) : (h.free p).Holds q := by
  rcases eq_or_ne q 0 with rfl | hq0
  · exact .inl rfl
  · obtain ⟨hlt, hs⟩ := hq.resolve_left hq0
    exact .inr ⟨by simpa using hlt, by rwa [free_strs_of_ne (hne hq0)]⟩

/-- Freeing `NULL` or a live string is not a bad free. -/
theorem Holds.badFrees_free (hp : h.Holds p) : (h.free p).badFrees = h.badFrees := by
  unfold StrHeap.free
  split_ifs with h0 hs
  · rfl
  · rfl
  · exact absurd (hp.resolve_left h0).2 hs

/-- Freeing a live string releases it, last of all the strings freed. -/
theorem Holds.free_self (hp : h.Holds p) :
    p = 0 ∨ (h.free p).freed.getLast? = some p ∧ (h.free p).strs p = none := by
  refine or_iff_not_imp_left.mpr fun h0 => ?_
  simp [StrHeap.free, h0, (hp.resolve_left h0).2]

end StrHeap

/-! ## The helper's options -/

/-- `struct helper_opts`; `loop` and `mountpoint` are pointers into the heap, `0` for `NULL`. -/
structure HelperOpts where
  foreground : Int
  singlethread : Int
  loop : Nat
  nodefaultSubtype : Int
  mountpoint : Nat
  deriving DecidableEq, Repr

/-- The `int` fields of `struct helper_opts` that a template sets. -/
inductive HelperField where
  | foreground
  | singlethread
  | nodefaultSubtype
  deriving DecidableEq, Repr

/-- `*(int *) var = opt->value` at the field's offset. -/
def HelperOpts.setField (o : HelperOpts) (f : HelperField) (v : Int) : HelperOpts :=
  { o with foreground := if f = .foreground then v else o.foreground,
           singlethread := if f = .singlethread then v else o.singlethread,
           nodefaultSubtype := if f = .nodefaultSubtype then v else o.nodefaultSubtype }

/-- `KEY_HELP`. -/
def keyHelp : Int := 0

/-- `KEY_HELP_NOHEADER`. -/
def keyHelpNoheader : Int := 1

/-- `KEY_VERSION`. -/
def keyVersion : Int := 2

/-- `FUSE_OPT_KEY_OPT`: an option no template matches. -/
def fuseOptKeyOpt : Int := -1

/-- `FUSE_OPT_KEY_NONOPT`: an argument that is not an option. -/
def fuseOptKeyNonopt : Int := -2

/-- `FUSE_OPT_KEY_KEEP`. -/
def fuseOptKeyKeep : Int := -3

/-- `FUSE_OPT_KEY_DISCARD`. -/
def fuseOptKeyDiscard : Int := -4

/-- What a template does with a match, as `process_opt` decides it from the template for the
helper's table: `FUSE_HELPER_OPT` on an `int` field stores the template's value (no format
follows the separator), `FUSE_HELPER_OPT("loop=%s", loop)` stores a copy of the parameter, and
`FUSE_OPT_KEY` hands the key to the processing function. -/
inductive OptTarget where
  | field (f : HelperField) (value : Int)
  | loop
  | key (k : Int)
  deriving DecidableEq, Repr

/-- `struct fuse_opt`. -/
structure FuseOpt where
  templ : List Char
  target : OptTarget
  deriving DecidableEq, Repr

/-- `fuse_helper_opts`. -/
def fuseHelperOpts : List FuseOpt :=
  [⟨"-d".toList, .field .foreground 1⟩, ⟨"debug".toList, .field .foreground 1⟩,
   ⟨"-f".toList, .field .foreground 1⟩, ⟨"-s".toList, .field .singlethread 1⟩,
   ⟨"loop=%s".toList, .loop⟩, ⟨"fsname=".toList, .field .nodefaultSubtype 1⟩,
   ⟨"subtype=".toList, .field .nodefaultSubtype 1⟩,
   ⟨"-h".toList, .key keyHelp⟩, ⟨"--help".toList, .key keyHelp⟩,
   ⟨"-ho".toList, .key keyHelpNoheader⟩, ⟨"-V".toList, .key keyVersion⟩,
   ⟨"--version".toList, .key keyVersion⟩, ⟨"-d".toList, .key fuseOptKeyKeep⟩,
   ⟨"debug".toList, .key fuseOptKeyKeep⟩, ⟨"fsname=".toList, .key fuseOptKeyKeep⟩,
   ⟨"subtype=".toList, .key fuseOptKeyKeep⟩]

/-- `match_template(t, arg, &sep)`: a template `name=` or `name=%..` matches every argument that
starts with `name=`, with `sep` the position of the `=`; any template matches itself, with
`sep = 0`. The helper's table has no template with a space separator. -/
def matchTemplate (t arg : List Char) : Option Nat :=
  match t.indexOf? '=' with
  | some sep =>
    if (t[sep + 1]? = none ∨ t[sep + 1]? = some '%') ∧ (t.take (sep + 1)).isPrefixOf arg then
      some sep
    else if t = arg then some 0 else none
  | none => if t = arg then some 0 else none

/-- `find_opt`, repeated: the templates that match `arg`, in the table's order, with their
separators. -/
def findOpts (arg : List Char) : List (FuseOpt × Nat) :=
  fuseHelperOpts.filterMap fun o => (matchTemplate o.templ arg).map (o, ·)

/-- The escaping of `fuse_opt_add_opt_escaped`: a `\` before each `,` and `\`. -/
def escapeOpt : List Char → List Char
  | [] => []
  | c :: s => (if c = ',' ∨ c = '\\' then ['\\', c] else [c]) ++ escapeOpt s

/-! ## Splitting an option group -/

/-- Where `process_real_option_group` is in an escape: after `\`, or after one or two octal
digits of a possible `\ooo`. -/
inductive GroupEsc where
  | none
  | backslash
  | oct1 (a : Char)
  | oct2 (a b : Char)
  deriving DecidableEq, Repr

/-- The options split off so far, the current one, and the escape state. -/
structure GroupScan where
  pieces : List (List Char)
  cur : List Char
  esc : GroupEsc
  deriving DecidableEq, Repr

/-- The character `\abc` stands for. -/
def octChar (a b c : Char) : Char :=
  Char.ofNat ((a.toNat - 48) * 64 + (b.toNat - 48) * 8 + (c.toNat - 48))

namespace GroupScan

/-- A character outside an escape: `,` ends an option, `\` starts an escape. -/
def plain (g : GroupScan) (x : Char) : GroupScan :=
  if x = ',' then { g with pieces := g.pieces ++ [g.cur], cur := [] }
  else if x = '\\' then { g with esc := .backslash }
  else { g with cur := g.cur ++ [x] }

/-- One character. After `\`, three octal digits `0-3`, `0-7`, `0-7` stand for one character;
otherwise the character after `\` stands for itself and scanning resumes after it. -/
def step (g : GroupScan) (x : Char) : GroupScan :=
  match g.esc with
  | .none => g.plain x
  | .backslash =>
    if '0' ≤ x ∧ x ≤ '3' then { g with esc := .oct1 x }
    else { g with cur := g.cur ++ [x], esc := .none }
  | .oct1 a =>
    if '0' ≤ x ∧ x ≤ '7' then { g with esc := .oct2 a x }
    else { g with cur := g.cur ++ [a], esc := .none }.plain x
  | .oct2 a b =>
    if '0' ≤ x ∧ x ≤ '7' then { g with cur := g.cur ++ [octChar a b x], esc := .none }
    else ({ g with cur := g.cur ++ [a], esc := .none }.plain b).plain x

/-- The end of the group ends the last option; a `\` or a cut-short escape stands for itself. -/
def finish (g : GroupScan) : List (List Char) :=
  match g.esc with
  | .none => g.pieces ++ [g.cur]
  | .backslash => g.pieces ++ [g.cur ++ ['\\']]
  | .oct1 a => g.pieces ++ [g.cur ++ [a]]
  | .oct2 a b => g.pieces ++ [g.cur ++ [a, b]]

end GroupScan

/-- `process_real_option_group`'s split of an option group at its unescaped commas: the
characters each option is decoded into in the copy of the group. -/
def splitOptionGroup (group : List Char) : List (List Char) :=
  (group.foldl GroupScan.step ⟨[], [], .none⟩).finish

/-- The C string a buffer holds: its characters up to the first NUL. An option that decodes
`\000` ends there as `process_gopt` reads it. -/
def cString (s : List Char) : List Char :=
  s.takeWhile (· ≠ Char.ofNat 0)

/-- `fuse_opt_add_opt_escaped` on kept options `old`: a `,` only after non-empty `old`, then the
option escaped. -/
def addOptEscaped (old o : List Char) : List Char :=
  old ++ (if old = [] then [] else [',']) ++ escapeOpt o

theorem addOptEscaped_eq_nil {old o : List Char} :
    addOptEscaped old o = [] ↔ old = [] ∧ o = [] := by
  cases old <;> cases o <;> simp [addOptEscaped, escapeOpt]
  split_ifs <;> simp

namespace GroupScan

/-- Outside an escape, an escaped option is read into the current option as it was. -/
theorem foldl_escapeOpt (ps : List (List Char)) (cur o : List Char) :
    (escapeOpt o).foldl step ⟨ps, cur, .none⟩ = ⟨ps, cur ++ o, .none⟩ := by
  induction o generalizing cur with
  | nil => simp [escapeOpt]
  | cons x o ih =>
    by_cases hx : x = ',' ∨ x = '\\'
    · -- `\x` stands for `x`: neither `,` nor `\` is an octal digit
      have hd : ¬('0' ≤ x ∧ x ≤ '3') := by rcases hx with rfl | rfl <;> decide
      have h1 : step ⟨ps, cur, .none⟩ '\\' = ⟨ps, cur, .backslash⟩ := rfl
      have h2 : step ⟨ps, cur, .backslash⟩ x = ⟨ps, cur ++ [x], .none⟩ := by
        simp only [step, if_neg hd]
      simp only [escapeOpt, if_pos hx, List.cons_append, List.nil_append, List.foldl_cons, h1, h2,
        ih, List.append_assoc, List.singleton_append]
    · have h1 : step ⟨ps, cur, .none⟩ x = ⟨ps, cur ++ [x], .none⟩ := by
        simp only [step, plain, if_neg fun h => hx (.inl h), if_neg fun h => hx (.inr h)]
      simp only [escapeOpt, if_neg hx, List.singleton_append, List.foldl_cons, h1, ih,
        List.append_assoc, List.singleton_append]

/-- Reading one more kept option: after non-empty kept options, the `,` ends the current one. -/
theorem foldl_addOptEscaped {old : List Char} {ps : List (List Char)} {cur : List Char}
    (h : old.foldl step ⟨[], [], .none⟩ = ⟨ps, cur, .none⟩) (o : List Char) :
    (addOptEscaped old o).foldl step ⟨[], [], .none⟩ =
      if old = [] then ⟨[], o, .none⟩ else ⟨ps ++ [cur], o, .none⟩ := by
  by_cases hold : old = []
  · simp [addOptEscaped, hold, foldl_escapeOpt]
  · have hc : step ⟨ps, cur, .none⟩ ',' = ⟨ps ++ [cur], [], .none⟩ := rfl
    simp [addOptEscaped, hold, List.foldl_append, h, hc, foldl_escapeOpt]

end GroupScan

/-- What `add_opt` leaves in `ctx->opts` when it kept the options `os` in turn, from `NULL`,
splits back into `os`, except that the empty options before the first non-empty one are
lost. -/
theorem scan_foldl_addOptEscaped (os : List (List Char)) :
    (os.foldl addOptEscaped [] = [] ↔ os.all List.isEmpty) ∧
    ∃ ps cur, (os.foldl addOptEscaped []).foldl GroupScan.step ⟨[], [], .none⟩ =
        ⟨ps, cur, .none⟩ ∧
      ps ++ [cur] = if os.all List.isEmpty then [[]] else os.dropWhile List.isEmpty := by
  induction os using List.reverseRecOn with
  | nil => exact ⟨by simp, [], [], rfl, rfl⟩
  | append_singleton os o ih =>
    obtain ⟨hnil, ps, cur, hscan, hsplit⟩ := ih
    have hall : (os ++ [o]).all List.isEmpty = (os.all List.isEmpty && o.isEmpty) := by
      simp [List.all_append]
    rw [List.foldl_append, List.foldl_cons, List.foldl_nil, hall,
      GroupScan.foldl_addOptEscaped hscan]
    refine ⟨by simp [addOptEscaped_eq_nil, hnil], ?_⟩
    by_cases hold : os.foldl addOptEscaped [] = []
    · -- only empty options so far: the `,` is left out and they are lost
      have hos := hnil.mp hold
      refine ⟨[], o, by rw [if_pos hold], ?_⟩
      cases o with
      | nil => simp [hos]
      | cons x o =>
        simp [hos, List.dropWhile_append_of_pos (List.all_eq_true.mp hos)]
    · have hos : os.all List.isEmpty = false := by simpa [hnil] using hold
      refine ⟨ps ++ [cur], o, by rw [if_neg hold], ?_⟩
      have hdrop : (os.dropWhile List.isEmpty).isEmpty = false := by
        simpa [List.isEmpty_iff, List.dropWhile_eq_nil_iff, List.all_eq_true] using hos
      simp [hsplit, hos, List.dropWhile_append, hdrop]

/-! ## The parse -/

/-- What `fuse_parse_cmdline` depends on: the build, each allocation's result, `realpath` (the
resolved path, or the text of `strerror(errno)`), and `PACKAGE_VERSION`. -/
structure CmdlineEnv where
  platform : Platform
  mallocOk : Nat → Bool
  realpath : List Char → Except String (List Char)
  packageVersion : String

/-- `struct fuse_opt_context` parsing into the helper's options. The helper's two strings are
`NULL` or live, and two different strings when both are set. -/
structure OptCtx where
  hopts : HelperOpts
  heap : StrHeap
  /-- Allocation attempts so far. -/
  tries : Nat
  outargs : List (List Char)
  /-- `ctx->opts`: the options kept from `-o` groups, `NULL` until one is kept. -/
  opts : Option (List Char)
  /-- `ctx->nonopt`: the length of `outargs` once a `--` was kept, `0` before. -/
  nonopt : Nat
  stderr : List String
  mountpoint_holds : heap.Holds hopts.mountpoint
  loop_holds : heap.Holds hopts.loop
  distinct : hopts.mountpoint ≠ 0 → hopts.mountpoint ≠ hopts.loop

namespace OptCtx

/-- The parse into zeroed options, `memset(&hopts, 0, sizeof(hopts))`. -/
def init (heap : StrHeap) : OptCtx :=
  ⟨⟨0, 0, 0, 0, 0⟩, heap, 0, [], none, 0, [], .inl rfl, .inl rfl, fun h => absurd rfl h⟩

/-- Write a line to `stderr`. -/
def print (c : OptCtx) (line : String) : OptCtx := { c with stderr := c.stderr ++ [line] }

/-- One allocation attempt. -/
def attempt (c : OptCtx) (env : CmdlineEnv) : OptCtx × Bool :=
  ({ c with tries := c.tries + 1 }, env.mallocOk c.tries)

/-- `alloc_failed()`. -/
def allocFailed (c : OptCtx) : OptCtx × Int := (c.print "fuse: memory allocation failed\n", -1)

/-- `fuse_opt_add_arg(&outargs, arg)`: `strdup` the argument, then grow the vector. -/
def addArg (c : OptCtx) (env : CmdlineEnv) (arg : List Char) : OptCtx × Int :=
  if !(c.attempt env).2 then (c.attempt env).1.allocFailed
  else
    let c := (c.attempt env).1
    if !(c.attempt env).2 then (c.attempt env).1.allocFailed
    else ({ (c.attempt env).1 with outargs := c.outargs ++ [arg] }, 0)

/-- `add_opt(ctx, opt)`: `fuse_opt_add_opt_escaped(&ctx->opts, opt)` reallocates the kept options
and appends `opt` escaped, after a `,` when there were some. -/
def addOpt (c : OptCtx) (env : CmdlineEnv) (opt : List Char) : OptCtx × Int :=
  if !(c.attempt env).2 then (c.attempt env).1.allocFailed
  else
    let old := c.opts.getD []
    ({ (c.attempt env).1 with
        opts := some (old ++ (if old = [] then [] else [',']) ++ escapeOpt opt) }, 0)

/-- `fuse_opt_add_opt(&hopts->mountpoint, s)` while the field is `NULL`: `realloc(NULL, ...)`
allocates a copy of `s`. -/
def addMountpoint (c : OptCtx) (env : CmdlineEnv) (s : List Char) : OptCtx × Int :=
  if !(c.attempt env).2 then (c.attempt env).1.allocFailed
  else
    ({ (c.attempt env).1 with
        heap := c.heap.dup s, hopts := { c.hopts with mountpoint := c.heap.next },
        mountpoint_holds := c.heap.holds_dup_next s, loop_holds := c.loop_holds.dup s,
        distinct := fun _ => c.loop_holds.next_ne }, 0)

/-- `process_opt_param` with the format `%s`: a copy of the parameter (`strdup`) replaces the
`loop` string, and the old one is freed. -/
def setLoop (c : OptCtx) (env : CmdlineEnv) (param : List Char) : OptCtx × Int :=
  if !(c.attempt env).2 then (c.attempt env).1.allocFailed
  else
    ({ (c.attempt env).1 with
        heap := (c.heap.dup param).free c.hopts.loop,
        hopts := { c.hopts with loop := c.heap.next },
        mountpoint_holds := (c.mountpoint_holds.dup param).free c.distinct,
        loop_holds := (c.heap.holds_dup_next param).free fun _ => c.loop_holds.next_ne,
        distinct := fun _ => c.mountpoint_holds.next_ne.symm }, 0)

end OptCtx

/-- `usage(progname)`. -/
def usageText (progname : List Char) : String :=
  "usage: " ++ String.mk progname ++ " mountpoint [options]\n\n" ++
  "general options:\n" ++
  "    -o opt,[opt...]        mount options\n" ++
  "    -h   --help            print help\n" ++
  "    -V   --version         print version\n" ++
  "\n"

/-- `helper_help()`. -/
def helperHelpText : String :=
  "FUSE options:\n" ++
  "    -d   -o debug          enable debug output (implies -f)\n" ++
  "    -f                     foreground operation\n" ++
  "    -s                     disable multi-threaded operation\n" ++
  "\n"

/-- `fuse_helper_opt_proc(data, arg, key, outargs)`. Help prints and keeps `-h` for the
library; the version prints and keeps the argument; the first argument that is not an option
becomes the mount point, resolved by `realpath` (on the Apple build a path that does not
resolve is kept as given); a second one is an error; anything else is kept. -/
def fuseHelperOptProc (c : OptCtx) (env : CmdlineEnv) (arg : List Char) (key : Int) :
    OptCtx × Int :=
  if key = keyHelp ∨ key = keyHelpNoheader then
    let c := if key = keyHelp then c.print (usageText (c.outargs.head?.getD [])) else c
    (c.print helperHelpText).addArg env "-h".toList
  else if key = keyVersion then
    (c.print ("FUSE library version: " ++ env.packageVersion ++ "\n"), 1)
  else if key = fuseOptKeyNonopt then
    if c.hopts.mountpoint = 0 then
      match env.realpath arg with
      | .ok resolved => c.addMountpoint env resolved
      | .error e =>
        if env.platform = .apple then c.addMountpoint env arg
        else (c.print ("fuse: bad mount point \x60" ++ String.mk arg ++ "\x27: " ++ e ++ "\n"),
          -1)
    else (c.print ("fuse: invalid argument \x60" ++ String.mk arg ++ "\x27\n"), -1)
  else (c, 1)

namespace OptCtx

/-- `call_proc(ctx, arg, key, iso)`: a discarded key does nothing; any key but `KEEP` goes to the
processing function, whose `-1` is an error and whose `0` drops the argument; otherwise the
argument is kept, among the `-o` options when it came from a group (`iso`), else as an
argument. -/
def callProc (c : OptCtx) (env : CmdlineEnv) (arg : List Char) (key : Int) (iso : Bool) :
    OptCtx × Int :=
  if key = fuseOptKeyDiscard then (c, 0)
  else
    let r := if key ≠ fuseOptKeyKeep then fuseHelperOptProc c env arg key else (c, 1)
    if key ≠ fuseOptKeyKeep ∧ (r.2 = -1 ∨ r.2 = 0) then r
    else if iso then r.1.addOpt env arg else r.1.addArg env arg

/-- `process_opt(ctx, opt, sep, arg, iso)`; the parameter of `loop=%s` is what follows the
`=`. -/
def processOpt (c : OptCtx) (env : CmdlineEnv) (o : FuseOpt) (sep : Nat) (arg : List Char)
    (iso : Bool) : OptCtx × Int :=
  match o.target with
  | .key k => c.callProc env arg k iso
  | .field f v => ({ c with hopts := c.hopts.setField f v }, 0)
  | .loop => c.setLoop env (arg.drop (sep + 1))

/-- The loop of `process_gopt` over the matching templates, up to the first error. -/
def processMatches (env : CmdlineEnv) (arg : List Char) (iso : Bool) :
    OptCtx → List (FuseOpt × Nat) → OptCtx × Int
  | c, [] => (c, 0)
  | c, (o, sep) :: ms =>
    if (c.processOpt env o sep arg iso).2 = -1 then c.processOpt env o sep arg iso
    else processMatches env arg iso (c.processOpt env o sep arg iso).1 ms

/-- `process_gopt(ctx, arg, iso)`: every matching template in turn, or the processing function
with `FUSE_OPT_KEY_OPT` when none matches. -/
def processGopt (c : OptCtx) (env : CmdlineEnv) (arg : List Char) (iso : Bool) : OptCtx × Int :=
  match findOpts arg with
  | [] => c.callProc env arg fuseOptKeyOpt iso
  | ms => processMatches env arg iso c ms

/-- The options of a group in turn, up to the first error. -/
def processGroupPieces (env : CmdlineEnv) : OptCtx → List (List Char) → OptCtx × Int
  | c, [] => (c, 0)
  | c, p :: ps =>
    if (c.processGopt env p true).2 = -1 then c.processGopt env p true
    else processGroupPieces env (c.processGopt env p true).1 ps

/-- `process_option_group(ctx, opts)`: a copy of the group (`strdup`), split, and each option
processed as the C string it is in the copy. -/
def processOptionGroup (c : OptCtx) (env : CmdlineEnv) (group : List Char) : OptCtx × Int :=
  if !(c.attempt env).2 then ((c.attempt env).1.print "fuse: memory allocation failed\n", -1)
  else processGroupPieces env (c.attempt env).1 ((splitOptionGroup group).map cString)

/-- `fuse_opt_insert_arg(&outargs, pos, arg)`: `fuse_opt_add_arg`, then the new argument moves
to `pos`. -/
def insertArg (c : OptCtx) (env : CmdlineEnv) (pos : Nat) (arg : List Char) : OptCtx × Int :=
  if (c.addArg env arg).2 = -1 then c.addArg env arg
  else ({ (c.addArg env arg).1 with outargs := c.outargs.take pos ++ [arg] ++ c.outargs.drop pos },
    0)

end OptCtx

/-- The loop of `opt_parse` over `argv[1..]`, with `process_one` on each argument: after a kept
`--`, or for an argument that does not start with `-`, the processing function gets
`FUSE_OPT_KEY_NONOPT`; `-o` takes the rest of the argument, or the next one (`next_arg`), as
an option group; `--` is kept and ends the options; any other `-` argument is an option. -/
def optParseArgs (env : CmdlineEnv) : OptCtx → List (List Char) → OptCtx × Int
  | c, [] => (c, 0)
  | c, arg :: rest =>
    if c.nonopt ≠ 0 ∨ arg.head? ≠ some '-' then
      if (c.callProc env arg fuseOptKeyNonopt false).2 = -1 then
        c.callProc env arg fuseOptKeyNonopt false
      else optParseArgs env (c.callProc env arg fuseOptKeyNonopt false).1 rest
    else if arg[1]? = some 'o' then
      if 2 < arg.length then
        if (c.processOptionGroup env (arg.drop 2)).2 = -1 then
          c.processOptionGroup env (arg.drop 2)
        else optParseArgs env (c.processOptionGroup env (arg.drop 2)).1 rest
      else
        match rest with
        | [] => (c.print ("fuse: missing argument after \x60" ++ String.mk arg ++ "\x27\n"), -1)
        | group :: rest' =>
          if (c.processOptionGroup env group).2 = -1 then c.processOptionGroup env group
          else optParseArgs env (c.processOptionGroup env group).1 rest'
    else if arg = "--".toList then
      if (c.addArg env arg).2 = -1 then c.addArg env arg
      else optParseArgs env { (c.addArg env arg).1 with
        nonopt := (c.addArg env arg).1.outargs.length } rest
    else if (c.processGopt env arg false).2 = -1 then c.processGopt env arg false
    else optParseArgs env (c.processGopt env arg false).1 rest

/-- The kept options go in as `-o <opts>` after the program's name. -/
def OptCtx.insertOpts (c : OptCtx) (env : CmdlineEnv) : OptCtx × Int :=
  match c.opts with
  | none => (c, 0)
  | some o =>
    if (c.insertArg env 1 "-o".toList).2 = -1 then c.insertArg env 1 "-o".toList
    else (c.insertArg env 1 "-o".toList).1.insertArg env 2 o

/-- The end of `opt_parse`: the kept options go in, and a `--` that ends the vector right where
it was kept is dropped. -/
def optParseEnd (c : OptCtx) (env : CmdlineEnv) : OptCtx × Int :=
  let r := c.insertOpts env
  if r.2 = -1 then r
  else if r.1.nonopt ≠ 0 ∧ r.1.nonopt = r.1.outargs.length ∧
      r.1.outargs.getLast? = some "--".toList then
    ({ r.1 with outargs := r.1.outargs.dropLast }, 0)
  else r

/-- Modelled from the library: `fuse_opt_parse(args, &hopts, fuse_helper_opts,
fuse_helper_opt_proc)`, through `opt_parse`. An empty vector is left alone; otherwise the
program's name is kept first and the rest parsed. The caller's vector becomes `outargs` only
on success. -/
def fuseOptParse (env : CmdlineEnv) (args : List (List Char)) (c : OptCtx) : OptCtx × Int :=
  match args with
  | [] => (c, 0)
  | argv0 :: rest =>
    if (c.addArg env argv0).2 = -1 then c.addArg env argv0
    else if (optParseArgs env (c.addArg env argv0).1 rest).2 = -1 then
      optParseArgs env (c.addArg env argv0).1 rest
    else optParseEnd (optParseArgs env (c.addArg env argv0).1 rest).1 env

/-! ## The parse frees only live strings

The option parser allocates, and frees only the `loop` string a later `loop=` replaces: each of
its steps, and so every run of it, leaves the list of bad frees as it was. -/

namespace OptCtx

variable {c : OptCtx} {env : CmdlineEnv} {arg : List Char} {iso : Bool}

@[simp] theorem print_heap (s : String) : (c.print s).heap = c.heap := rfl

@[simp] theorem attempt_heap : (c.attempt env).1.heap = c.heap := rfl

@[simp] theorem addArg_heap (a : List Char) : (c.addArg env a).1.heap = c.heap := by
  simp only [addArg]; split_ifs <;> rfl

/-- `fuse_opt_add_arg` reports only a failed allocation. -/
theorem addArg_stderr (a : List Char) :
    (c.addArg env a).1.stderr = if (c.addArg env a).2 = -1 then
      c.stderr ++ ["fuse: memory allocation failed\n"] else c.stderr := by
  simp only [addArg]
  by_cases h1 : (!(c.attempt env).2) = true
  · rw [if_pos h1]; rfl
  by_cases h2 : (!((c.attempt env).1.attempt env).2) = true
  · rw [if_neg h1, if_pos h2]; rfl
  · rw [if_neg h1, if_neg h2]; rfl

@[simp] theorem addOpt_heap (a : List Char) : (c.addOpt env a).1.heap = c.heap := by
  unfold addOpt; split_ifs <;> rfl

@[simp] theorem addMountpoint_badFrees (s : List Char) :
    (c.addMountpoint env s).1.heap.badFrees = c.heap.badFrees := by
  unfold addMountpoint; split_ifs <;> rfl

@[simp] theorem setLoop_badFrees (s : List Char) :
    (c.setLoop env s).1.heap.badFrees = c.heap.badFrees := by
  unfold setLoop; split_ifs
  · rfl
  · exact (c.loop_holds.dup s).badFrees_free

@[simp] theorem fuseHelperOptProc_badFrees (k : Int) :
    (fuseHelperOptProc c env arg k).1.heap.badFrees = c.heap.badFrees := by
  unfold fuseHelperOptProc
  cases env.realpath arg <;>
    simp only [apply_ite (fun x : OptCtx × Int => x.1.heap.badFrees),
      apply_ite (fun x : OptCtx => x.heap), addArg_heap, addMountpoint_badFrees, print_heap,
      ite_self]

@[simp] theorem callProc_badFrees (k : Int) :
    (c.callProc env arg k iso).1.heap.badFrees = c.heap.badFrees := by
  simp only [callProc, apply_ite (fun x : OptCtx × Int => x.1.heap.badFrees),
    fuseHelperOptProc_badFrees, addOpt_heap, addArg_heap, ite_self]

@[simp] theorem processOpt_badFrees (o : FuseOpt) (sep : Nat) :
    (c.processOpt env o sep arg iso).1.heap.badFrees = c.heap.badFrees := by
  unfold processOpt; split <;> simp

theorem processMatches_badFrees (ms : List (FuseOpt × Nat)) :
    ∀ c : OptCtx, (processMatches env arg iso c ms).1.heap.badFrees = c.heap.badFrees := by
  induction ms with
  | nil => intro c; rfl
  | cons m ms ih => intro c; unfold processMatches; split_ifs <;> simp [ih]

@[simp] theorem processGopt_badFrees :
    (c.processGopt env arg iso).1.heap.badFrees = c.heap.badFrees := by
  unfold processGopt; split <;> simp [processMatches_badFrees]

theorem processGroupPieces_badFrees (ps : List (List Char)) :
    ∀ c : OptCtx, (processGroupPieces env c ps).1.heap.badFrees = c.heap.badFrees := by
  induction ps with
  | nil => intro c; rfl
  | cons p ps ih => intro c; unfold processGroupPieces; split_ifs <;> simp [ih]

@[simp] theorem processOptionGroup_badFrees (g : List Char) :
    (c.processOptionGroup env g).1.heap.badFrees = c.heap.badFrees := by
  unfold processOptionGroup; split_ifs <;> simp [processGroupPieces_badFrees]

@[simp] theorem insertArg_heap (pos : Nat) (a : List Char) :
    (c.insertArg env pos a).1.heap = c.heap := by
  unfold insertArg; split_ifs <;> simp

end OptCtx

/-- A property of the context that each step of the loop of `opt_parse` keeps, for the arguments
the loop may hand to the processing function as non-options, holds after the whole loop. -/
theorem optParseArgs_keeps (env : CmdlineEnv) (P : OptCtx → Prop) (S : List (List Char))
    (hnonopt : ∀ c a, a ∈ S → P c → P (c.callProc env a fuseOptKeyNonopt false).1)
    (hgroup : ∀ c g, P c → P (c.processOptionGroup env g).1)
    (hgopt : ∀ c a, P c → P (c.processGopt env a false).1)
    (harg : ∀ c a, P c → P (c.addArg env a).1)
    (hsep : ∀ c n, P c → P { c with nonopt := n })
    (hprint : ∀ c s, P c → P (c.print s)) :
    ∀ (args : List (List Char)) (c : OptCtx), (∀ a ∈ args, a ∈ S) → P c →
      P (optParseArgs env c args).1
  | [], _, _, hc => hc
  | [p], c, hS, hc => by
    have h1 := hnonopt _ _ (hS p (List.mem_cons_self _ _)) hc
    rw [optParseArgs.eq_2]
    simp only [apply_ite (fun x : OptCtx × Int => P x.1), optParseArgs, h1,
      hgroup c (p.drop 2) hc, hprint _ _ hc, harg c p hc, hsep _ _ (harg c p hc), hgopt c p hc,
      ite_self]
  | p :: g :: rest, c, hS, hc => by
    have hS' : ∀ a ∈ g :: rest, a ∈ S := fun a ha => hS a (List.mem_cons_of_mem _ ha)
    have ih := fun c' => optParseArgs_keeps env P S hnonopt hgroup hgopt harg hsep hprint
      (g :: rest) c' hS'
    have ih' := fun c' => optParseArgs_keeps env P S hnonopt hgroup hgopt harg hsep hprint
      rest c' fun a ha => hS' a (List.mem_cons_of_mem _ ha)
    have h1 := hnonopt _ _ (hS p (List.mem_cons_self _ _)) hc
    rw [optParseArgs.eq_3]
    simp only [apply_ite (fun x : OptCtx × Int => P x.1), h1, ih _ h1,
      hgroup c (p.drop 2) hc, ih _ (hgroup c (p.drop 2) hc), hgroup c g hc,
      ih' _ (hgroup c g hc), harg c p hc, ih _ (hsep _ _ (harg c p hc)), hgopt c p hc,
      ih _ (hgopt c p hc), ite_self]

theorem optParseArgs_badFrees (env : CmdlineEnv) (args : List (List Char)) (c : OptCtx) :
    (optParseArgs env c args).1.heap.badFrees = c.heap.badFrees :=
  optParseArgs_keeps env (fun c' => c'.heap.badFrees = c.heap.badFrees) args
    (fun _ _ _ h => by simp [h]) (fun _ _ h => by simp [h]) (fun _ _ h => by simp [h])
    (fun _ _ h => by simp [h]) (fun _ _ h => h) (fun _ _ h => h) args c (fun _ h => h) rfl

theorem OptCtx.insertOpts_heap (c : OptCtx) (env : CmdlineEnv) :
    (c.insertOpts env).1.heap = c.heap := by
  unfold insertOpts; split <;> (try split_ifs) <;> simp

theorem optParseEnd_heap (c : OptCtx) (env : CmdlineEnv) : (optParseEnd c env).1.heap = c.heap := by
  simp only [optParseEnd]; split_ifs <;> simp [OptCtx.insertOpts_heap]

theorem fuseOptParse_badFrees (env : CmdlineEnv) (args : List (List Char)) (c : OptCtx) :
    (fuseOptParse env args c).1.heap.badFrees = c.heap.badFrees := by
  unfold fuseOptParse
  split
  · rfl
  · split_ifs <;> simp [optParseArgs_badFrees, optParseEnd_heap]

/-! ## The mount point comes from the command line

Only the `FUSE_OPT_KEY_NONOPT` case of the processing function sets the mount point, and only
while it is unset; every other step of the parse keeps it and its string. -/

/-- The string `fuse_helper_opt_proc` keeps for the mount point argument `a`: what `realpath`
resolves it to, or on the Apple build `a` itself when `realpath` fails. -/
def resolvedMountpoint (env : CmdlineEnv) (a : List Char) : Option (List Char) :=
  match env.realpath a with
  | .ok r => some r
  | .error _ => if env.platform = .apple then some a else none

namespace OptCtx

/-- The mount point's string, `none` while the mount point is `NULL`. -/
def mountpointStr (c : OptCtx) : Option (List Char) :=
  if c.hopts.mountpoint = 0 then none else c.heap.strs c.hopts.mountpoint

variable {c : OptCtx} {env : CmdlineEnv} {arg : List Char} {iso : Bool}

@[simp] theorem print_mountpointStr (s : String) : (c.print s).mountpointStr = c.mountpointStr :=
  rfl

@[simp] theorem attempt_mountpointStr : (c.attempt env).1.mountpointStr = c.mountpointStr := rfl

@[simp] theorem addArg_mountpointStr (a : List Char) :
    (c.addArg env a).1.mountpointStr = c.mountpointStr := by
  simp only [addArg]; split_ifs <;> rfl

@[simp] theorem addOpt_mountpointStr (a : List Char) :
    (c.addOpt env a).1.mountpointStr = c.mountpointStr := by
  unfold addOpt; split_ifs <;> rfl

@[simp] theorem insertArg_mountpointStr (pos : Nat) (a : List Char) :
    (c.insertArg env pos a).1.mountpointStr = c.mountpointStr := by
  unfold insertArg; split_ifs <;> exact addArg_mountpointStr a

/-- Replacing the `loop` string keeps the mount point's, which is another string. -/
@[simp] theorem setLoop_mountpointStr (p : List Char) :
    (c.setLoop env p).1.mountpointStr = c.mountpointStr := by
  unfold setLoop
  split_ifs
  · rfl
  · simp only [mountpointStr]
    split_ifs with h0
    · rfl
    · rw [StrHeap.free_strs_of_ne (c.distinct h0),
        StrHeap.dup_strs_of_ne c.mountpoint_holds.next_ne.symm]

theorem addMountpoint_mountpointStr (p : List Char) :
    (c.addMountpoint env p).1.mountpointStr = c.mountpointStr ∨
      (c.addMountpoint env p).1.mountpointStr = some p := by
  unfold addMountpoint
  split_ifs
  · exact .inl rfl
  · exact .inr (by simp [mountpointStr, StrHeap.dup, Nat.pos_iff_ne_zero.mp c.heap.next_pos])

theorem fuseHelperOptProc_mountpointStr {k : Int} (hk : k ≠ fuseOptKeyNonopt) :
    (fuseHelperOptProc c env arg k).1.mountpointStr = c.mountpointStr := by
  simp only [fuseHelperOptProc, apply_ite (fun x : OptCtx × Int => x.1.mountpointStr),
    apply_ite (fun x : OptCtx => x.mountpointStr), hk, addArg_mountpointStr,
    print_mountpointStr, ite_self, if_false]

/-- A non-option argument leaves the mount point, or sets it to the argument's string. -/
theorem fuseHelperOptProc_nonopt_mountpointStr :
    (fuseHelperOptProc c env arg fuseOptKeyNonopt).1.mountpointStr = c.mountpointStr ∨
      (fuseHelperOptProc c env arg fuseOptKeyNonopt).1.mountpointStr =
        resolvedMountpoint env arg := by
  have hk : ¬(fuseOptKeyNonopt = keyHelp ∨ fuseOptKeyNonopt = keyHelpNoheader) ∧
      fuseOptKeyNonopt ≠ keyVersion := by decide
  simp only [fuseHelperOptProc, if_neg hk.1, if_neg hk.2, if_true, resolvedMountpoint]
  by_cases h0 : c.hopts.mountpoint = 0
  · simp only [if_pos h0]
    cases env.realpath arg with
    | ok r => exact addMountpoint_mountpointStr r
    | error e =>
      by_cases happle : env.platform = .apple
      · simp only [if_pos happle]; exact addMountpoint_mountpointStr arg
      · simp only [if_neg happle]; exact .inl rfl
  · simp only [if_neg h0]; exact .inl rfl

theorem callProc_mountpointStr {k : Int} (hk : k ≠ fuseOptKeyNonopt) :
    (c.callProc env arg k iso).1.mountpointStr = c.mountpointStr := by
  simp only [callProc, apply_ite (fun x : OptCtx × Int => x.1.mountpointStr),
    fuseHelperOptProc_mountpointStr hk, addOpt_mountpointStr, addArg_mountpointStr, ite_self]

theorem callProc_nonopt_mountpointStr :
    (c.callProc env arg fuseOptKeyNonopt false).1.mountpointStr = c.mountpointStr ∨
      (c.callProc env arg fuseOptKeyNonopt false).1.mountpointStr =
        resolvedMountpoint env arg := by
  have hk : fuseOptKeyNonopt ≠ fuseOptKeyDiscard ∧ fuseOptKeyNonopt ≠ fuseOptKeyKeep := by decide
  have he : (c.callProc env arg fuseOptKeyNonopt false).1.mountpointStr =
      (fuseHelperOptProc c env arg fuseOptKeyNonopt).1.mountpointStr := by
    simp only [callProc, if_neg hk.1, if_pos hk.2, apply_ite (fun x : OptCtx × Int =>
      x.1.mountpointStr), addArg_mountpointStr, Bool.false_eq_true, if_false, ite_self]
  rw [he]
  exact fuseHelperOptProc_nonopt_mountpointStr

/-- No template of the helper's table hands the processing function `FUSE_OPT_KEY_NONOPT`. -/
theorem findOpts_not_nonopt {m : FuseOpt × Nat} (hm : m ∈ findOpts arg) :
    m.1.target ≠ .key fuseOptKeyNonopt := by
  obtain ⟨o, ho, hm⟩ := List.mem_filterMap.mp hm
  obtain ⟨sep, -, rfl⟩ := Option.map_eq_some'.mp hm
  have htable : ∀ o ∈ fuseHelperOpts, o.target ≠ .key fuseOptKeyNonopt := by decide
  exact htable o ho

theorem processOpt_mountpointStr {o : FuseOpt} (ho : o.target ≠ .key fuseOptKeyNonopt)
    (sep : Nat) : (c.processOpt env o sep arg iso).1.mountpointStr = c.mountpointStr := by
  unfold processOpt
  split
  · next k hk => exact callProc_mountpointStr fun h => ho (hk.trans (h ▸ rfl))
  · rfl
  · exact setLoop_mountpointStr _

theorem processMatches_mountpointStr (ms : List (FuseOpt × Nat))
    (hms : ∀ m ∈ ms, m.1.target ≠ .key fuseOptKeyNonopt) :
    ∀ c : OptCtx, (processMatches env arg iso c ms).1.mountpointStr = c.mountpointStr := by
  induction ms with
  | nil => intro c; rfl
  | cons m ms ih =>
    intro c
    have hm := @processOpt_mountpointStr c env arg iso m.1 (hms m (List.mem_cons_self _ _)) m.2
    unfold processMatches
    split_ifs
    · exact hm
    · exact (ih (fun m' h => hms m' (List.mem_cons_of_mem _ h)) _).trans hm

@[simp] theorem processGopt_mountpointStr :
    (c.processGopt env arg iso).1.mountpointStr = c.mountpointStr := by
  unfold processGopt
  split
  · exact callProc_mountpointStr (by decide)
  · exact processMatches_mountpointStr _ (fun _ => findOpts_not_nonopt) c

theorem processGroupPieces_mountpointStr (ps : List (List Char)) :
    ∀ c : OptCtx, (processGroupPieces env c ps).1.mountpointStr = c.mountpointStr := by
  induction ps with
  | nil => intro c; rfl
  | cons p ps ih => intro c; unfold processGroupPieces; split_ifs <;> simp [ih]

@[simp] theorem processOptionGroup_mountpointStr (g : List Char) :
    (c.processOptionGroup env g).1.mountpointStr = c.mountpointStr := by
  unfold processOptionGroup; split_ifs <;> simp [processGroupPieces_mountpointStr]

theorem insertOpts_mountpointStr : (c.insertOpts env).1.mountpointStr = c.mountpointStr := by
  unfold insertOpts; split <;> (try split_ifs) <;> simp

end OptCtx

theorem optParseEnd_mountpointStr (c : OptCtx) (env : CmdlineEnv) :
    (optParseEnd c env).1.mountpointStr = c.mountpointStr := by
  simp only [optParseEnd]; split_ifs <;> exact OptCtx.insertOpts_mountpointStr

/-- The loop of `opt_parse` keeps the mount point, or sets it to the string kept for one of the
arguments it went over. -/
theorem optParseArgs_mountpointStr (env : CmdlineEnv) (args : List (List Char)) (c : OptCtx) :
    (optParseArgs env c args).1.mountpointStr = c.mountpointStr ∨
      ∃ a ∈ args, (optParseArgs env c args).1.mountpointStr = resolvedMountpoint env a :=
  optParseArgs_keeps env (fun x => x.mountpointStr = c.mountpointStr ∨
      ∃ a ∈ args, x.mountpointStr = resolvedMountpoint env a) args
    (fun x a ha hx => (@OptCtx.callProc_nonopt_mountpointStr x env a).elim
      (fun h => by dsimp only; rw [h]; exact hx) fun h => .inr ⟨a, ha, h⟩)
    (fun _ _ hx => by simpa using hx) (fun _ _ hx => by simpa using hx)
    (fun _ _ hx => by simpa using hx) (fun _ _ hx => hx) (fun _ _ hx => hx) args c
    (fun _ h => h) (.inl rfl)

/-- After the parse, the mount point is as it was, or the string kept for an argument after the
program's name. -/
theorem fuseOptParse_mountpointStr (env : CmdlineEnv) (args : List (List Char)) (c : OptCtx) :
    (fuseOptParse env args c).1.mountpointStr = c.mountpointStr ∨
      ∃ a ∈ args.tail, (fuseOptParse env args c).1.mountpointStr = resolvedMountpoint env a := by
  unfold fuseOptParse
  split
  · exact .inl rfl
  · next argv0 rest =>
    have hrun := optParseArgs_mountpointStr env rest (c.addArg env argv0).1
    rw [OptCtx.addArg_mountpointStr] at hrun
    split_ifs
    · exact .inl (OptCtx.addArg_mountpointStr argv0)
    · exact hrun
    · rwa [optParseEnd_mountpointStr]

/-! ## The mount point is the one non-option argument

Which arguments the loop of `opt_parse` hands to the processing function as non-options depends
on the arguments alone: the steps that handle options keep `ctx->nonopt`, and only a kept `--`
sets it. The processing function takes the first non-option argument as the mount point and
fails on a second, so a parse that succeeds met at most one. -/

/-- The arguments that the loop of `opt_parse` hands to the processing function as
`FUSE_OPT_KEY_NONOPT`: every argument once a `--` was kept (`sep`), and every one that does not
start with `-`; an `-o` with nothing after it takes the next argument as its group. -/
def nonoptArgs : Bool → List (List Char) → List (List Char)
  | _, [] => []
  | sep, arg :: rest =>
    if sep ∨ arg.head? ≠ some '-' then arg :: nonoptArgs sep rest
    else if arg[1]? = some 'o' ∧ arg.length ≤ 2 then
      match rest with
      | [] => []
      | _ :: rest' => nonoptArgs sep rest'
    else if arg = "--".toList then nonoptArgs true rest
    else nonoptArgs sep rest

theorem nonoptArgs_cons (sep : Bool) (arg : List Char) (rest : List (List Char)) :
    nonoptArgs sep (arg :: rest) =
      if sep ∨ arg.head? ≠ some '-' then arg :: nonoptArgs sep rest
      else if arg[1]? = some 'o' ∧ arg.length ≤ 2 then nonoptArgs sep rest.tail
      else if arg = "--".toList then nonoptArgs true rest
      else nonoptArgs sep rest := by
  cases rest <;> rfl

/-- An argument that starts with `-` before any `--` is an option, an `-o` that takes the next
argument, or the `--` itself. -/
theorem nonoptArgs_dash {arg : List Char} (hd : arg.head? = some '-') (rest : List (List Char)) :
    nonoptArgs false (arg :: rest) =
      if arg[1]? = some 'o' ∧ arg.length ≤ 2 then nonoptArgs false rest.tail
      else if arg = "--".toList then nonoptArgs true rest
      else nonoptArgs false rest := by
  simp [nonoptArgs_cons, hd]

namespace OptCtx

variable {c : OptCtx} {env : CmdlineEnv} {arg : List Char} {iso : Bool}

@[simp] theorem setNonopt_mountpointStr (n : Nat) :
    ({ c with nonopt := n } : OptCtx).mountpointStr = c.mountpointStr := rfl

@[simp] theorem addArg_nonopt (a : List Char) : (c.addArg env a).1.nonopt = c.nonopt := by
  simp only [addArg]; split_ifs <;> rfl

@[simp] theorem addOpt_nonopt (a : List Char) : (c.addOpt env a).1.nonopt = c.nonopt := by
  unfold addOpt; split_ifs <;> rfl

@[simp] theorem addMountpoint_nonopt (s : List Char) :
    (c.addMountpoint env s).1.nonopt = c.nonopt := by
  unfold addMountpoint; split_ifs <;> rfl

@[simp] theorem setLoop_nonopt (p : List Char) : (c.setLoop env p).1.nonopt = c.nonopt := by
  unfold setLoop; split_ifs <;> rfl

theorem fuseHelperOptProc_nonopt (k : Int) :
    (fuseHelperOptProc c env arg k).1.nonopt = c.nonopt := by
  rw [fuseHelperOptProc]
  by_cases hh : k = keyHelp ∨ k = keyHelpNoheader
  · rw [if_pos hh, addArg_nonopt]; split <;> rfl
  rw [if_neg hh]
  by_cases hv : k = keyVersion
  · rw [if_pos hv]; rfl
  rw [if_neg hv]
  by_cases hn : k = fuseOptKeyNonopt
  · rw [if_pos hn]
    by_cases h0 : c.hopts.mountpoint = 0
    · rw [if_pos h0]
      split
      · exact addMountpoint_nonopt _
      · split_ifs
        · exact addMountpoint_nonopt _
        · rfl
    · rw [if_neg h0]; rfl
  · rw [if_neg hn]

@[simp] theorem callProc_nonopt (k : Int) : (c.callProc env arg k iso).1.nonopt = c.nonopt := by
  simp only [callProc, apply_ite (fun x : OptCtx × Int => x.1.nonopt), fuseHelperOptProc_nonopt,
    addOpt_nonopt, addArg_nonopt, ite_self]

theorem processOpt_nonopt (o : FuseOpt) (sep : Nat) :
    (c.processOpt env o sep arg iso).1.nonopt = c.nonopt := by
  unfold processOpt; split <;> simp

theorem processMatches_nonopt (ms : List (FuseOpt × Nat)) :
    ∀ c : OptCtx, (processMatches env arg iso c ms).1.nonopt = c.nonopt := by
  induction ms with
  | nil => intro c; rfl
  | cons m ms ih => intro c; unfold processMatches; split_ifs <;> simp [ih, processOpt_nonopt]

@[simp] theorem processGopt_nonopt : (c.processGopt env arg iso).1.nonopt = c.nonopt := by
  unfold processGopt; split <;> simp [processMatches_nonopt]

theorem processGroupPieces_nonopt (ps : List (List Char)) :
    ∀ c : OptCtx, (processGroupPieces env c ps).1.nonopt = c.nonopt := by
  induction ps with
  | nil => intro c; rfl
  | cons p ps ih => intro c; unfold processGroupPieces; split_ifs <;> simp [ih]

@[simp] theorem processOptionGroup_nonopt (g : List Char) :
    (c.processOptionGroup env g).1.nonopt = c.nonopt := by
  unfold processOptionGroup; split_ifs <;> simp [processGroupPieces_nonopt, print, attempt]

/-- A kept argument leaves the vector non-empty, so a kept `--` sets `ctx->nonopt`. -/
theorem addArg_outargs_ne_nil (h : (c.addArg env arg).2 ≠ -1) :
    (c.addArg env arg).1.outargs.length ≠ 0 := by
  simp only [addArg] at h ⊢
  split_ifs at h ⊢ <;> simp_all [allocFailed]

theorem mountpointStr_eq_none : c.mountpointStr = none ↔ c.hopts.mountpoint = 0 := by
  unfold mountpointStr
  split_ifs with h0
  · simp [h0]
  · simp only [h0, iff_false, ← ne_eq, ← Option.isSome_iff_ne_none]
    exact (c.mountpoint_holds.resolve_left h0).2

theorem addMountpoint_ok {s : List Char} (h : (c.addMountpoint env s).2 ≠ -1) :
    (c.addMountpoint env s).1.mountpointStr = some s := by
  unfold addMountpoint at h ⊢
  split_ifs at h ⊢
  · exact absurd rfl h
  · simp [mountpointStr, StrHeap.dup, Nat.pos_iff_ne_zero.mp c.heap.next_pos]

theorem mountpointStr_eq_some {s : List Char} (h : c.mountpointStr = some s) :
    c.hopts.mountpoint ≠ 0 ∧ c.heap.strs c.hopts.mountpoint = some s := by
  unfold mountpointStr at h
  split_ifs at h with h0
  exact ⟨h0, h⟩

/-- `fuse_helper_opt_proc` answers a non-option argument with `0` or `-1`, never asking for the
argument to be kept. -/
theorem fuseHelperOptProc_nonopt_res :
    (fuseHelperOptProc c env arg fuseOptKeyNonopt).2 = -1 ∨
      (fuseHelperOptProc c env arg fuseOptKeyNonopt).2 = 0 := by
  have hk : ¬(fuseOptKeyNonopt = keyHelp ∨ fuseOptKeyNonopt = keyHelpNoheader) ∧
      fuseOptKeyNonopt ≠ keyVersion := by decide
  have ha : ∀ s, (c.addMountpoint env s).2 = -1 ∨ (c.addMountpoint env s).2 = 0 := by
    intro s; unfold addMountpoint; split_ifs <;> simp [allocFailed]
  simp only [fuseHelperOptProc, if_neg hk.1, if_neg hk.2, if_true]
  by_cases h0 : c.hopts.mountpoint = 0
  · rw [if_pos h0]
    cases env.realpath arg with
    | ok r => exact ha r
    | error e =>
      dsimp only
      by_cases happle : env.platform = .apple
      · rw [if_pos happle]; exact ha arg
      · rw [if_neg happle]; exact .inl rfl
  · rw [if_neg h0]; exact .inl rfl

theorem callProc_nonopt_eq :
    c.callProc env arg fuseOptKeyNonopt false = fuseHelperOptProc c env arg fuseOptKeyNonopt := by
  have hk : fuseOptKeyNonopt ≠ fuseOptKeyDiscard ∧ fuseOptKeyNonopt ≠ fuseOptKeyKeep := by decide
  simp only [callProc, if_neg hk.1, if_pos hk.2]
  exact if_pos ⟨hk.2, fuseHelperOptProc_nonopt_res⟩

/-- A non-option argument that the processing function accepts is the first: the mount point
was unset, and is now the string kept for the argument. -/
theorem callProc_nonopt_ok (h : (c.callProc env arg fuseOptKeyNonopt false).2 ≠ -1) :
    c.mountpointStr = none ∧ ∃ s, resolvedMountpoint env arg = some s ∧
      (c.callProc env arg fuseOptKeyNonopt false).1.mountpointStr = some s := by
  have hk : ¬(fuseOptKeyNonopt = keyHelp ∨ fuseOptKeyNonopt = keyHelpNoheader) ∧
      fuseOptKeyNonopt ≠ keyVersion := by decide
  rw [callProc_nonopt_eq] at h ⊢
  simp only [fuseHelperOptProc, if_neg hk.1, if_neg hk.2, if_true] at h ⊢
  by_cases h0 : c.hopts.mountpoint = 0
  · rw [if_pos h0] at h ⊢
    refine ⟨mountpointStr_eq_none.mpr h0, ?_⟩
    unfold resolvedMountpoint
    generalize env.realpath arg = rp at h ⊢
    cases rp with
    | ok r => exact ⟨r, rfl, addMountpoint_ok h⟩
    | error e =>
      dsimp only at h ⊢
      by_cases happle : env.platform = .apple
      · simp only [if_pos happle] at h ⊢; exact ⟨arg, rfl, addMountpoint_ok h⟩
      · rw [if_neg happle] at h; exact absurd rfl h
  · rw [if_neg h0] at h; exact absurd rfl h

end OptCtx

/-- What a run of the parser did to the mount point's string, from `m` to `m'`, read off the
non-option arguments it met: with none it is as it was; with one it was unset and is now the
string kept for that argument; a run that met two has not succeeded. -/
def MountpointFrom (env : CmdlineEnv) (m m' : Option (List Char)) : List (List Char) → Prop
  | [] => m' = m
  | [a] => m = none ∧ ∃ s, resolvedMountpoint env a = some s ∧ m' = some s
  | _ :: _ :: _ => False

theorem MountpointFrom.trans {env : CmdlineEnv} {m₁ m₂ m₃ : Option (List Char)} :
    ∀ {xs ys : List (List Char)}, MountpointFrom env m₁ m₂ xs → MountpointFrom env m₂ m₃ ys →
      MountpointFrom env m₁ m₃ (xs ++ ys)
  | [], [], h₁, h₂ => Eq.trans h₂ h₁
  | [], [_], h₁, ⟨h₀, s, hs, h₂⟩ => ⟨h₁.symm.trans h₀, s, hs, h₂⟩
  | [_], [], ⟨h₀, s, hs, h₁⟩, h₂ => ⟨h₀, s, hs, Eq.trans h₂ h₁⟩
  | [_], [_], ⟨_, _, _, h₁⟩, ⟨h₀, _⟩ => absurd (h₁.symm.trans h₀) (Option.some_ne_none _)
  | [], _ :: _ :: _, _, h => h.elim
  | [_], _ :: _ :: _, _, h => h.elim
  | _ :: _ :: _, _, h, _ => h.elim

/-- A step of the loop that keeps the mount point and `ctx->nonopt`, then the rest of the loop:
when the whole succeeds, the rest did what its non-option arguments say. -/
theorem optParseArgs_keep_step {env : CmdlineEnv} {c : OptCtx} {r : OptCtx × Int}
    {rest : List (List Char)} {sep : Bool}
    (ih : ∀ c' : OptCtx, (optParseArgs env c' rest).2 ≠ -1 →
      MountpointFrom env c'.mountpointStr (optParseArgs env c' rest).1.mountpointStr
        (nonoptArgs (c'.nonopt != 0) rest))
    (hm : r.1.mountpointStr = c.mountpointStr) (hn : (r.1.nonopt != 0) = sep)
    (h : (if r.2 = -1 then r else optParseArgs env r.1 rest).2 ≠ -1) :
    MountpointFrom env c.mountpointStr
      (if r.2 = -1 then r else optParseArgs env r.1 rest).1.mountpointStr (nonoptArgs sep rest) := by
  by_cases hp : r.2 = -1
  · rw [if_pos hp] at h; exact absurd hp h
  rw [if_neg hp] at h ⊢
  rw [← hm, ← hn]
  exact ih _ h

/-- The loop of `opt_parse`, when it succeeds, did to the mount point what the non-option
arguments it met say. -/
theorem optParseArgs_mountpointFrom (env : CmdlineEnv) :
    ∀ (args : List (List Char)) (c : OptCtx), (optParseArgs env c args).2 ≠ -1 →
      MountpointFrom env c.mountpointStr (optParseArgs env c args).1.mountpointStr
        (nonoptArgs (c.nonopt != 0) args)
  | [], _, _ => rfl
  | arg :: rest, c, h => by
    have ih := optParseArgs_mountpointFrom env rest
    rw [optParseArgs.eq_def] at h ⊢
    dsimp only at h ⊢
    by_cases hn : c.nonopt ≠ 0 ∨ arg.head? ≠ some '-'
    · -- a non-option argument: the processing function sets the mount point
      rw [if_pos hn] at h ⊢
      rw [nonoptArgs_cons, if_pos (hn.imp_left bne_iff_ne.mpr)]
      by_cases hp : (c.callProc env arg fuseOptKeyNonopt false).2 = -1
      · rw [if_pos hp] at h; exact absurd hp h
      rw [if_neg hp] at h ⊢
      have hrest := ih _ h
      rw [OptCtx.callProc_nonopt] at hrest
      exact @MountpointFrom.trans env _ _ _ [arg] _ (OptCtx.callProc_nonopt_ok hp) hrest
    obtain ⟨h0, hd⟩ : c.nonopt = 0 ∧ arg.head? = some '-' := by simpa [not_or] using hn
    have hkeep : ∀ x : OptCtx, x.nonopt = c.nonopt → (x.nonopt != 0) = false := by
      intro x hx; simp [hx, h0]
    rw [if_neg hn] at h ⊢
    rw [show (c.nonopt != 0) = false by simp [h0], nonoptArgs_dash hd]
    by_cases ho : arg[1]? = some 'o'
    · have hne : arg ≠ "--".toList := by rintro rfl; exact absurd ho (by decide)
      rw [if_pos ho] at h ⊢
      by_cases hl : 2 < arg.length
      · -- `-oopts`
        rw [if_pos hl] at h ⊢
        rw [if_neg fun h' : arg[1]? = some 'o' ∧ arg.length ≤ 2 => absurd h'.2 (by omega),
          if_neg hne]
        exact optParseArgs_keep_step ih (OptCtx.processOptionGroup_mountpointStr _)
          (hkeep _ (OptCtx.processOptionGroup_nonopt _)) h
      · -- `-o opts`
        rw [if_neg hl] at h ⊢
        rw [if_pos (⟨ho, by omega⟩ : arg[1]? = some 'o' ∧ arg.length ≤ 2)]
        cases rest with
        | nil => exact absurd rfl h
        | cons g rest' =>
          dsimp only at h ⊢
          exact optParseArgs_keep_step (optParseArgs_mountpointFrom env rest')
            (OptCtx.processOptionGroup_mountpointStr _)
            (hkeep _ (OptCtx.processOptionGroup_nonopt _)) h
    rw [if_neg ho] at h ⊢
    rw [if_neg fun h' : arg[1]? = some 'o' ∧ arg.length ≤ 2 => ho h'.1]
    by_cases hdd : arg = "--".toList
    · -- `--`: every later argument is a non-option
      simp only [if_pos hdd] at h ⊢
      by_cases hp : (c.addArg env arg).2 = -1
      · rw [if_pos hp] at h; exact absurd hp h
      rw [if_neg hp] at h ⊢
      have hrest := ih _ h
      simp only [OptCtx.setNonopt_mountpointStr, OptCtx.addArg_mountpointStr,
        bne_iff_ne.mpr (OptCtx.addArg_outargs_ne_nil hp)] at hrest
      exact hrest
    simp only [if_neg hdd] at h ⊢
    exact optParseArgs_keep_step ih OptCtx.processGopt_mountpointStr
      (hkeep _ OptCtx.processGopt_nonopt) h

/-- `fuse_opt_parse`, when it succeeds, did to the mount point what the non-option arguments
after the program's name say. -/
theorem fuseOptParse_mountpointFrom {env : CmdlineEnv} {args : List (List Char)} {c : OptCtx}
    (h : (fuseOptParse env args c).2 ≠ -1) :
    MountpointFrom env c.mountpointStr (fuseOptParse env args c).1.mountpointStr
      (nonoptArgs (c.nonopt != 0) args.tail) := by
  cases args with
  | nil => rfl
  | cons argv0 rest =>
    simp only [fuseOptParse] at h ⊢
    by_cases h1 : (c.addArg env argv0).2 = -1
    · rw [if_pos h1] at h; exact absurd h1 h
    rw [if_neg h1] at h ⊢
    by_cases h2 : (optParseArgs env (c.addArg env argv0).1 rest).2 = -1
    · rw [if_pos h2] at h; exact absurd h2 h
    rw [if_neg h2, optParseEnd_mountpointStr]
    have hrun := optParseArgs_mountpointFrom env rest _ h2
    rwa [OptCtx.addArg_mountpointStr, OptCtx.addArg_nonopt] at hrun

/-- All allocations succeed and `realpath` leaves a path as it is. -/
def plainCmdlineEnv : CmdlineEnv := ⟨.apple, fun _ => true, fun s => .ok s, "2.9.7"⟩

/-! ## The kept options survive `ctx->opts`

`add_opt` keeps each option of a group that the processing function does not take in
`ctx->opts`, escaped and after a `,`; `fuse_parse_cmdline` hands them on as `-o <opts>`, which
the next parse splits again with `process_option_group`. -/

theorem OptCtx.addOpt_opts {c : OptCtx} {env : CmdlineEnv} {o : List Char}
    (h : env.mallocOk c.tries = true) :
    (c.addOpt env o).1.opts = some (addOptEscaped (c.opts.getD []) o) := by
  simp [OptCtx.addOpt, OptCtx.attempt, h, addOptEscaped]

theorem OptCtx.foldl_addOpt_opts (env : CmdlineEnv) (hm : ∀ n, env.mallocOk n = true)
    (os : List (List Char)) : ∀ c : OptCtx, (os.foldl (fun c o => (c.addOpt env o).1) c).opts =
      os.foldl (fun acc o => some (addOptEscaped (acc.getD []) o)) c.opts := by
  induction os with
  | nil => intro c; rfl
  | cons o os ih => intro c; simp only [List.foldl_cons, ih, OptCtx.addOpt_opts (hm _)]

theorem foldl_some_addOptEscaped (os : List (List Char)) (x : List Char) :
    os.foldl (fun acc o => some (addOptEscaped (acc.getD []) o)) (some x) =
      some (os.foldl addOptEscaped x) := by
  induction os generalizing x with
  | nil => rfl
  | cons o os ih => exact ih _

/-- The options `add_opt` keeps in turn, from `NULL` and with every allocation succeeding, come
back out of `ctx->opts` when `process_option_group` splits it: all of them, except the empty
options before the first non-empty one, which `add_opt` writes without a `,` after them. -/
theorem add_opt_option_group_round_trip {env : CmdlineEnv} (hm : ∀ n, env.mallocOk n = true)
    {c : OptCtx} (hc : c.opts = none) {os : List (List Char)} (hos : os ≠ []) :
    (os.foldl (fun c o => (c.addOpt env o).1) c).opts.map splitOptionGroup =
      some (if os.all List.isEmpty then [[]] else os.dropWhile List.isEmpty) := by
  obtain ⟨o, os, rfl⟩ := List.exists_cons_of_ne_nil hos
  obtain ⟨-, ps, cur, hscan, hsplit⟩ := scan_foldl_addOptEscaped (o :: os)
  rw [OptCtx.foldl_addOpt_opts env hm, hc, List.foldl_cons, Option.getD_none,
    foldl_some_addOptEscaped, Option.map_some', splitOptionGroup]
  rw [List.foldl_cons] at hscan
  rw [hscan]
  exact congrArg some hsplit

theorem add_opt_option_group_round_trip_example :
    (∀ n, plainCmdlineEnv.mallocOk n = true) ∧ (OptCtx.init StrHeap.empty).opts = none ∧
      [[], "ro".toList, "fsname=a,b".toList] ≠ [] ∧
      (([[], "ro".toList, "fsname=a,b".toList] : List (List Char)).foldl
          (fun c o => (c.addOpt plainCmdlineEnv o).1) (OptCtx.init StrHeap.empty)).opts.map
        splitOptionGroup = some ["ro".toList, "fsname=a,b".toList] :=
  ⟨fun _ => rfl, rfl, List.cons_ne_nil _ _, @add_opt_option_group_round_trip plainCmdlineEnv
    (fun _ => rfl) _ rfl [[], "ro".toList, "fsname=a,b".toList] (List.cons_ne_nil _ _)⟩

/-! ## What the parse does to the helper's strings

A step of the parser leaves the helper's two strings alone, makes the mount point while it is
unset, or replaces the `loop` value and frees the old one. A whole parse is a sequence of such
steps, so every string it allocated and has not freed is the mount point or the `loop` value. -/

namespace OptCtx

open Relation

/-- What one step of the parser does to the helper's strings. -/
inductive StrStep (c c' : OptCtx) : Prop where
  /-- The heap and both pointers stay. -/
  | keep (hh : c'.heap = c.heap) (hm : c'.hopts.mountpoint = c.hopts.mountpoint)
      (hl : c'.hopts.loop = c.hopts.loop)
  /-- `fuse_opt_add_opt(&hopts->mountpoint, s)` while the mount point is `NULL`. -/
  | mountpoint (s : List Char) (h0 : c.hopts.mountpoint = 0) (hh : c'.heap = c.heap.dup s)
      (hm : c'.hopts.mountpoint = c.heap.next) (hl : c'.hopts.loop = c.hopts.loop)
  /-- A copy of `s` becomes the `loop` value, and the old one is freed. -/
  | loop (s : List Char) (hh : c'.heap = (c.heap.dup s).free c.hopts.loop)
      (hm : c'.hopts.mountpoint = c.hopts.mountpoint) (hl : c'.hopts.loop = c.heap.next)

variable {c c' : OptCtx} {env : CmdlineEnv} {arg : List Char} {iso : Bool}

theorem StrStep.of_eq (hh : c'.heap = c.heap) (ho : c'.hopts = c.hopts) : StrStep c c' :=
  .keep hh (by rw [ho]) (by rw [ho])

@[simp] theorem addArg_hopts (a : List Char) : (c.addArg env a).1.hopts = c.hopts := by
  simp only [addArg]; split_ifs <;> rfl

theorem attempt_strStep : StrStep c (c.attempt env).1 := .of_eq rfl rfl

theorem addArg_strStep (a : List Char) : StrStep c (c.addArg env a).1 :=
  .of_eq (addArg_heap a) (addArg_hopts a)

theorem addOpt_strStep (a : List Char) : StrStep c (c.addOpt env a).1 :=
  .of_eq (addOpt_heap a) (by unfold addOpt; split_ifs <;> rfl)

theorem addMountpoint_strStep (h0 : c.hopts.mountpoint = 0) (s : List Char) :
    StrStep c (c.addMountpoint env s).1 := by
  unfold addMountpoint
  split_ifs
  · exact .of_eq rfl rfl
  · exact .mountpoint s h0 rfl rfl rfl

theorem setLoop_strStep (s : List Char) : StrStep c (c.setLoop env s).1 := by
  unfold setLoop
  split_ifs
  · exact .of_eq rfl rfl
  · exact .loop s rfl rfl rfl

/-- The processing function touches the strings only to make the mount point, and only while it
is unset. -/
theorem fuseHelperOptProc_strStep (k : Int) : StrStep c (fuseHelperOptProc c env arg k).1 := by
  unfold fuseHelperOptProc
  by_cases hhelp : k = keyHelp ∨ k = keyHelpNoheader
  · rw [if_pos hhelp]
    split_ifs <;> exact .of_eq (addArg_heap _) (addArg_hopts _)
  rw [if_neg hhelp]
  by_cases hver : k = keyVersion
  · rw [if_pos hver]; exact .of_eq rfl rfl
  rw [if_neg hver]
  by_cases hnon : k = fuseOptKeyNonopt
  · rw [if_pos hnon]
    by_cases h0 : c.hopts.mountpoint = 0
    · rw [if_pos h0]
      cases env.realpath arg with
      | ok r => exact addMountpoint_strStep h0 r
      | error e =>
        by_cases happle : env.platform = .apple
        · simp only [if_pos happle]; exact addMountpoint_strStep h0 arg
        · simp only [if_neg happle]; exact .of_eq rfl rfl
    · rw [if_neg h0]; exact .of_eq rfl rfl
  · rw [if_neg hnon]; exact .of_eq rfl rfl

theorem callProc_strSteps (k : Int) : ReflTransGen StrStep c (c.callProc env arg k iso).1 := by
  have hr : ReflTransGen StrStep c
      (if k ≠ fuseOptKeyKeep then fuseHelperOptProc c env arg k else (c, 1)).1 := by
    split_ifs
    · exact .single (fuseHelperOptProc_strStep k)
    · exact .refl
  unfold callProc
  dsimp only
  generalize (if k ≠ fuseOptKeyKeep then fuseHelperOptProc c env arg k else (c, 1)) = r at hr
  split_ifs
  · exact .refl
  · exact hr
  · exact hr.tail (addOpt_strStep arg)
  · exact hr.tail (addArg_strStep arg)

theorem processOpt_strSteps (o : FuseOpt) (sep : Nat) :
    ReflTransGen StrStep c (c.processOpt env o sep arg iso).1 := by
  unfold processOpt
  split
  · exact callProc_strSteps _
  · exact .single (.keep rfl rfl rfl)
  · exact .single (setLoop_strStep _)

theorem processMatches_strSteps (ms : List (FuseOpt × Nat)) :
    ∀ c : OptCtx, ReflTransGen StrStep c (processMatches env arg iso c ms).1 := by
  induction ms with
  | nil => intro c; exact .refl
  | cons m ms ih =>
    intro c
    unfold processMatches
    split_ifs
    · exact processOpt_strSteps m.1 m.2
    · exact (processOpt_strSteps m.1 m.2).trans (ih _)

theorem processGopt_strSteps : ReflTransGen StrStep c (c.processGopt env arg iso).1 := by
  unfold processGopt
  split
  · exact callProc_strSteps _
  · exact processMatches_strSteps _ c

theorem processGroupPieces_strSteps (ps : List (List Char)) :
    ∀ c : OptCtx, ReflTransGen StrStep c (processGroupPieces env c ps).1 := by
  induction ps with
  | nil => intro c; exact .refl
  | cons p ps ih =>
    intro c
    unfold processGroupPieces
    split_ifs
    · exact processGopt_strSteps
    · exact processGopt_strSteps.trans (ih _)

theorem processOptionGroup_strSteps (g : List Char) :
    ReflTransGen StrStep c (c.processOptionGroup env g).1 := by
  unfold processOptionGroup
  split_ifs
  · exact .single (.of_eq rfl rfl)
  · exact .head attempt_strStep (processGroupPieces_strSteps _ _)

theorem insertArg_hopts (pos : Nat) (a : List Char) : (c.insertArg env pos a).1.hopts = c.hopts := by
  unfold insertArg; split_ifs <;> exact addArg_hopts a

theorem insertOpts_hopts : (c.insertOpts env).1.hopts = c.hopts := by
  unfold insertOpts
  split
  · rfl
  · split_ifs
    · exact insertArg_hopts 1 _
    · exact (insertArg_hopts 2 _).trans (insertArg_hopts 1 _)

end OptCtx

open Relation in
theorem optParseArgs_strSteps (env : CmdlineEnv) (args : List (List Char)) (c : OptCtx) :
    ReflTransGen OptCtx.StrStep c (optParseArgs env c args).1 :=
  optParseArgs_keeps env (ReflTransGen OptCtx.StrStep c) args
    (fun _ _ _ h => h.trans (OptCtx.callProc_strSteps _))
    (fun _ _ h => h.trans (OptCtx.processOptionGroup_strSteps _))
    (fun _ _ h => h.trans OptCtx.processGopt_strSteps)
    (fun _ _ h => h.tail (OptCtx.addArg_strStep _)) (fun _ _ h => h.tail (.of_eq rfl rfl))
    (fun _ _ h => h.tail (.of_eq rfl rfl)) args c (fun _ h => h) .refl

open Relation in
/-- A whole parse is a sequence of steps on the helper's strings. -/
theorem fuseOptParse_strSteps (env : CmdlineEnv) (args : List (List Char)) (c : OptCtx) :
    ReflTransGen OptCtx.StrStep c (fuseOptParse env args c).1 := by
  cases args with
  | nil => exact .refl
  | cons argv0 rest =>
    have hrun := ReflTransGen.head (OptCtx.addArg_strStep argv0)
      (optParseArgs_strSteps env rest (c.addArg env argv0).1)
    simp only [fuseOptParse]
    split_ifs
    · exact .single (OptCtx.addArg_strStep _)
    · exact hrun
    · refine hrun.tail ?_
      simp only [optParseEnd]
      split_ifs <;> exact .of_eq (OptCtx.insertOpts_heap _ env) OptCtx.insertOpts_hopts

namespace OptCtx

/-- Every string allocated from `base` on that is still live is the mount point or the `loop`
value. -/
def Owns (c : OptCtx) (base : Nat) : Prop :=
  ∀ p, base ≤ p → p < c.heap.next → (c.heap.strs p).isSome →
    p = c.hopts.mountpoint ∨ p = c.hopts.loop

variable {c c' : OptCtx} {base : Nat}

/-- Before the parse allocates, it owns nothing from the heap's next address on. -/
theorem owns_next (c : OptCtx) : c.Owns c.heap.next := fun _ hp hlt => absurd hlt (by omega)

theorem StrStep.owns (hs : StrStep c c') (hb : 0 < base) (ho : c.Owns base) : c'.Owns base := by
  intro p hp hlt hlive
  cases hs with
  | keep hh hm hl =>
    rw [hh] at hlt hlive
    rw [hm, hl]
    exact ho p hp hlt hlive
  | mountpoint s h0 hh hm hl =>
    rw [hh] at hlt hlive
    rw [hm, hl]
    by_cases hn : p = c.heap.next
    · exact .inl hn
    · rw [StrHeap.dup_strs_of_ne hn] at hlive
      rcases ho p hp (by simp [StrHeap.dup] at hlt; omega) hlive with h | h
      · omega
      · exact .inr h
  | loop s hh hm hl =>
    rw [hh] at hlt hlive
    rw [hm, hl]
    by_cases hn : p = c.heap.next
    · exact .inr hn
    by_cases hold : p = c.hopts.loop
    · rw [hold, StrHeap.free_strs_self (by omega)] at hlive
      exact absurd hlive (by simp)
    rw [StrHeap.free_strs_of_ne hold, StrHeap.dup_strs_of_ne hn] at hlive
    rcases ho p hp (by simp [StrHeap.dup] at hlt; omega) hlive with h | h
    · exact .inl h
    · exact absurd h hold

theorem StrSteps.owns (hs : Relation.ReflTransGen StrStep c c') (hb : 0 < base) (ho : c.Owns base) :
    c'.Owns base := by
  induction hs with
  | refl => exact ho
  | tail _ step ih => exact step.owns hb ih

/-- From `base` on, the owned strings that are live are exactly the set pointers. -/
theorem Owns.live_iff (ho : c.Owns base) (hb : 0 < base) {p : Nat} (hp : base ≤ p)
    (hlt : p < c.heap.next) :
    (c.heap.strs p).isSome ↔ p = c.hopts.mountpoint ∨ p = c.hopts.loop := by
  refine ⟨ho p hp hlt, ?_⟩
  rintro (rfl | rfl)
  · exact (c.mountpoint_holds.resolve_left (by omega)).2
  · exact (c.loop_holds.resolve_left (by omega)).2

/-- The error path of `fuse_parse_cmdline` frees every owned string, also when the mount point
was freed once already. -/
theorem Owns.free_both (ho : c.Owns base) (hb : 0 < base) {p : Nat} (hp : base ≤ p)
    (hlt : p < c.heap.next) {h : StrHeap}
    (hh : h = c.heap ∨ h = c.heap.free c.hopts.mountpoint) :
    ((h.free c.hopts.loop).free c.hopts.mountpoint).strs p = none := by
  by_cases hm : p = c.hopts.mountpoint
  · rw [hm, StrHeap.free_strs_self (by omega)]
  rw [StrHeap.free_strs_of_ne hm]
  by_cases hl : p = c.hopts.loop
  · rw [hl, StrHeap.free_strs_self (by omega)]
  have hc : h.strs p = c.heap.strs p := by
    rcases hh with rfl | rfl
    · rfl
    · exact StrHeap.free_strs_of_ne hm
  rw [StrHeap.free_strs_of_ne hl, hc, ← Option.not_isSome_iff_eq_none]
  exact fun hlive => (ho p hp hlt hlive).elim hm hl

/-- The parse has left the strings below the caller's next address alone, and its two pointers
are `NULL` or at that address or above. -/
structure Above (c : OptCtx) (heap : StrHeap) : Prop where
  next_le : heap.next ≤ c.heap.next
  strs_eq : ∀ q < heap.next, c.heap.strs q = heap.strs q
  mountpoint : c.hopts.mountpoint = 0 ∨ heap.next ≤ c.hopts.mountpoint
  loop : c.hopts.loop = 0 ∨ heap.next ≤ c.hopts.loop

theorem init_above (heap : StrHeap) : (OptCtx.init heap).Above heap :=
  ⟨le_rfl, fun _ _ => rfl, .inl rfl, .inl rfl⟩

theorem StrStep.above {heap : StrHeap} (hs : StrStep c c') (ha : c.Above heap) :
    c'.Above heap := by
  have hle := ha.next_le
  cases hs with
  | keep hh hm hl =>
    exact ⟨hh ▸ hle, fun q hq => hh ▸ ha.strs_eq q hq, hm ▸ ha.mountpoint, hl ▸ ha.loop⟩
  | mountpoint s h0 hh hm hl =>
    refine ⟨by rw [hh]; exact Nat.le_succ_of_le hle, fun q hq => ?_, .inr (hm ▸ hle),
      hl ▸ ha.loop⟩
    rw [hh, StrHeap.dup_strs_of_ne (by omega)]
    exact ha.strs_eq q hq
  | loop s hh hm hl =>
    refine ⟨by rw [hh, StrHeap.free_next]; exact Nat.le_succ_of_le hle, fun q hq => ?_,
      hm ▸ ha.mountpoint, .inr (hl ▸ hle)⟩
    rw [hh, StrHeap.free_strs_below ha.loop hq, StrHeap.dup_strs_of_ne (by omega)]
    exact ha.strs_eq q hq

theorem StrSteps.above {heap : StrHeap} (hs : Relation.ReflTransGen StrStep c c')
    (ha : c.Above heap) : c'.Above heap := by
  induction hs with
  | refl => exact ha
  | tail _ step ih => exact step.above ih

end OptCtx

end MacFuse
