import Mathlib.Data.List.Basic

/-!
# Resource paths

`fuse_resource_path` (`fuse_darwin.c`) resolves a path that starts with `@executable_path/` or
`@loader_path/` against the directory of the running executable or of the loaded library, and
copies any other path. The directory is `dirname` of what `realpath` makes of the executable's or
the library's path; `dirname` is modelled as the C library computes it.

The results: a resolved path is the directory, a `/` and the rest of the input; it is absolute
when `realpath` gives absolute paths; and for the canonical paths `realpath` gives, the
directory is the resolved base less its last component, `/` for a base in the root directory.
-/

namespace MacFuse

/-- `MAXPATHLEN`. -/
def maxPathLen : Nat := 1024

/-- `EXECUTABLE_PATH`. -/
def executablePathPrefix : List Char := "@executable_path/".toList

/-- `LOADER_PATH`. -/
def loaderPathPrefix : List Char := "@loader_path/".toList

/-- The path without its trailing `/`s. -/
def dropTrailingSlashes (s : List Char) : List Char := (s.reverse.dropWhile (· = '/')).reverse

/-- `dirname(path)` as the C library computes it: the path up to its last component, less the
`/`s before that component. A path with no `/` after its first character gives `.`, or `/` when
that first character is `/`; the first character is never dropped. `NULL` when the result does
not fit in `MAXPATHLEN`. -/
def dirname : List Char → Option (List Char)
  | [] => some ['.']
  | c :: cs =>
    match (dropTrailingSlashes cs).reverse.dropWhile (· ≠ '/') with
    | [] => some [if c = '/' then '/' else '.']
    | _ :: before =>
      if maxPathLen ≤ (c :: dropTrailingSlashes before.reverse).length then none
      else some (c :: dropTrailingSlashes before.reverse)

/-- What `fuse_resource_path` depends on: the running executable's path (`_NSGetExecutablePath`
fails when it does not fit in `MAXPATHLEN`), the library's path as `dladdr` reports it (`none`
when `dladdr` fails), `realpath` (`none` when it fails), and whether `malloc` succeeds.
`realpath` writes into a `MAXPATHLEN` buffer, so what it returns is shorter. -/
structure ResourceEnv where
  executablePath : List Char
  dladdr : Option (List Char)
  realpath : List Char → Option (List Char)
  mallocOk : Bool
  realpath_lt : ∀ p r, realpath p = some r → r.length < maxPathLen

/-- The end of `fuse_resource_path` for a prefixed path: `realpath` of the base path, its
`dirname`, and `asprintf(&resource_path, "%s/%s", base_dir, relative_path)`. -/
def resolveResource (env : ResourceEnv) (basePath relativePath : List Char) :
    Option (List Char) := do
  let real ← env.realpath basePath
  let baseDir ← dirname real
  if env.mallocOk then some (baseDir ++ '/' :: relativePath) else none

/-- `fuse_resource_path(path)`, `none` for `NULL`. The library's path is copied with
`strncpy` into a `MAXPATHLEN` buffer whose last byte is then cleared. -/
def fuseResourcePath (env : ResourceEnv) (path : List Char) : Option (List Char) :=
  if executablePathPrefix.isPrefixOf path then
    if env.executablePath.length < maxPathLen then
      resolveResource env env.executablePath (path.drop executablePathPrefix.length)
    else none
  else if loaderPathPrefix.isPrefixOf path then
    match env.dladdr with
    | none => none
    | some fname =>
      resolveResource env (fname.take (maxPathLen - 1)) (path.drop loaderPathPrefix.length)
  else if env.mallocOk then some path else none

/-! ## `dirname` -/

theorem dropTrailingSlashes_of_getLast {s : List Char} (h : s.getLast? ≠ some '/') :
    dropTrailingSlashes s = s := by
  unfold dropTrailingSlashes
  rw [← List.head?_reverse] at h
  cases hr : s.reverse with
  | nil => simp [List.reverse_eq_nil_iff.mp hr]
  | cons x r =>
    rw [hr] at h
    rw [List.dropWhile_cons_of_neg (by simpa using h), ← hr, List.reverse_reverse]

/-- `dirname` keeps the first character: of an absolute path it gives an absolute path. -/
theorem dirname_head {p d : List Char} (h : dirname p = some d) (hp : p.head? = some '/') :
    d.head? = some '/' := by
  cases p with
  | nil => simp at hp
  | cons c cs =>
    obtain rfl : c = '/' := by simpa using hp
    simp only [dirname] at h
    split at h
    · cases h; rfl
    · split_ifs at h; cases h; rfl

/-- Of a canonical path `d/name`, `dirname` gives `d`, or `/` when `d` is empty. -/
theorem dirname_append {d name : List Char} (hname : name ≠ []) (hslash : '/' ∉ name)
    (hd : d.getLast? ≠ some '/') (hlen : d.length < maxPathLen) :
    dirname (d ++ '/' :: name) = some (if d = [] then ['/'] else d) := by
  obtain ⟨y, hy⟩ : ∃ y, name.getLast? = some y :=
    Option.isSome_iff_exists.mp (by simpa [List.getLast?_isSome] using hname)
  have hy' : y ≠ '/' := fun h => hslash (h ▸ List.mem_of_getLast?_eq_some hy)
  have hlast : name.getLast? ≠ some '/' := by rw [hy]; simpa using hy'
  have hskip : ∀ m : List Char,
      (name.reverse ++ m).dropWhile (· ≠ '/') = m.dropWhile (· ≠ '/') := by
    intro m
    refine List.dropWhile_append_of_pos fun x hx => ?_
    simp only [ne_eq, decide_eq_true_eq]
    rintro rfl
    exact hslash (List.mem_reverse.mp hx)
  cases d with
  | nil =>
    -- `/name`: no `/` after the first character
    have hnil : name.reverse.dropWhile (· ≠ '/') = [] := by simpa using hskip []
    simp only [List.nil_append, dirname, dropTrailingSlashes_of_getLast hlast, hnil]
    rfl
  | cons c d' =>
    have hd' : dropTrailingSlashes d' = d' := by
      cases hl : d'.getLast? with
      | none => rw [List.getLast?_eq_none_iff.mp hl]; rfl
      | some y =>
        refine dropTrailingSlashes_of_getLast fun h => hd ?_
        rw [List.getLast?_cons, hl, ← h, hl]
        rfl
    have hcs : dropTrailingSlashes (d' ++ '/' :: name) = d' ++ '/' :: name :=
      dropTrailingSlashes_of_getLast (by simp [List.getLast?_append, List.getLast?_cons, hy, hy'])
    have hrev : (d' ++ '/' :: name).reverse.dropWhile (· ≠ '/') = '/' :: d'.reverse := by
      rw [List.reverse_append, List.reverse_cons, List.append_assoc, List.singleton_append,
        hskip, List.dropWhile_cons_of_neg (by simp)]
    simp only [List.cons_append, dirname, hcs, hrev, List.reverse_reverse, hd']
    rw [if_neg (by simpa using hlen)]
    simp

/-! ## `fuse_resource_path` -/

theorem resolveResource_of_realpath {env : ResourceEnv} {base d name : List Char}
    (rel : List Char) (hreal : env.realpath base = some (d ++ '/' :: name)) (hname : name ≠ [])
    (hslash : '/' ∉ name) (hd : d.getLast? ≠ some '/') :
    resolveResource env base rel =
      if env.mallocOk then some ((if d = [] then ['/'] else d) ++ '/' :: rel) else none := by
  have hlen := env.realpath_lt _ _ hreal
  simp only [List.length_append, List.length_cons] at hlen
  simp [resolveResource, hreal, dirname_append hname hslash hd (by omega)]

/-- An `@executable_path/` path resolves against the directory that holds the executable: when
`realpath` makes of the executable's path `d/name`, `fuse_resource_path` gives `d/rel`, or
`//rel` for an executable in the root directory; it gives `NULL` only when `malloc` fails. -/
theorem fuse_resource_path_executable {env : ResourceEnv} {d name : List Char} (rel : List Char)
    (hfit : env.executablePath.length < maxPathLen)
    (hreal : env.realpath env.executablePath = some (d ++ '/' :: name)) (hname : name ≠ [])
    (hslash : '/' ∉ name) (hd : d.getLast? ≠ some '/') :
    fuseResourcePath env (executablePathPrefix ++ rel) =
      if env.mallocOk then some ((if d = [] then ['/'] else d) ++ '/' :: rel) else none := by
  rw [fuseResourcePath, if_pos (List.isPrefixOf_iff_prefix.mpr (List.prefix_append _ _)),
    if_pos hfit, List.drop_left]
  exact resolveResource_of_realpath rel hreal hname hslash hd

/-- The executable is `/Applications/Foo.app/Contents/MacOS/foo`, and `realpath` leaves an
absolute path that fits as it is and fails on any other. -/
def appResourceEnv : ResourceEnv where
  executablePath := "/Applications/Foo.app/Contents/MacOS/foo".toList
  dladdr := none
  realpath p := if p.head? = some '/' ∧ p.length < maxPathLen then some p else none
  mallocOk := true
  realpath_lt p r h := by
    dsimp only at h
    split_ifs at h with hp
    cases h
    exact hp.2

theorem appResourceEnv_absolute (p r : List Char) (h : appResourceEnv.realpath p = some r) :
    r.head? = some '/' := by
  simp only [appResourceEnv] at h
  split_ifs at h with hp
  cases h
  exact hp.1

theorem fuse_resource_path_executable_example :
    appResourceEnv.executablePath.length < maxPathLen ∧
      appResourceEnv.realpath appResourceEnv.executablePath =
        some ("/Applications/Foo.app/Contents/MacOS".toList ++ '/' :: "foo".toList) ∧
      "foo".toList ≠ [] ∧ '/' ∉ "foo".toList ∧
      "/Applications/Foo.app/Contents/MacOS".toList.getLast? ≠ some '/' ∧
      fuseResourcePath appResourceEnv (executablePathPrefix ++ "../Resources/icon".toList) =
        some "/Applications/Foo.app/Contents/MacOS/../Resources/icon".toList :=
  ⟨by decide, by decide, by decide, by decide, by decide,
    (@fuse_resource_path_executable appResourceEnv "/Applications/Foo.app/Contents/MacOS".toList
      "foo".toList "../Resources/icon".toList (by decide) (by decide) (by decide) (by decide)
      (by decide)).trans (by decide)⟩

/-- What `fuse_resource_path` builds from a base it resolves: the directory `dirname` made of
the base's `realpath`, a `/`, and the rest of the input. -/
theorem resolveResource_shape {env : ResourceEnv} {base rel r : List Char}
    (h : resolveResource env base rel = some r) :
    ∃ real dir, env.realpath base = some real ∧ dirname real = some dir ∧
      r = dir ++ '/' :: rel := by
  unfold resolveResource at h
  cases hr : env.realpath base with
  | none => simp [hr] at h
  | some real =>
    cases hd : dirname real with
    | none => simp [hr, hd] at h
    | some dir =>
      simp only [hr, hd, Option.bind_eq_bind, Option.some_bind] at h
      split_ifs at h
      cases h
      exact ⟨real, dir, rfl, hd, rfl⟩

/-- A path that starts with `@executable_path/` or `@loader_path/` comes back, when it comes
back, as a directory, a `/` and the rest of the input, the directory being what `dirname` made
of a path `realpath` gave. When `realpath` gives absolute paths, that directory is absolute, so
the prefix never survives. -/
theorem fuse_resource_path_absolute {env : ResourceEnv} {pre rel r : List Char}
    (hpre : pre = executablePathPrefix ∨ pre = loaderPathPrefix)
    (h : fuseResourcePath env (pre ++ rel) = some r) :
    ∃ dir, r = dir ++ '/' :: rel ∧
      (∃ p real, env.realpath p = some real ∧ dirname real = some dir) ∧
      ((∀ p r, env.realpath p = some r → r.head? = some '/') → dir.head? = some '/') := by
  have hres : ∃ base, resolveResource env base rel = some r := by
    rcases hpre with rfl | rfl
    · rw [fuseResourcePath, if_pos (List.isPrefixOf_iff_prefix.mpr (List.prefix_append _ _)),
        List.drop_left] at h
      split_ifs at h
      exact ⟨_, h⟩
    · have hne : executablePathPrefix.isPrefixOf (loaderPathPrefix ++ rel) = false := rfl
      rw [fuseResourcePath, hne, if_neg Bool.false_ne_true,
        if_pos (List.isPrefixOf_iff_prefix.mpr (List.prefix_append _ _)), List.drop_left] at h
      split at h
      · cases h
      · exact ⟨_, h⟩
  obtain ⟨base, hb⟩ := hres
  obtain ⟨real, dir, hr, hd, rfl⟩ := resolveResource_shape hb
  exact ⟨dir, rfl, ⟨base, real, hr, hd⟩, fun habs => dirname_head hd (habs _ _ hr)⟩

theorem fuse_resource_path_absolute_example :
    (executablePathPrefix = executablePathPrefix ∨ executablePathPrefix = loaderPathPrefix) ∧
      fuseResourcePath appResourceEnv (executablePathPrefix ++ "../Resources/icon".toList) =
        some "/Applications/Foo.app/Contents/MacOS/../Resources/icon".toList ∧
      ∃ dir, "/Applications/Foo.app/Contents/MacOS/../Resources/icon".toList =
          dir ++ '/' :: "../Resources/icon".toList ∧
        (∃ p real, appResourceEnv.realpath p = some real ∧ dirname real = some dir) ∧
        ((∀ p r, appResourceEnv.realpath p = some r → r.head? = some '/') →
          dir.head? = some '/') :=
  ⟨.inl rfl, by decide,
    @fuse_resource_path_absolute appResourceEnv executablePathPrefix
      "../Resources/icon".toList _ (.inl rfl) (by decide)⟩

end MacFuse
