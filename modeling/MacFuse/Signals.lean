import MacFuse.Session

/-!
# Signal handlers

`fuse_signals.c` routes `SIGHUP`, `SIGINT` and `SIGTERM` to `exit_handler` and ignores
`SIGPIPE` while a session is registered in the file-static `fuse_instance`. The other build
installs `exit_handler` as the signals' handler; the Apple build ignores the signals and
listens for them with one dispatch source each, kept in `fuse_unmount_sources`. Both builds
install a handler only over `SIG_DFL` and take it away only when it is still the one they
install, so that an application's own handlers survive.

`sigaction` fails only for an invalid signal or a bad pointer, so on these four signals it always
succeeds and the `-1` returns of `set_one_signal_handler` are not reachable.
-/

namespace MacFuse

/-- `SIGHUP`. -/
def sighup : Nat := 1

/-- `SIGINT`. -/
def sigint : Nat := 2

/-- `SIGPIPE`. -/
def sigpipe : Nat := 13

/-- `SIGTERM`. -/
def sigterm : Nat := 15

/-- A disposition's `sa_handler`: `SIG_DFL`, `SIG_IGN`, the library's `exit_handler`, or a
handler of the application's at address `fn`. -/
inductive Handler where
  | dfl
  | ign
  | exitHandler
  | app (fn : Nat)
  deriving DecidableEq, Repr

/-- `fuse_unmount_signals`. -/
def fuseUnmountSignals : Fin 3 → Nat
  | 0 => sighup
  | 1 => sigint
  | 2 => sigterm

/-- What the signal functions read and write: the disposition of every signal, the file-static
`fuse_instance` and `fuse_unmount_sources` (`0` is `NULL`), and the lines written to
`stderr`. -/
structure SigState where
  disposition : Nat → Handler
  fuseInstance : Nat
  fuseUnmountSources : Fin 3 → Nat
  stderr : List String

/-- `set_one_signal_handler(sig, handler, remove)`: install `handler` over `SIG_DFL`, or, when
removing, put `SIG_DFL` back over `handler`; any other disposition stays. -/
def SigState.setOneSignalHandler (st : SigState) (sig : Nat) (handler : Handler) (remove : Bool) :
    SigState :=
  if st.disposition sig = (if remove then handler else .dfl) then
    { st with disposition := Function.update st.disposition sig (if remove then .dfl else handler) }
  else st

/-- The disposition `set_one_signal_handler(sig, handler, remove)` leaves for a signal that had
`old`. -/
def swapHandler (old handler : Handler) (remove : Bool) : Handler :=
  if old = (if remove then handler else .dfl) then (if remove then .dfl else handler) else old

section SetOne

variable (st : SigState) (sig : Nat) (handler : Handler) (remove : Bool)

@[simp] theorem SigState.setOneSignalHandler_disposition (x : Nat) :
    (st.setOneSignalHandler sig handler remove).disposition x =
      if x = sig then swapHandler (st.disposition sig) handler remove else st.disposition x := by
  unfold SigState.setOneSignalHandler swapHandler
  by_cases hx : x = sig <;> split_ifs <;> simp_all [Function.update_apply]

@[simp] theorem SigState.setOneSignalHandler_fuseInstance :
    (st.setOneSignalHandler sig handler remove).fuseInstance = st.fuseInstance := by
  unfold SigState.setOneSignalHandler; split_ifs <;> rfl

@[simp] theorem SigState.setOneSignalHandler_fuseUnmountSources :
    (st.setOneSignalHandler sig handler remove).fuseUnmountSources = st.fuseUnmountSources := by
  unfold SigState.setOneSignalHandler; split_ifs <;> rfl

@[simp] theorem SigState.setOneSignalHandler_stderr :
    (st.setOneSignalHandler sig handler remove).stderr = st.stderr := by
  unfold SigState.setOneSignalHandler; split_ifs <;> rfl

/-- A disposition other than the one it replaces is left alone. -/
theorem SigState.setOneSignalHandler_of_ne
    (h : st.disposition sig ≠ (if remove then handler else .dfl)) :
    st.setOneSignalHandler sig handler remove = st :=
  if_neg h

end SetOne

/-- Write a line to `stderr`. -/
def SigState.report (st : SigState) (line : String) : SigState :=
  { st with stderr := st.stderr ++ [line] }

@[simp] theorem SigState.report_disposition (st : SigState) (line : String) :
    (st.report line).disposition = st.disposition := rfl
@[simp] theorem SigState.report_fuseInstance (st : SigState) (line : String) :
    (st.report line).fuseInstance = st.fuseInstance := rfl
@[simp] theorem SigState.report_fuseUnmountSources (st : SigState) (line : String) :
    (st.report line).fuseUnmountSources = st.fuseUnmountSources := rfl
@[simp] theorem SigState.report_stderr (st : SigState) (line : String) :
    (st.report line).stderr = st.stderr ++ [line] := rfl

/-- `register_signal_source(sig)`, where `dispatch_source_create` returned `source` (`NULL` when
it failed): the source, and the state with the failure reported. -/
def SigState.registerSignalSource (st : SigState) (sig source : Nat) : SigState × Nat :=
  if source = 0 then (st.report s!"fuse: failed to create source for signal {sig}\n", 0)
  else (st, source)

section Register

variable (st : SigState) (sig source : Nat)

@[simp] theorem SigState.registerSignalSource_source :
    (st.registerSignalSource sig source).2 = source := by
  unfold SigState.registerSignalSource; split <;> simp_all
@[simp] theorem SigState.registerSignalSource_disposition :
    (st.registerSignalSource sig source).1.disposition = st.disposition := by
  unfold SigState.registerSignalSource; split <;> rfl
@[simp] theorem SigState.registerSignalSource_fuseInstance :
    (st.registerSignalSource sig source).1.fuseInstance = st.fuseInstance := by
  unfold SigState.registerSignalSource; split <;> rfl
@[simp] theorem SigState.registerSignalSource_fuseUnmountSources :
    (st.registerSignalSource sig source).1.fuseUnmountSources = st.fuseUnmountSources := by
  unfold SigState.registerSignalSource; split <;> rfl

end Register

/-- The loop of the Apple `fuse_set_signal_handlers` over the indices `is`, where `create sig` is
what `dispatch_source_create` returns for `sig`. -/
def SigState.setSources (create : Nat → Nat) : List (Fin 3) → SigState → SigState × Int
  | [], st => (st, 0)
  | i :: is, st =>
    let st := st.setOneSignalHandler (fuseUnmountSignals i) .ign false
    if st.fuseUnmountSources i ≠ 0 then (st.report "fuse: cannot register signal source", -1)
    else
      let (st, source) := st.registerSignalSource (fuseUnmountSignals i)
        (create (fuseUnmountSignals i))
      SigState.setSources create is
        { st with fuseUnmountSources := Function.update st.fuseUnmountSources i source }

/-- `fuse_set_signal_handlers(se)`, with `create` as in `setSources`. -/
def fuseSetSignalHandlers (p : Platform) (st : SigState) (se : Nat) (create : Nat → Nat) :
    SigState × Int :=
  match p with
  | .apple =>
    let (st, res) := SigState.setSources create [0, 1, 2] st
    if res = -1 then (st, -1)
    else ({ st.setOneSignalHandler sigpipe .ign false with fuseInstance := se }, 0)
  | .other =>
    let st := ((((st.setOneSignalHandler sighup .exitHandler false).setOneSignalHandler sigint
      .exitHandler false).setOneSignalHandler sigterm .exitHandler false).setOneSignalHandler
      sigpipe .ign false)
    ({ st with fuseInstance := se }, 0)

/-- `dispatch_release` the source of index `i`, if any, and clear its slot. -/
def SigState.releaseSource (st : SigState) (i : Fin 3) : SigState :=
  if st.fuseUnmountSources i ≠ 0 then
    { st with fuseUnmountSources := Function.update st.fuseUnmountSources i 0 }
  else st

section Release

variable (st : SigState) (i : Fin 3)

@[simp] theorem SigState.releaseSource_disposition :
    (st.releaseSource i).disposition = st.disposition := by
  unfold SigState.releaseSource; split_ifs <;> rfl
@[simp] theorem SigState.releaseSource_fuseInstance :
    (st.releaseSource i).fuseInstance = st.fuseInstance := by
  unfold SigState.releaseSource; split_ifs <;> rfl
@[simp] theorem SigState.releaseSource_fuseUnmountSources :
    (st.releaseSource i).fuseUnmountSources = Function.update st.fuseUnmountSources i 0 := by
  unfold SigState.releaseSource
  split_ifs with h
  · rfl
  · exact (Function.update_eq_self_iff.mpr (not_not.mp h).symm).symm
@[simp] theorem SigState.releaseSource_stderr : (st.releaseSource i).stderr = st.stderr := by
  unfold SigState.releaseSource; split_ifs <;> rfl

end Release

/-- The loop of the Apple `fuse_remove_signal_handlers` over the indices `is`: reset the signal
and release its source. -/
def SigState.releaseSources : List (Fin 3) → SigState → SigState
  | [], st => st
  | i :: is, st =>
    SigState.releaseSources is
      ((st.setOneSignalHandler (fuseUnmountSignals i) .ign true).releaseSource i)

@[simp] theorem SigState.releaseSources_stderr (is : List (Fin 3)) (st : SigState) :
    (SigState.releaseSources is st).stderr = st.stderr := by
  induction is generalizing st with
  | nil => rfl
  | cons i is ih => simp [SigState.releaseSources, ih]

/-- `fuse_remove_signal_handlers(se)`: the registration is cleared only when it is `se`, and the
handlers are taken away in either case. -/
def fuseRemoveSignalHandlers (p : Platform) (st : SigState) (se : Nat) : SigState :=
  let st := if st.fuseInstance ≠ se then
      st.report "fuse: fuse_remove_signal_handlers: unknown session\n"
    else { st with fuseInstance := 0 }
  match p with
  | .apple => (SigState.releaseSources [0, 1, 2] st).setOneSignalHandler sigpipe .ign true
  | .other =>
    (((st.setOneSignalHandler sighup .exitHandler true).setOneSignalHandler sigint .exitHandler
      true).setOneSignalHandler sigterm .exitHandler true).setOneSignalHandler sigpipe .ign true

/-- `fuse_remove_signal_handlers(se)` writes one line, and only when `se` is not the registered
session. -/
theorem fuseRemoveSignalHandlers_stderr (p : Platform) (st : SigState) (se : Nat) :
    (fuseRemoveSignalHandlers p st se).stderr =
      if st.fuseInstance = se then st.stderr
      else st.stderr ++ ["fuse: fuse_remove_signal_handlers: unknown session\n"] := by
  unfold fuseRemoveSignalHandlers
  by_cases h : st.fuseInstance = se <;> cases p <;> simp [h]

/-- The Apple `fuse_set_signal_handlers` on a process that already has a source for `SIGHUP`, and
has `SIGHUP` ignored or handled: it only reports and returns `-1`. -/
theorem fuseSetSignalHandlers_apple_busy {st : SigState} (hd : st.disposition sighup ≠ .dfl)
    (hsrc : st.fuseUnmountSources 0 ≠ 0) {se : Nat} {create : Nat → Nat} :
    fuseSetSignalHandlers .apple st se create =
      (st.report "fuse: cannot register signal source", -1) := by
  have hkeep : st.setOneSignalHandler sighup .ign false = st :=
    SigState.setOneSignalHandler_of_ne _ _ _ _ hd
  simp [fuseSetSignalHandlers, SigState.setSources, fuseUnmountSignals, hkeep, hsrc]

/-- The four signals the library sets. -/
def handledSignals : List Nat := [sighup, sigint, sigterm, sigpipe]

/-- The handler `fuse_set_signal_handlers` installs for one of `handledSignals`. -/
def installedHandler (p : Platform) (sig : Nat) : Handler :=
  match p with
  | .apple => .ign
  | .other => if sig = sigpipe then .ign else .exitHandler

theorem fuseSetSignalHandlers_of_free (p : Platform) (st : SigState) (se : Nat)
    (create : Nat → Nat) (hfree : p = .apple → ∀ i, st.fuseUnmountSources i = 0) :
    (fuseSetSignalHandlers p st se create).2 = 0 ∧
    (fuseSetSignalHandlers p st se create).1.fuseInstance = se ∧
    (fuseSetSignalHandlers p st se create).1.fuseUnmountSources =
      (match p with
        | .apple => fun i => create (fuseUnmountSignals i)
        | .other => st.fuseUnmountSources) ∧
    ∀ x, (fuseSetSignalHandlers p st se create).1.disposition x =
      if x ∈ handledSignals then swapHandler (st.disposition x) (installedHandler p x) false
      else st.disposition x := by
  cases p with
  | apple =>
    simp [fuseSetSignalHandlers, SigState.setSources, hfree rfl, Function.update_apply,
      fuseUnmountSignals, sighup, sigint, sigterm, sigpipe, handledSignals, installedHandler]
    refine ⟨funext fun | 0 | 1 | 2 => rfl, fun x => ?_⟩
    by_cases hx : x = 1 ∨ x = 2 ∨ x = 15 ∨ x = 13
    · rcases hx with rfl | rfl | rfl | rfl <;> simp
    · simp only [not_or] at hx
      simp [hx]
  | other =>
    simp [fuseSetSignalHandlers, sighup, sigint, sigterm, sigpipe, handledSignals, installedHandler]
    intro x
    by_cases hx : x = 1 ∨ x = 2 ∨ x = 15 ∨ x = 13
    · rcases hx with rfl | rfl | rfl | rfl <;> simp
    · simp only [not_or] at hx
      simp [hx]

theorem fuseRemoveSignalHandlers_eq (p : Platform) (st : SigState) (se : Nat) :
    (fuseRemoveSignalHandlers p st se).fuseInstance =
      (if st.fuseInstance = se then 0 else st.fuseInstance) ∧
    (fuseRemoveSignalHandlers p st se).fuseUnmountSources =
      (match p with
        | .apple => fun _ => 0
        | .other => st.fuseUnmountSources) ∧
    ∀ x, (fuseRemoveSignalHandlers p st se).disposition x =
      if x ∈ handledSignals then swapHandler (st.disposition x) (installedHandler p x) true
      else st.disposition x := by
  obtain ⟨st₀, hst₀, hd, hs, hi⟩ : ∃ st₀, (if st.fuseInstance ≠ se then
      st.report "fuse: fuse_remove_signal_handlers: unknown session\n"
      else { st with fuseInstance := 0 }) = st₀ ∧ st₀.disposition = st.disposition ∧
      st₀.fuseUnmountSources = st.fuseUnmountSources ∧
      st₀.fuseInstance = if st.fuseInstance = se then 0 else st.fuseInstance :=
    ⟨_, rfl, by split_ifs <;> rfl, by split_ifs <;> rfl,
      by by_cases h : st.fuseInstance = se <;> simp [h, SigState.report]⟩
  unfold fuseRemoveSignalHandlers
  simp only [hst₀]
  refine ⟨?_, ?_, fun x => ?_⟩
  · cases p <;> simp [SigState.releaseSources, hi]
  · cases p
    · funext i
      simp only [SigState.releaseSources, SigState.setOneSignalHandler_fuseUnmountSources,
        SigState.releaseSource_fuseUnmountSources]
      match i with
      | 0 | 1 | 2 => simp [Function.update_apply]
    · simp [hs]
  · by_cases hx : x ∈ handledSignals
    · simp only [handledSignals, List.mem_cons, List.mem_singleton, List.not_mem_nil,
        or_false] at hx
      rcases hx with rfl | rfl | rfl | rfl <;> cases p <;>
        simp [SigState.releaseSources, hd, fuseUnmountSignals, handledSignals, installedHandler,
          sighup, sigint, sigterm, sigpipe]
    · have hne : x ≠ sighup ∧ x ≠ sigint ∧ x ≠ sigterm ∧ x ≠ sigpipe := by
        simpa [handledSignals] using hx
      cases p <;> simp [SigState.releaseSources, hd, fuseUnmountSignals, hne, hx]

/-- Setting a handler over `SIG_DFL` and removing it again leaves `SIG_DFL` on every disposition
but the handler itself. -/
theorem swapHandler_set_remove {h : Handler} (hh : h ≠ .dfl) (d : Handler) :
    swapHandler (swapHandler d h false) h true = if d = h then .dfl else d := by
  unfold swapHandler
  by_cases hd : d = .dfl <;> by_cases hdh : d = h <;> simp_all [Ne.symm hh]

theorem installedHandler_ne_dfl (p : Platform) (sig : Nat) : installedHandler p sig ≠ .dfl := by
  cases p
  · simp [installedHandler]
  · unfold installedHandler; split_ifs <;> simp

/-- `fuse_set_signal_handlers(se)` over a process with no live source, then
`fuse_remove_signal_handlers(se)`: the set returns `0`, nobody is registered, the sources are
as they were, and a disposition comes back unless it was the one the set installs, which ends
at `SIG_DFL`. -/
theorem set_remove_effect (p : Platform) (st : SigState) (se : Nat) (create : Nat → Nat)
    (hfree : p = .apple → ∀ i, st.fuseUnmountSources i = 0) :
    (fuseSetSignalHandlers p st se create).2 = 0 ∧
    (fuseRemoveSignalHandlers p (fuseSetSignalHandlers p st se create).1 se).fuseInstance = 0 ∧
    (fuseRemoveSignalHandlers p (fuseSetSignalHandlers p st se create).1 se).fuseUnmountSources =
      st.fuseUnmountSources ∧
    ∀ x, (fuseRemoveSignalHandlers p (fuseSetSignalHandlers p st se create).1 se).disposition x =
      if x ∈ handledSignals ∧ st.disposition x = installedHandler p x then .dfl
      else st.disposition x := by
  obtain ⟨hres, hinst, hsrc, hdisp⟩ := fuseSetSignalHandlers_of_free p st se create hfree
  obtain ⟨rinst, rsrc, rdisp⟩ :=
    fuseRemoveSignalHandlers_eq p (fuseSetSignalHandlers p st se create).1 se
  refine ⟨hres, by simp [rinst, hinst], ?_, fun x => ?_⟩
  · cases p with
    | apple => exact rsrc.trans (funext fun i => (hfree rfl i).symm)
    | other => exact rsrc.trans hsrc
  · rw [rdisp, hdisp]
    by_cases hx : x ∈ handledSignals
    · simp [hx, swapHandler_set_remove (installedHandler_ne_dfl p x)]
    · simp [hx]

/-- The parts of the process state the signal functions own: the dispositions of the four
signals, `fuse_instance` and `fuse_unmount_sources`. -/
def SigState.SameHandlers (st' st : SigState) : Prop :=
  (∀ sig ∈ handledSignals, st'.disposition sig = st.disposition sig) ∧
  st'.fuseInstance = st.fuseInstance ∧ st'.fuseUnmountSources = st.fuseUnmountSources

/-- On a process with no live source `fuse_set_signal_handlers(se)` returns `0`, and a following
`fuse_remove_signal_handlers(se)` gives back the four dispositions, `fuse_instance` and
`fuse_unmount_sources` exactly when nobody was registered and none of the four signals had the
disposition the set installs. Otherwise a signal that had that disposition ends at `SIG_DFL`, a
registered session ends unregistered, and the rest comes back as it was. -/
theorem set_remove_restores_iff (p : Platform) (st : SigState) (se : Nat) (create : Nat → Nat)
    (hfree : p = .apple → ∀ i, st.fuseUnmountSources i = 0) :
    (fuseSetSignalHandlers p st se create).2 = 0 ∧
    ((fuseRemoveSignalHandlers p (fuseSetSignalHandlers p st se create).1 se).SameHandlers st ↔
      st.fuseInstance = 0 ∧ ∀ sig ∈ handledSignals, st.disposition sig ≠ installedHandler p sig) ∧
    (fuseRemoveSignalHandlers p (fuseSetSignalHandlers p st se create).1 se).fuseInstance = 0 ∧
    (fuseRemoveSignalHandlers p (fuseSetSignalHandlers p st se create).1 se).fuseUnmountSources =
      st.fuseUnmountSources ∧
    ∀ x, (fuseRemoveSignalHandlers p (fuseSetSignalHandlers p st se create).1 se).disposition x =
      if x ∈ handledSignals ∧ st.disposition x = installedHandler p x then .dfl
      else st.disposition x := by
  obtain ⟨hres, hinst, hsrc, hdisp⟩ := set_remove_effect p st se create hfree
  refine ⟨hres, ?_, hinst, hsrc, hdisp⟩
  simp only [SigState.SameHandlers, hinst, hsrc, hdisp, and_true]
  constructor
  · rintro ⟨hd, h0⟩
    refine ⟨h0.symm, fun sig hsig heq => installedHandler_ne_dfl p sig ?_⟩
    have := hd sig hsig
    simp only [hsig, heq, and_self, if_true] at this
    exact heq ▸ this.symm
  · rintro ⟨h0, hne⟩
    exact ⟨fun sig hsig => by simp [hne sig hsig], h0.symm⟩

/-- A process with every signal at `SIG_DFL`, no session registered and no source. -/
def quietState : SigState := ⟨fun _ => .dfl, 0, fun _ => 0, []⟩

theorem set_remove_restores_iff_example :
    (Platform.apple = .apple → ∀ i, quietState.fuseUnmountSources i = 0) ∧
    (fuseSetSignalHandlers .apple quietState 1 (fun _ => 7)).2 = 0 ∧
    ((fuseRemoveSignalHandlers .apple (fuseSetSignalHandlers .apple quietState 1 (fun _ => 7)).1
        1).SameHandlers quietState ↔
      quietState.fuseInstance = 0 ∧
        ∀ sig ∈ handledSignals, quietState.disposition sig ≠ installedHandler .apple sig) ∧
    (fuseRemoveSignalHandlers .apple (fuseSetSignalHandlers .apple quietState 1 (fun _ => 7)).1
        1).fuseInstance = 0 ∧
    (fuseRemoveSignalHandlers .apple (fuseSetSignalHandlers .apple quietState 1 (fun _ => 7)).1
        1).fuseUnmountSources = quietState.fuseUnmountSources ∧
    ∀ x, (fuseRemoveSignalHandlers .apple (fuseSetSignalHandlers .apple quietState 1 (fun _ => 7)).1
        1).disposition x =
      if x ∈ handledSignals ∧ quietState.disposition x = installedHandler .apple x then .dfl
      else quietState.disposition x :=
  have hfree : Platform.apple = .apple → ∀ i, quietState.fuseUnmountSources i = 0 :=
    fun _ _ => rfl
  ⟨hfree, set_remove_restores_iff .apple quietState 1 (fun _ => 7) hfree⟩

/-- A process that ignores `SIGPIPE` itself, with nobody registered. -/
def pipeIgnoredState : SigState := ⟨fun x => if x = sigpipe then .ign else .dfl, 0, fun _ => 0, []⟩

/-- There `fuse_set_signal_handlers` returns `0`, and the following
`fuse_remove_signal_handlers` leaves `SIGPIPE` at `SIG_DFL`: the process no longer ignores it. -/
theorem set_remove_unignores_sigpipe :
    (fuseSetSignalHandlers .other pipeIgnoredState 1 (fun _ => 0)).2 = 0 ∧
    pipeIgnoredState.disposition sigpipe = .ign ∧
    (fuseRemoveSignalHandlers .other (fuseSetSignalHandlers .other pipeIgnoredState 1
      (fun _ => 0)).1 1).disposition sigpipe = .dfl := by
  decide

/-! ## Routing over a sequence of calls -/

/-- Signal `i` of `fuse_unmount_signals` reaches `exit_handler`: as its handler, or on the Apple
build through a live source while the signal itself is ignored. -/
def SigState.Routed (p : Platform) (st : SigState) (i : Fin 3) : Prop :=
  match p with
  | .apple => st.disposition (fuseUnmountSignals i) = .ign ∧ st.fuseUnmountSources i ≠ 0
  | .other => st.disposition (fuseUnmountSignals i) = .exitHandler

/-- Signal `i` is at `SIG_DFL`, with no source on the Apple build. -/
def SigState.Defaulted (p : Platform) (st : SigState) (i : Fin 3) : Prop :=
  st.disposition (fuseUnmountSignals i) = .dfl ∧ (p = .apple → st.fuseUnmountSources i = 0)

instance SigState.decRouted (p : Platform) (st : SigState) (i : Fin 3) :
    Decidable (st.Routed p i) :=
  match p with
  | .apple => inferInstanceAs (Decidable (_ ∧ _))
  | .other => inferInstanceAs (Decidable (_ = _))

instance SigState.decDefaulted (p : Platform) (st : SigState) (i : Fin 3) :
    Decidable (st.Defaulted p i) :=
  inferInstanceAs (Decidable (_ ∧ (p = .apple → _)))

/-- A call of the application. -/
inductive SigCall where
  /-- `fuse_set_signal_handlers(se)`, where `dispatch_source_create` gives `create sig` for
  `sig`. -/
  | set (se : Nat) (create : Nat → Nat)
  /-- `fuse_remove_signal_handlers(se)`. -/
  | remove (se : Nat)

/-- Run one call. -/
def SigCall.apply (p : Platform) (st : SigState) : SigCall → SigState
  | .set se create => (fuseSetSignalHandlers p st se create).1
  | .remove se => fuseRemoveSignalHandlers p st se

/-- Run the calls in order. -/
def runSignals (p : Platform) (st : SigState) : List SigCall → SigState
  | [] => st
  | c :: cs => runSignals p (c.apply p st) cs

/-- `dispatch_source_create` succeeds for the three unmount signals. -/
def SigCall.CreatesSources : SigCall → Prop
  | .set _ create => ∀ i, create (fuseUnmountSignals i) ≠ 0
  | .remove _ => True

/-- A `fuse_remove_signal_handlers` for another session than the registered one. -/
def SigCall.Stray (st : SigState) : SigCall → Prop
  | .set _ _ => False
  | .remove se => st.fuseInstance ≠ 0 ∧ st.fuseInstance ≠ se

/-- No call of the sequence is a stray remove. -/
def NoStray (p : Platform) : SigState → List SigCall → Prop
  | _, [] => True
  | st, c :: cs => ¬c.Stray st ∧ NoStray p (c.apply p st) cs

/-- The three unmount signals are all routed or all at `SIG_DFL`. -/
def SigInv (p : Platform) (st : SigState) : Prop :=
  (∀ i, st.Routed p i) ∨ (∀ i, st.Defaulted p i)

theorem fuseUnmountSignals_mem (i : Fin 3) : fuseUnmountSignals i ∈ handledSignals := by
  match i with
  | 0 | 1 | 2 => simp [fuseUnmountSignals, handledSignals]

theorem installedHandler_unmount_other (i : Fin 3) :
    installedHandler .other (fuseUnmountSignals i) = .exitHandler := by
  match i with
  | 0 | 1 | 2 => rfl

section Calls

variable {p : Platform} {st : SigState}

/-- A set over three defaulted signals routes them all and registers the session. -/
theorem set_of_defaulted (hd : ∀ i, st.Defaulted p i) {se : Nat} {create : Nat → Nat}
    (hc : ∀ i, create (fuseUnmountSignals i) ≠ 0) :
    (fuseSetSignalHandlers p st se create).1.fuseInstance = se ∧
    ∀ i, (fuseSetSignalHandlers p st se create).1.Routed p i := by
  obtain ⟨-, hinst, hsrc, hdisp⟩ :=
    fuseSetSignalHandlers_of_free p st se create fun hp i => (hd i).2 hp
  refine ⟨hinst, fun i => ?_⟩
  have hdi : (fuseSetSignalHandlers p st se create).1.disposition (fuseUnmountSignals i) =
      installedHandler p (fuseUnmountSignals i) := by
    simp [hdisp, fuseUnmountSignals_mem, (hd i).1, swapHandler]
  cases p with
  | apple => exact ⟨hdi, by simpa [hsrc] using hc i⟩
  | other => exact hdi.trans (installedHandler_unmount_other i)

/-- A set over three routed signals keeps them routed: on the Apple build it stops at the live
source of `SIGHUP` and returns `-1`. -/
theorem set_of_routed (hr : ∀ i, st.Routed p i) (se : Nat) (create : Nat → Nat) :
    ∀ i, (fuseSetSignalHandlers p st se create).1.Routed p i := by
  cases p with
  | apple =>
    have h0 := hr 0
    simp only [SigState.Routed, fuseUnmountSignals] at h0
    rw [fuseSetSignalHandlers_apple_busy (by simp [h0.1]) h0.2]
    exact hr
  | other =>
    obtain ⟨-, -, -, hdisp⟩ := fuseSetSignalHandlers_of_free .other st se create nofun
    intro i
    have hi : st.disposition (fuseUnmountSignals i) =
        installedHandler .other (fuseUnmountSignals i) :=
      (hr i).trans (installedHandler_unmount_other i).symm
    show _ = _
    simp [hdisp, fuseUnmountSignals_mem, hi, swapHandler, installedHandler_unmount_other]

theorem SigState.Routed.disposition {i : Fin 3} (h : st.Routed p i) :
    st.disposition (fuseUnmountSignals i) = installedHandler p (fuseUnmountSignals i) := by
  cases p with
  | apple => exact h.1
  | other => exact h.trans (installedHandler_unmount_other i).symm

/-- Removing the handler from a signal at `SIG_DFL` or at the handler leaves it at `SIG_DFL`. -/
theorem swapHandler_remove {d h : Handler} (hd : d = .dfl ∨ d = h) :
    swapHandler d h true = .dfl := by
  unfold swapHandler; rcases hd with rfl | rfl <;> simp

/-- A remove, over three signals each at `SIG_DFL` or at the installed handler, leaves them
defaulted. -/
theorem remove_defaulted (h : ∀ i, st.disposition (fuseUnmountSignals i) = .dfl ∨
      st.disposition (fuseUnmountSignals i) = installedHandler p (fuseUnmountSignals i))
    (se : Nat) : ∀ i, (fuseRemoveSignalHandlers p st se).Defaulted p i := by
  obtain ⟨-, hsrc, hdisp⟩ := fuseRemoveSignalHandlers_eq p st se
  intro i
  refine ⟨?_, fun hp => by subst hp; simp [hsrc]⟩
  rw [hdisp, if_pos (fuseUnmountSignals_mem i), swapHandler_remove (h i)]

theorem SigInv.disposition (hi : SigInv p st) (i : Fin 3) :
    st.disposition (fuseUnmountSignals i) = .dfl ∨
      st.disposition (fuseUnmountSignals i) = installedHandler p (fuseUnmountSignals i) := by
  rcases hi with hr | hd
  · exact .inr (hr i).disposition
  · exact .inl (hd i).1

/-- Every call keeps the three signals all routed or all defaulted. -/
theorem SigInv.apply (hi : SigInv p st) {c : SigCall} (hc : c.CreatesSources) :
    SigInv p (c.apply p st) := by
  cases c with
  | set se create =>
    rcases hi with hr | hd
    · exact .inl (set_of_routed hr se create)
    · exact .inl (set_of_defaulted hd hc).2
  | remove se => exact .inr (remove_defaulted hi.disposition se)

/-- After a call that is not a stray remove, a registered session has its signals routed. -/
theorem SigCall.apply_routed (hi : SigInv p st) {c : SigCall} (hc : c.CreatesSources)
    (hns : ¬c.Stray st) :
    (c.apply p st).fuseInstance ≠ 0 → ∀ i, (c.apply p st).Routed p i := by
  cases c with
  | set se create =>
    intro _
    rcases hi with hr | hd
    · exact set_of_routed hr se create
    · exact (set_of_defaulted hd hc).2
  | remove se =>
    intro hne
    obtain ⟨hinst, -, -⟩ := fuseRemoveSignalHandlers_eq p st se
    simp only [SigCall.Stray, not_and, not_not] at hns
    exact absurd (show (fuseRemoveSignalHandlers p st se).fuseInstance = 0 by
      rw [hinst]; split_ifs <;> omega) hne

theorem SigInv.run (hi : SigInv p st) {calls : List SigCall}
    (hc : ∀ c ∈ calls, c.CreatesSources) : SigInv p (runSignals p st calls) := by
  induction calls generalizing st with
  | nil => exact hi
  | cons c cs ih => exact ih (hi.apply (hc c (.head _))) fun c' h => hc c' (.tail _ h)

theorem SigInv.run_routed (hi : SigInv p st) (hreg : st.fuseInstance ≠ 0 → ∀ i, st.Routed p i)
    {calls : List SigCall} (hc : ∀ c ∈ calls, c.CreatesSources) (hns : NoStray p st calls) :
    (runSignals p st calls).fuseInstance ≠ 0 → ∀ i, (runSignals p st calls).Routed p i := by
  induction calls generalizing st with
  | nil => exact hreg
  | cons c cs ih =>
    have hc0 := hc c (.head _)
    exact ih (hi.apply hc0) (SigCall.apply_routed hi hc0 hns.1)
      (fun c' h => hc c' (.tail _ h)) hns.2

/-- A stray remove keeps the registration, reports the mismatch and takes the three signals
back to `SIG_DFL`. -/
theorem SigInv.remove_stray (hi : SigInv p st) {se : Nat} (hse : st.fuseInstance ≠ se) :
    (fuseRemoveSignalHandlers p st se).fuseInstance = st.fuseInstance ∧
    (fuseRemoveSignalHandlers p st se).stderr =
      st.stderr ++ ["fuse: fuse_remove_signal_handlers: unknown session\n"] ∧
    ∀ i, (fuseRemoveSignalHandlers p st se).Defaulted p i :=
  ⟨by simp [(fuseRemoveSignalHandlers_eq p st se).1, hse],
    by simp [fuseRemoveSignalHandlers_stderr, hse], remove_defaulted hi.disposition se⟩

end Calls

/-- From no registration and the three unmount signals at `SIG_DFL`, any sequence of set and
remove calls in which `dispatch_source_create` succeeds keeps the three signals all routed to
`exit_handler` or all at `SIG_DFL`. While no remove names another session than the registered
one, a registered session has them routed; a remove that does name another session keeps that
registration and reports the mismatch, but still takes the three signals back to `SIG_DFL`. -/
theorem unmount_signals_routed (p : Platform) (st₀ : SigState) (calls : List SigCall)
    (hinst : st₀.fuseInstance = 0) (hdef : ∀ i, st₀.Defaulted p i)
    (hcreate : ∀ c ∈ calls, c.CreatesSources) :
    ((∀ i, (runSignals p st₀ calls).Routed p i) ∨ (∀ i, (runSignals p st₀ calls).Defaulted p i)) ∧
    (NoStray p st₀ calls → (runSignals p st₀ calls).fuseInstance ≠ 0 →
      ∀ i, (runSignals p st₀ calls).Routed p i) ∧
    (∀ se, (runSignals p st₀ calls).fuseInstance ≠ se →
      (fuseRemoveSignalHandlers p (runSignals p st₀ calls) se).fuseInstance =
        (runSignals p st₀ calls).fuseInstance ∧
      (fuseRemoveSignalHandlers p (runSignals p st₀ calls) se).stderr =
        (runSignals p st₀ calls).stderr ++ ["fuse: fuse_remove_signal_handlers: unknown session\n"] ∧
      ∀ i, (fuseRemoveSignalHandlers p (runSignals p st₀ calls) se).Defaulted p i) := by
  have hi : SigInv p st₀ := .inr hdef
  exact ⟨hi.run hcreate, hi.run_routed (fun h => absurd hinst h) hcreate,
    fun _ hse => (hi.run hcreate).remove_stray hse⟩

/-- Register session `1`, fail to register `2` over it, unregister `1`, register `2`. -/
def sigExample : List SigCall :=
  [.set 1 (fun _ => 7), .set 2 (fun _ => 8), .remove 1, .set 2 (fun _ => 9)]

theorem unmount_signals_routed_example :
    quietState.fuseInstance = 0 ∧ (∀ i, quietState.Defaulted .apple i) ∧
    (∀ c ∈ sigExample, c.CreatesSources) ∧
    ((∀ i, (runSignals .apple quietState sigExample).Routed .apple i) ∨
      (∀ i, (runSignals .apple quietState sigExample).Defaulted .apple i)) ∧
    (NoStray .apple quietState sigExample →
      (runSignals .apple quietState sigExample).fuseInstance ≠ 0 →
      ∀ i, (runSignals .apple quietState sigExample).Routed .apple i) ∧
    (∀ se, (runSignals .apple quietState sigExample).fuseInstance ≠ se →
      (fuseRemoveSignalHandlers .apple (runSignals .apple quietState sigExample) se).fuseInstance =
        (runSignals .apple quietState sigExample).fuseInstance ∧
      (fuseRemoveSignalHandlers .apple (runSignals .apple quietState sigExample) se).stderr =
        (runSignals .apple quietState sigExample).stderr ++
          ["fuse: fuse_remove_signal_handlers: unknown session\n"] ∧
      ∀ i, (fuseRemoveSignalHandlers .apple (runSignals .apple quietState sigExample) se).Defaulted
        .apple i) :=
  have hinst : quietState.fuseInstance = 0 := rfl
  have hdef : ∀ i, quietState.Defaulted .apple i := by decide
  have hcreate : ∀ c ∈ sigExample, c.CreatesSources := by
    simp [sigExample, SigCall.CreatesSources]
  ⟨hinst, hdef, hcreate, unmount_signals_routed .apple quietState sigExample hinst hdef hcreate⟩

/-- From the quiet process, registering session `1` and then removing the handlers for session
`2` leaves `1` registered with `SIGHUP` at `SIG_DFL` and no source for it. -/
theorem stray_remove_unroutes :
    quietState.fuseInstance = 0 ∧ (∀ i, quietState.Defaulted .apple i) ∧
    (runSignals .apple quietState [.set 1 (fun _ => 7), .remove 2]).fuseInstance = 1 ∧
    ¬(runSignals .apple quietState [.set 1 (fun _ => 7), .remove 2]).Routed .apple 0 := by
  decide

end MacFuse
