import MacFuse.Session

/-!
# The session–channel binding

A session holds at most one channel and a channel at most one session, and
`fuse_session_add_chan` and `fuse_session_remove_chan` keep the two pointers equal. This file
proves that every sequence of the six calls that create, bind, unbind and destroy the two
objects keeps the binding symmetric, and that neither pointer ever names an object that has
been destroyed: `fuse_session_destroy` depends on `fuse_chan_destroy` unbinding the channel
before the session is freed.
-/

namespace MacFuse

/-- The calls that create, bind, unbind and destroy sessions and channels. -/
inductive BindCall where
  | sessionNew (op : FuseSessionOps) (data : Nat)
  | chanNew (op : FuseChanOps) (fd : Int) (bufsize : Nat) (data : Nat)
  | addChan (se ch : Nat)
  | removeChan (ch : Nat)
  | chanDestroy (ch : Nat)
  | sessionDestroy (se : Nat)

/-- One call on the heap; `none` when it fails an `assert` or names a dead object. -/
def BindCall.apply (p : Platform) (h : Heap) : BindCall → Option Heap
  | .sessionNew op data => some (fuseSessionNew h op data).1
  | .chanNew op fd bufsize data => some (fuseChanNew h op fd bufsize data).1
  | .addChan se ch => fuseSessionAddChan h se ch
  | .removeChan ch => fuseSessionRemoveChan h ch
  | .chanDestroy ch => fuseChanDestroy p h ch
  | .sessionDestroy se => fuseSessionDestroy p h se

/-- A sequence of calls from `h`; `none` as soon as one of them fails. -/
def runBind (p : Platform) : Heap → List BindCall → Option Heap
  | h, [] => some h
  | h, c :: cs => (c.apply p h).bind fun h' => runBind p h' cs

/-- The channels on which a call runs `fuse_chan_destroy`: the one it names, or the one bound
to the session it destroys. -/
def BindCall.DestroysChan (h : Heap) : BindCall → Nat → Prop
  | .chanDestroy ch, ch' => ch' = ch
  | .sessionDestroy se, ch' => ∃ s, h.sessions se = some s ∧ s.ch ≠ 0 ∧ ch' = s.ch
  | _, _ => False

/-- The session a call destroys. -/
def BindCall.DestroysSession : BindCall → Nat → Prop
  | .sessionDestroy se, se' => se' = se
  | _, _ => False

/-- The binding invariant. Each bound pointer names a live object that points back; every
channel holds only its own reference (nothing here retains one); `NULL` and the addresses
`malloc` has not handed out yet name nothing. -/
structure Bound (h : Heap) : Prop where
  session_ch : ∀ {se s}, h.sessions se = some s → s.ch ≠ 0 →
    ∃ c, h.chans s.ch = some c ∧ c.se = se
  chan_se : ∀ {ch c}, h.chans ch = some c → c.se ≠ 0 →
    ∃ s, h.sessions c.se = some s ∧ s.ch = ch
  single : ∀ {ch c}, h.chans ch = some c → c.retainCount = 1
  next_pos : 0 < h.next
  unused : ∀ {p}, p = 0 ∨ h.next ≤ p → h.sessions p = none ∧ h.chans p = none

namespace Bound

variable {p : Platform} {h h' : Heap}

theorem empty : Bound Heap.empty :=
  ⟨by simp [Heap.empty], by simp [Heap.empty], by simp [Heap.empty], by decide,
    by simp [Heap.empty]⟩

/-- A live session sits at an address that `malloc` has handed out. -/
theorem session_lt (hb : Bound h) {se s} (hs : h.sessions se = some s) :
    se ≠ 0 ∧ se < h.next := by
  have : ¬ (se = 0 ∨ h.next ≤ se) := fun hq => by simp [(hb.unused hq).1] at hs
  omega

/-- A live channel sits at an address that `malloc` has handed out. -/
theorem chan_lt (hb : Bound h) {ch c} (hc : h.chans ch = some c) : ch ≠ 0 ∧ ch < h.next := by
  have : ¬ (ch = 0 ∨ h.next ≤ ch) := fun hq => by simp [(hb.unused hq).2] at hc
  omega

/-- The binding reads the objects and the next address, not the log. -/
theorem congr (hb : Bound h) (hs : h'.sessions = h.sessions) (hc : h'.chans = h.chans)
    (hn : h'.next = h.next) : Bound h' := by
  obtain ⟨a, b, c, d, e⟩ := hb
  exact ⟨by rw [hs, hc]; exact a, by rw [hs, hc]; exact b, by rw [hc]; exact c,
    by rw [hn]; exact d, by rw [hs, hc, hn]; exact e⟩

theorem emitIfSet (hb : Bound h) (ptr : Nat) (e : Effect) : Bound (h.emitIfSet ptr e) :=
  hb.congr (by simp) (by simp) (by simp)

theorem sessionNew (hb : Bound h) (op : FuseSessionOps) (data : Nat) :
    Bound (fuseSessionNew h op data).1 := by
  have hfresh := hb.unused (p := h.next) (.inr (Nat.le_refl _))
  refine ⟨fun {se s} hs hch => ?_, fun {ch c} hc hse => ?_, fun hc => hb.single hc,
    by simp [fuseSessionNew], fun {q} hq => ?_⟩
  · by_cases he : se = h.next
    · subst he; simp [fuseSessionNew] at hs; subst hs; simp at hch
    · simp only [fuseSessionNew, Heap.setSession_sessions, Heap.bump_sessions,
        Function.update_noteq he] at hs
      simpa [fuseSessionNew] using hb.session_ch hs hch
  · simp only [fuseSessionNew, Heap.setSession_chans, Heap.bump_chans] at hc
    obtain ⟨s, hs, hsch⟩ := hb.chan_se hc hse
    have hne : c.se ≠ h.next := fun he => by simp_all
    simpa [fuseSessionNew, Function.update_noteq hne] using ⟨s, hs, hsch⟩
  · simp only [fuseSessionNew, Heap.setSession_next, Heap.bump_next] at hq
    have hne : q ≠ h.next := by have := hb.next_pos; omega
    simpa [fuseSessionNew, Function.update_noteq hne] using hb.unused (p := q) (by omega)

theorem chanNew (hb : Bound h) (op : FuseChanOps) (fd : Int) (bufsize : Nat) (data : Nat) :
    Bound (fuseChanNew h op fd bufsize data).1 := by
  have hfresh := hb.unused (p := h.next) (.inr (Nat.le_refl _))
  refine ⟨fun {se s} hs hch => ?_, fun {ch c} hc hse => ?_, fun {ch c} hc => ?_,
    by simp [fuseChanNew, fuseChanNewCommon], fun {q} hq => ?_⟩
  · simp only [fuseChanNew, fuseChanNewCommon, Heap.setChan_sessions, Heap.bump_sessions] at hs
    obtain ⟨c, hc, hcse⟩ := hb.session_ch hs hch
    have hne : s.ch ≠ h.next := fun he => by simp_all
    simpa [fuseChanNew, fuseChanNewCommon, Function.update_noteq hne] using ⟨c, hc, hcse⟩
  · by_cases he : ch = h.next
    · subst he; simp [fuseChanNew, fuseChanNewCommon] at hc; subst hc; simp at hse
    · simp only [fuseChanNew, fuseChanNewCommon, Heap.setChan_chans, Heap.bump_chans,
        Function.update_noteq he] at hc
      simpa [fuseChanNew, fuseChanNewCommon] using hb.chan_se hc hse
  · by_cases he : ch = h.next
    · subst he; simp [fuseChanNew, fuseChanNewCommon] at hc; subst hc; rfl
    · simp only [fuseChanNew, fuseChanNewCommon, Heap.setChan_chans, Heap.bump_chans,
        Function.update_noteq he] at hc
      exact hb.single hc
  · simp only [fuseChanNew, fuseChanNewCommon, Heap.setChan_next, Heap.bump_next] at hq
    have hne : q ≠ h.next := by have := hb.next_pos; omega
    simpa [fuseChanNew, fuseChanNewCommon, Function.update_noteq hne] using
      hb.unused (p := q) (by omega)

theorem addChan (hb : Bound h) {se ch : Nat} (ha : fuseSessionAddChan h se ch = some h') :
    Bound h' := by
  obtain ⟨s, c, hs, hc, hs0, hc0, rfl⟩ := fuseSessionAddChan_eq_some.mp ha
  have hse := hb.session_lt hs
  have hch := hb.chan_lt hc
  refine ⟨fun {se' s'} hs' hch' => ?_, fun {ch' c'} hc' hse' => ?_, fun {ch' c'} hc' => ?_,
    hb.next_pos, fun {q} hq => ?_⟩
  · by_cases he : se' = se
    · subst he; simp at hs'; subst hs'; simp
    · simp only [Heap.setChan_sessions, Heap.setSession_sessions,
        Function.update_noteq he] at hs'
      obtain ⟨c', hc'1, hc'2⟩ := hb.session_ch hs' hch'
      have hne : s'.ch ≠ ch := fun heq => by
        rw [heq, hc] at hc'1; cases hc'1; exact (hb.session_lt hs').1 (hc'2.symm.trans hc0)
      simp [Function.update_noteq hne, hc'1, hc'2]
  · by_cases he : ch' = ch
    · subst he; simp at hc'; subst hc'; simp
    · simp only [Heap.setChan_chans, Function.update_noteq he] at hc'
      obtain ⟨s', hs'1, hs'2⟩ := hb.chan_se hc' hse'
      have hne : c'.se ≠ se := fun heq => by
        rw [heq, hs] at hs'1; cases hs'1; exact (hb.chan_lt hc').1 (hs'2.symm.trans hs0)
      simp [Function.update_noteq hne, hs'1, hs'2]
  · by_cases he : ch' = ch
    · subst he; simp at hc'; subst hc'; simpa using hb.single hc
    · exact hb.single (by simpa [Function.update_noteq he] using hc')
  · simp only [Heap.setChan_next, Heap.setSession_next] at hq
    have hq' := hb.unused hq
    have h1 : q ≠ se := by omega
    have h2 : q ≠ ch := by omega
    simp [Function.update_noteq h1, Function.update_noteq h2, hq']

/-- Unbinding keeps the binding, and leaves the channel with no session. -/
theorem removeChan (hb : Bound h) {ch : Nat} (hr : fuseSessionRemoveChan h ch = some h') :
    Bound h' ∧ ∃ c, h'.chans ch = some c ∧ c.se = 0 := by
  obtain ⟨c, hc, ⟨hc0, rfl⟩ | ⟨s, hc0, hs, hsch, rfl⟩⟩ :=
    fuseSessionRemoveChan_eq_some.mp hr
  · exact ⟨hb, c, hc, hc0⟩
  refine ⟨⟨fun {se' s'} hs' hch' => ?_, fun {ch' c'} hc' hse' => ?_, fun {ch' c'} hc' => ?_,
    hb.next_pos, fun {q} hq => ?_⟩, { c with se := 0 }, by simp, rfl⟩
  · by_cases he : se' = c.se
    · subst he; simp at hs'; subst hs'; simp at hch'
    · simp only [Heap.setChan_sessions, Heap.setSession_sessions,
        Function.update_noteq he] at hs'
      obtain ⟨c', hc'1, hc'2⟩ := hb.session_ch hs' hch'
      have hne : s'.ch ≠ ch := fun heq => by
        rw [heq, hc] at hc'1; cases hc'1; exact he hc'2.symm
      simp [Function.update_noteq hne, hc'1, hc'2]
  · by_cases he : ch' = ch
    · subst he; simp at hc'; subst hc'; simp at hse'
    · simp only [Heap.setChan_chans, Function.update_noteq he] at hc'
      obtain ⟨s', hs'1, hs'2⟩ := hb.chan_se hc' hse'
      have hne : c'.se ≠ c.se := fun heq => by
        rw [heq, hs] at hs'1; cases hs'1; exact he (hs'2.symm.trans hsch)
      simp [Function.update_noteq hne, hs'1, hs'2]
  · by_cases he : ch' = ch
    · subst he; simp at hc'; subst hc'; simpa using hb.single hc
    · exact hb.single (by simpa [Function.update_noteq he] using hc')
  · simp only [Heap.setChan_next, Heap.setSession_next] at hq
    have hq' := hb.unused hq
    have h1 : q ≠ c.se := by have := (hb.session_lt hs); omega
    have h2 : q ≠ ch := by have := (hb.chan_lt hc); omega
    simp [Function.update_noteq h1, Function.update_noteq h2, hq']

/-- Freeing a channel that no session holds keeps the binding. -/
theorem freeChan (hb : Bound h) {ch : Nat} {c : FuseChan} (hc : h.chans ch = some c)
    (hc0 : c.se = 0) : Bound (h.setChan ch none) := by
  refine ⟨fun {se s} hs hch => ?_, fun {ch' c'} hc' hse' => ?_, fun {ch' c'} hc' => ?_,
    hb.next_pos, fun {q} hq => ?_⟩
  · obtain ⟨c', hc'1, hc'2⟩ := hb.session_ch hs hch
    have hne : s.ch ≠ ch := fun heq => by
      rw [heq, hc] at hc'1; cases hc'1; exact (hb.session_lt hs).1 (hc'2.symm.trans hc0)
    simp [Function.update_noteq hne, hc'1, hc'2]
  · have he : ch' ≠ ch := by rintro rfl; simp at hc'
    simp only [Heap.setChan_chans, Function.update_noteq he] at hc'
    simpa using hb.chan_se hc' hse'
  · have he : ch' ≠ ch := by rintro rfl; simp at hc'
    exact hb.single (by simpa [Function.update_noteq he] using hc')
  · by_cases he : q = ch
    · subst he; simp [(hb.unused hq).1]
    · simp [Function.update_noteq he, hb.unused hq]

/-- Freeing a session that holds no channel keeps the binding. -/
theorem freeSession (hb : Bound h) {se : Nat} {s : FuseSession} (hs : h.sessions se = some s)
    (hs0 : s.ch = 0) : Bound (h.setSession se none) := by
  refine ⟨fun {se' s'} hs' hch' => ?_, fun {ch' c'} hc' hse' => ?_, hb.single,
    hb.next_pos, fun {q} hq => ?_⟩
  · have he : se' ≠ se := by rintro rfl; simp at hs'
    simp only [Heap.setSession_sessions, Function.update_noteq he] at hs'
    simpa using hb.session_ch hs' hch'
  · obtain ⟨s', hs'1, hs'2⟩ := hb.chan_se hc' hse'
    have hne : c'.se ≠ se := fun heq => by
      rw [heq, hs] at hs'1; cases hs'1; exact (hb.chan_lt hc').1 (hs'2.symm.trans hs0)
    simp [Function.update_noteq hne, hs'1, hs'2]
  · by_cases he : q = se
    · subst he; simp [(hb.unused hq).2]
    · simp [Function.update_noteq he, hb.unused hq]

/-- Unbinding `ch` clears the field of the session that held it and changes no other
session. -/
theorem removeChan_sessions (hb : Bound h) {ch : Nat}
    (hr : fuseSessionRemoveChan h ch = some h') {se : Nat} {s : FuseSession}
    (hs : h.sessions se = some s) :
    h'.sessions se = some (if s.ch = ch then { s with ch := 0 } else s) := by
  have hown : ∀ {c}, h.chans ch = some c → s.ch = ch → c.se = se := fun {c} hc hsch => by
    obtain ⟨c', hc', hc'se⟩ := hb.session_ch hs (hsch ▸ (hb.chan_lt hc).1)
    rw [hsch, hc] at hc'; cases hc'; exact hc'se
  obtain ⟨c, hc, ⟨hc0, rfl⟩ | ⟨s₀, hc0, hs₀, hs₀ch, rfl⟩⟩ :=
    fuseSessionRemoveChan_eq_some.mp hr
  · have : s.ch ≠ ch := fun hsch => (hb.session_lt hs).1 ((hown hc hsch).symm.trans hc0)
    simp [this, hs]
  · by_cases he : se = c.se
    · subst he; rw [hs] at hs₀; cases hs₀; simp [hs₀ch]
    · have : s.ch ≠ ch := fun hsch => he (hown hc hsch).symm
      simp [Function.update_noteq he, this, hs]

/-- Under the binding, `fuse_chan_destroy` is the unbinding followed by the channel's `free`:
nothing here retains a channel, so the release it ends with is the last. -/
theorem chanDestroy_frees (hb : Bound h) {ch : Nat} (hd : fuseChanDestroy p h ch = some h') :
    ∃ h₁, fuseSessionRemoveChan h ch = some h₁ ∧ h'.sessions = h₁.sessions ∧
      h'.chans = Function.update h₁.chans ch none ∧ h'.next = h₁.next := by
  obtain ⟨h₁, c, hr, hc, hp⟩ := fuseChanDestroy_eq_some.mp hd
  refine ⟨h₁, hr, ?_⟩
  rcases hp with ⟨-, hrel⟩ | ⟨-, rfl⟩
  · obtain ⟨c₂, hc₂, ⟨-, rfl⟩ | ⟨hne, -⟩⟩ := fuseChanRelease_eq_some.mp hrel
    · simp
    · simp only [Heap.emitIfSet_chans, hc, Option.some.injEq] at hc₂; subst hc₂
      exact absurd (hb.removeChan hr).1.single (fun h1 => hne (h1 hc))
  · simp

/-- `fuse_chan_destroy` keeps the binding and frees the channel. -/
theorem chanDestroy (hb : Bound h) {ch : Nat} (hd : fuseChanDestroy p h ch = some h') :
    Bound h' ∧ h'.chans ch = none ∧ ∃ h₁, fuseSessionRemoveChan h ch = some h₁ ∧
      h'.sessions = h₁.sessions := by
  obtain ⟨h₁, hr, hs, hc, hn⟩ := hb.chanDestroy_frees hd
  obtain ⟨hb₁, c, hc₁, hc0⟩ := hb.removeChan hr
  exact ⟨(hb₁.freeChan hc₁ hc0).congr (by simp [hs]) (by simp [hc]) (by simp [hn]),
    by simp [hc], h₁, hr, hs⟩

/-- `fuse_session_destroy` keeps the binding: the bound channel is destroyed, which unbinds
it, before the session is freed. -/
theorem sessionDestroy (hb : Bound h) {se : Nat} (hd : fuseSessionDestroy p h se = some h') :
    Bound h' := by
  obtain ⟨s, hs, hcases⟩ := fuseSessionDestroy_eq_some.mp hd
  have hb₁ := hb.emitIfSet s.op.destroy (.sessionDestroy s.op.destroy s.data)
  have hs₁ : (h.emitIfSet s.op.destroy (.sessionDestroy s.op.destroy s.data)).sessions se =
      some s := by simpa using hs
  rcases hcases with ⟨hch, rfl⟩ | ⟨-, h₂, hh₂, rfl⟩
  · exact hb₁.freeSession hs₁ hch
  · obtain ⟨hb₂, -, h₃, hr, hses⟩ := hb₁.chanDestroy hh₂
    have := hb₁.removeChan_sessions hr hs₁
    simp only [if_true] at this
    exact hb₂.freeSession (hses ▸ this) rfl

end Bound

/-- A call changes only live objects and fresh addresses: once an address that `malloc` handed
out is empty it stays empty, and `malloc` only moves forward. -/
structure Keeps (h h' : Heap) : Prop where
  next_le : h.next ≤ h'.next
  chans : ∀ {q}, q < h.next → h.chans q = none → h'.chans q = none
  sessions : ∀ {q}, q < h.next → h.sessions q = none → h'.sessions q = none

namespace Keeps

variable {p : Platform} {h h₁ h₂ h' : Heap}

theorem refl (h : Heap) : Keeps h h := ⟨Nat.le_refl _, fun _ hq => hq, fun _ hq => hq⟩

theorem trans (k₁ : Keeps h h₁) (k₂ : Keeps h₁ h₂) : Keeps h h₂ :=
  ⟨Nat.le_trans k₁.next_le k₂.next_le,
    fun hq hn => k₂.chans (Nat.lt_of_lt_of_le hq k₁.next_le) (k₁.chans hq hn),
    fun hq hn => k₂.sessions (Nat.lt_of_lt_of_le hq k₁.next_le) (k₁.sessions hq hn)⟩

theorem setChan {ch : Nat} {c : FuseChan} (hc : h.chans ch = some c) (x : Option FuseChan) :
    Keeps h (h.setChan ch x) :=
  ⟨Nat.le_refl _, fun {q} _ hq => by
    have : q ≠ ch := by rintro rfl; simp_all
    simp [Function.update_noteq this, hq], fun _ hq => hq⟩

theorem setSession {se : Nat} {s : FuseSession} (hs : h.sessions se = some s)
    (x : Option FuseSession) : Keeps h (h.setSession se x) :=
  ⟨Nat.le_refl _, fun _ hq => hq, fun {q} _ hq => by
    have : q ≠ se := by rintro rfl; simp_all
    simp [Function.update_noteq this, hq]⟩

theorem emitIfSet (h : Heap) (ptr : Nat) (e : Effect) : Keeps h (h.emitIfSet ptr e) :=
  ⟨by simp, fun _ hq => by simpa using hq, fun _ hq => by simpa using hq⟩

theorem removeChan {ch : Nat} (hr : fuseSessionRemoveChan h ch = some h') : Keeps h h' := by
  obtain ⟨c, hc, ⟨-, rfl⟩ | ⟨s, -, hs, -, rfl⟩⟩ := fuseSessionRemoveChan_eq_some.mp hr
  · exact refl _
  · exact (setSession hs _).trans (setChan (by simpa using hc) _)

theorem chanDestroy (hb : Bound h) {ch : Nat} (hd : fuseChanDestroy p h ch = some h') :
    Keeps h h' := by
  obtain ⟨h₁, hr, hs, hc, hn⟩ := hb.chanDestroy_frees hd
  obtain ⟨c, hc₁, -⟩ := (hb.removeChan hr).2
  have k := (removeChan hr).trans (setChan hc₁ none)
  exact ⟨by simpa [hn] using k.next_le, fun hq hn' => by simpa [hc] using k.chans hq hn',
    fun hq hn' => by simpa [hs] using k.sessions hq hn'⟩

theorem sessionDestroy (hb : Bound h) {se : Nat} (hd : fuseSessionDestroy p h se = some h') :
    Keeps h h' := by
  obtain ⟨s, hs, hcases⟩ := fuseSessionDestroy_eq_some.mp hd
  have k₁ := emitIfSet h s.op.destroy (.sessionDestroy s.op.destroy s.data)
  have hs₁ : (h.emitIfSet s.op.destroy (.sessionDestroy s.op.destroy s.data)).sessions se =
      some s := by simpa using hs
  rcases hcases with ⟨-, rfl⟩ | ⟨-, h₂, hh₂, rfl⟩
  · exact k₁.trans (setSession hs₁ none)
  · have hb₂ :=
      (hb.emitIfSet s.op.destroy (.sessionDestroy s.op.destroy s.data)).chanDestroy hh₂
    obtain ⟨-, -, h₃, hr, hses⟩ := hb₂
    have hs₂ := (hb.emitIfSet _ _).removeChan_sessions hr hs₁
    rw [← hses] at hs₂
    exact (k₁.trans (chanDestroy (hb.emitIfSet _ _) hh₂)).trans (setSession hs₂ none)

/-- Each of the six calls keeps freed addresses empty. -/
theorem apply (hb : Bound h) {c : BindCall} (ha : c.apply p h = some h') : Keeps h h' := by
  cases c with
  | sessionNew op data =>
    cases ha
    exact ⟨by simp [fuseSessionNew], fun _ hq => hq, fun {q} hq hn => by
      simp [fuseSessionNew, Function.update_noteq (Nat.ne_of_lt hq), hn]⟩
  | chanNew op fd bufsize data =>
    cases ha
    exact ⟨by simp [fuseChanNew, fuseChanNewCommon], fun {q} hq hn => by
      simp [fuseChanNew, fuseChanNewCommon, Function.update_noteq (Nat.ne_of_lt hq), hn],
      fun _ hq => hq⟩
  | addChan se ch =>
    obtain ⟨s, c, hs, hc, -, -, rfl⟩ := fuseSessionAddChan_eq_some.mp ha
    exact (setSession hs _).trans (setChan (by simpa using hc) _)
  | removeChan ch => exact removeChan ha
  | chanDestroy ch => exact chanDestroy hb ha
  | sessionDestroy se => exact sessionDestroy hb ha

end Keeps

variable {p : Platform} {h h' : Heap}

/-- Each of the six calls keeps the binding. -/
theorem Bound.apply (hb : Bound h) {c : BindCall} (ha : c.apply p h = some h') : Bound h' := by
  cases c with
  | sessionNew op data => cases ha; exact hb.sessionNew op data
  | chanNew op fd bufsize data => cases ha; exact hb.chanNew op fd bufsize data
  | addChan se ch => exact hb.addChan ha
  | removeChan ch => exact (hb.removeChan ha).1
  | chanDestroy ch => exact (hb.chanDestroy ha).1
  | sessionDestroy se => exact hb.sessionDestroy ha

theorem runBind_append (p : Platform) (h : Heap) (l₁ l₂ : List BindCall) :
    runBind p h (l₁ ++ l₂) = (runBind p h l₁).bind fun h' => runBind p h' l₂ := by
  induction l₁ generalizing h with
  | nil => rfl
  | cons c cs ih =>
    show ((c.apply p h).bind fun h' => runBind p h' (cs ++ l₂)) = _
    simp only [ih, runBind, Option.bind_assoc]

/-- Along every run the binding holds, and what is freed stays freed. -/
theorem runBind_bound {calls : List BindCall} (hb : Bound h) (hr : runBind p h calls = some h') :
    Bound h' ∧ Keeps h h' := by
  induction calls generalizing h with
  | nil => cases hr; exact ⟨hb, Keeps.refl _⟩
  | cons c cs ih =>
    obtain ⟨h₁, ha, hr'⟩ := Option.bind_eq_some.mp hr
    obtain ⟨hb', k⟩ := ih (hb.apply ha) hr'
    exact ⟨hb', (Keeps.apply hb ha).trans k⟩

/-- A call that runs `fuse_chan_destroy` on a channel frees it. -/
theorem BindCall.destroysChan_frees (hb : Bound h) {c : BindCall} (ha : c.apply p h = some h')
    {ch : Nat} (hd : c.DestroysChan h ch) : ch ≠ 0 ∧ ch < h.next ∧ h'.chans ch = none := by
  cases c with
  | chanDestroy ch₀ =>
    cases hd
    obtain ⟨h₁, c, hr, -⟩ := fuseChanDestroy_eq_some.mp ha
    obtain ⟨c₀, hc₀, -⟩ := fuseSessionRemoveChan_eq_some.mp hr
    exact ⟨(hb.chan_lt hc₀).1, (hb.chan_lt hc₀).2, (hb.chanDestroy ha).2.1⟩
  | sessionDestroy se =>
    obtain ⟨s, hs, hs0, rfl⟩ := hd
    obtain ⟨s', hs', ⟨hs'0, -⟩ | ⟨-, h₂, hh₂, rfl⟩⟩ :=
      fuseSessionDestroy_eq_some.mp ha <;> rw [hs] at hs' <;> cases hs'
    · exact absurd hs'0 hs0
    · obtain ⟨c, hc, -⟩ := hb.session_ch hs hs0
      exact ⟨(hb.chan_lt hc).1, (hb.chan_lt hc).2,
        by simpa using ((hb.emitIfSet _ _).chanDestroy hh₂).2.1⟩
  | _ => exact hd.elim

/-- A call that destroys a session frees it. -/
theorem BindCall.destroysSession_frees (hb : Bound h) {c : BindCall}
    (ha : c.apply p h = some h') {se : Nat} (hd : c.DestroysSession se) :
    se ≠ 0 ∧ se < h.next ∧ h'.sessions se = none := by
  cases c with
  | sessionDestroy se₀ =>
    cases hd
    obtain ⟨s, hs, ⟨-, rfl⟩ | ⟨-, h₂, -, rfl⟩⟩ := fuseSessionDestroy_eq_some.mp ha <;>
      exact ⟨(hb.session_lt hs).1, (hb.session_lt hs).2, by simp⟩
  | _ => exact hd.elim

/-- Any sequence of `fuse_session_new`, `fuse_chan_new`, `fuse_session_add_chan` (where its
`assert`s hold), `fuse_session_remove_chan`, `fuse_chan_destroy` and `fuse_session_destroy`,
on either build, ends in a heap where a live session names a live channel exactly when that
channel names it back, no live session names a channel some call destroyed, and no channel
names a session some call destroyed. -/
theorem session_channel_binding (p : Platform) (calls : List BindCall) (h : Heap)
    (hrun : runBind p Heap.empty calls = some h) :
    (∀ se s ch c, h.sessions se = some s → h.chans ch = some c → (s.ch = ch ↔ c.se = se)) ∧
    (∀ pre call post h₀ ch, calls = pre ++ call :: post → runBind p Heap.empty pre = some h₀ →
      call.DestroysChan h₀ ch → ∀ se s, h.sessions se = some s → s.ch ≠ ch) ∧
    (∀ pre call post h₀ se, calls = pre ++ call :: post → runBind p Heap.empty pre = some h₀ →
      call.DestroysSession se → ∀ ch c, h.chans ch = some c → c.se ≠ se) := by
  have hb := (runBind_bound Bound.empty hrun).1
  /- Split the run at the destroying call: it frees the object, and the rest of the run keeps
  it freed. -/
  have hsplit : ∀ {pre call post h₀}, calls = pre ++ call :: post →
      runBind p Heap.empty pre = some h₀ → ∃ h₁, call.apply p h₀ = some h₁ ∧ Bound h₀ ∧
        Keeps h₁ h := fun {pre call post h₀} hcalls hpre => by
    rw [hcalls, runBind_append, hpre, Option.some_bind] at hrun
    obtain ⟨h₁, ha, hpost⟩ := Option.bind_eq_some.mp hrun
    have hb₀ := (runBind_bound Bound.empty hpre).1
    exact ⟨h₁, ha, hb₀, (runBind_bound (hb₀.apply ha) hpost).2⟩
  refine ⟨fun se s ch c hs hc => ⟨fun hsch => ?_, fun hcse => ?_⟩, ?_, ?_⟩
  · obtain ⟨c', hc', hc'se⟩ := hb.session_ch hs (hsch ▸ (hb.chan_lt hc).1)
    rw [hsch, hc] at hc'; cases hc'; exact hc'se
  · obtain ⟨s', hs', hs'ch⟩ := hb.chan_se hc (hcse ▸ (hb.session_lt hs).1)
    rw [hcse, hs] at hs'; cases hs'; exact hs'ch
  · intro pre call post h₀ ch hcalls hpre hd se s hs hsch
    obtain ⟨h₁, ha, hb₀, k⟩ := hsplit hcalls hpre
    obtain ⟨hne, hlt, hfree⟩ := call.destroysChan_frees hb₀ ha hd
    obtain ⟨c, hc, -⟩ := hb.session_ch hs (hsch ▸ hne)
    have hk := k.chans (Nat.lt_of_lt_of_le hlt (Keeps.apply hb₀ ha).next_le) hfree
    rw [hsch, hc] at *; cases hk
  · intro pre call post h₀ se hcalls hpre hd ch c hc hcse
    obtain ⟨h₁, ha, hb₀, k⟩ := hsplit hcalls hpre
    obtain ⟨hne, hlt, hfree⟩ := call.destroysSession_frees hb₀ ha hd
    obtain ⟨s, hs, -⟩ := hb.chan_se hc (hcse ▸ hne)
    have hk := k.sessions (Nat.lt_of_lt_of_le hlt (Keeps.apply hb₀ ha).next_le) hfree
    rw [hcse, hs] at *; cases hk

/-- A session bound to a channel that is then destroyed. -/
def bindExample : List BindCall :=
  [.sessionNew ⟨7, 0, 0, 0⟩ 0, .chanNew ⟨8, 9, 0⟩ 3 4096 0, .addChan 1 2, .chanDestroy 2]

theorem session_channel_binding_example :
    runBind .apple Heap.empty bindExample =
        some ((runBind .apple Heap.empty bindExample).getD Heap.empty) ∧
      (∀ se s ch c, ((runBind .apple Heap.empty bindExample).getD Heap.empty).sessions se = some s →
        ((runBind .apple Heap.empty bindExample).getD Heap.empty).chans ch = some c →
        (s.ch = ch ↔ c.se = se)) ∧
      (∀ pre call post h₀ ch, bindExample = pre ++ call :: post →
        runBind .apple Heap.empty pre = some h₀ → call.DestroysChan h₀ ch → ∀ se s,
        ((runBind .apple Heap.empty bindExample).getD Heap.empty).sessions se = some s → s.ch ≠ ch) ∧
      (∀ pre call post h₀ se, bindExample = pre ++ call :: post →
        runBind .apple Heap.empty pre = some h₀ → call.DestroysSession se → ∀ ch c,
        ((runBind .apple Heap.empty bindExample).getD Heap.empty).chans ch = some c → c.se ≠ se) :=
  ⟨rfl, session_channel_binding .apple bindExample _ rfl⟩

/-! ## Binding and unbinding undo each other -/

section RoundTrip

variable {h h' : Heap} {se ch : Nat}

/-- Storing other values at a session's and a channel's addresses, then their own values back,
gives the heap back. -/
theorem Heap.restore_binding {s : FuseSession} {c : FuseChan} (hs : h.sessions se = some s)
    (hc : h.chans ch = some c) (s₁ : FuseSession) (c₁ : FuseChan) :
    (((h.setSession se (some s₁)).setChan ch (some c₁)).setSession se (some s)).setChan ch
      (some c) = h := by
  obtain ⟨sessions, chans, next, log⟩ := h
  simp only [Heap.setSession, Heap.setChan, Function.update_idem] at hs hc ⊢
  rw [← hs, ← hc, Function.update_eq_self, Function.update_eq_self]

/-- `fuse_session_remove_chan` undoes `fuse_session_add_chan` exactly, and a heap whose channel is
bound to a session is what binding it gave from the heap its unbinding gives. -/
theorem add_remove_chan_inverse (hse : se ≠ 0) :
    fuseSessionAddChan h se ch = some h' ↔
      fuseSessionRemoveChan h' ch = some h ∧ (h'.chans ch).map FuseChan.se = some se := by
  constructor
  · intro ha
    obtain ⟨s, c, hs, hc, hs0, hc0, rfl⟩ := fuseSessionAddChan_eq_some.mp ha
    have hs' : { { s with ch := ch } with ch := 0 } = s := by cases s; simp_all
    have hc' : { { c with se := se } with se := 0 } = c := by cases c; simp_all
    refine ⟨fuseSessionRemoveChan_eq_some.mpr ⟨{ c with se := se }, by simp,
      .inr ⟨{ s with ch := ch }, hse, by simp, rfl, ?_⟩⟩, by simp⟩
    simp only [hs', hc']
    exact (Heap.restore_binding hs hc _ _).symm
  · rintro ⟨hr, hb⟩
    obtain ⟨c, hc, hr⟩ := fuseSessionRemoveChan_eq_some.mp hr
    obtain rfl : c.se = se := by simpa [hc] using hb
    obtain ⟨h0, -⟩ | ⟨s, -, hs, hsch, rfl⟩ := hr
    · exact absurd h0 hse
    refine fuseSessionAddChan_eq_some.mpr ⟨{ s with ch := 0 }, { c with se := 0 }, by simp,
      by simp, rfl, rfl, ?_⟩
    have hs' : { { s with ch := 0 } with ch := ch } = s := by cases s; simp_all
    have hc' : { { c with se := 0 } with se := c.se } = c := by cases c; simp_all
    simp only [hs', hc']
    exact (Heap.restore_binding hs hc _ _).symm

/-- Binding the channel at `2` to the session at `1` and unbinding it gives the heap back. -/
theorem add_remove_chan_inverse_example :
    let h₀ := (fuseChanNew (fuseSessionNew Heap.empty ⟨0, 0, 0, 0⟩ 0).1 ⟨0, 0, 0⟩ 3 4096 0).1
    let h₁ := (fuseSessionAddChan h₀ 1 2).getD h₀
    (1 : Nat) ≠ 0 ∧ fuseSessionRemoveChan h₁ 2 = some h₀ := by
  intro h₀ h₁
  exact ⟨by decide, ((@add_remove_chan_inverse h₀ h₁ 1 2 (by decide)).mp rfl).1⟩

end RoundTrip

end MacFuse
