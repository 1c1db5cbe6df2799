import MacFuse.Session

/-!
# The request path of a session

A request travels from the channel's `receive` callback into a buffer, and from the buffer to
the application's `process` or `process_buf` callback. This file models
`fuse_chan_recv`, `fuse_session_receive_buf`, `fuse_session_process` and
`fuse_session_process_buf`, and compares the buffer path without overrides with the raw-bytes
path the spec describes for it.
-/

namespace MacFuse

/-- `struct fuse_buf`, for the fields read here: the size, the bytes at `mem`, and whether
`FUSE_BUF_IS_FD` is set. -/
structure FuseBuf where
  size : Nat
  mem : List UInt8
  isFd : Bool
  deriving DecidableEq, Repr

/-- A call of one of the application's request callbacks. -/
inductive Invocation where
  /-- `op.process(data, buf, len, ch)`. -/
  | process (fn data : Nat) (buf : List UInt8) (len : Nat) (ch : Nat)
  /-- `process_buf(data, buf, ch)`. -/
  | processBuf (fn data : Nat) (buf : FuseBuf) (ch : Nat)
  deriving DecidableEq, Repr

/-- What a channel's `receive` callback did on one call: the value it returned, the bytes it
wrote at the start of the buffer, and the channel it left in `*chp`. -/
structure Received where
  res : Int
  bytes : List UInt8
  ch : Nat
  deriving DecidableEq, Repr

/-- Write `bytes` at the start of a buffer. -/
def writeBytes (mem bytes : List UInt8) : List UInt8 := bytes ++ mem.drop bytes.length

/-- `fuse_chan_recv`: the channel's `receive` callback did `r`. A compat channel's callback is
given the channel itself, so `*chp` keeps it. -/
def fuseChanRecv (h : Heap) (ch : Nat) (r : Received) : Option (Int × List UInt8 × Nat) := do
  let c ← h.chans ch
  pure (r.res, r.bytes, if c.compat = 0 then r.ch else ch)

/-- `fuse_session_receive_buf`. Without the `receive_buf` override it is `fuse_chan_recv` into
the buffer, whose size becomes the count returned when that is positive; with the override,
`override` is what the session's own `receive_buf` did. -/
def fuseSessionReceiveBuf (h : Heap) (se : Nat) (buf : FuseBuf) (ch : Nat) (r : Received)
    (override : Int × FuseBuf × Nat) : Option (Int × FuseBuf × Nat) := do
  let s ← h.sessions se
  if s.receiveBuf = 0 then
    let (res, bytes, ch') ← fuseChanRecv h ch r
    let buf := { buf with mem := writeBytes buf.mem bytes }
    pure (res, if 0 < res then { buf with size := res.toNat } else buf, ch')
  else pure override

/-- `fuse_session_process`: the session's `process` callback with its data pointer; calling a
`NULL` callback is a crash. -/
def fuseSessionProcess (h : Heap) (se : Nat) (buf : List UInt8) (len : Nat) (ch : Nat) :
    Option Invocation := do
  let s ← h.sessions se
  if s.op.process = 0 then none else pure (.process s.op.process s.data buf len ch)

/-- `fuse_session_process_buf`: the `process_buf` override when set. Otherwise the `assert` on
`FUSE_BUF_IS_FD` and then `fuse_session_process(se->data, buf->mem, buf->size, ch)`: the
source passes the data pointer where the session is expected. -/
def fuseSessionProcessBuf (h : Heap) (se : Nat) (buf : FuseBuf) (ch : Nat) :
    Option Invocation := do
  let s ← h.sessions se
  if s.processBuf = 0 then
    if buf.isFd then none else fuseSessionProcess h s.data buf.mem buf.size ch
  else pure (.processBuf s.processBuf s.data buf ch)

/-- `fuse_session_receive_buf` followed by `fuse_session_process_buf` on the buffer and channel
it produced. -/
def receiveThenProcessBuf (h : Heap) (se : Nat) (buf : FuseBuf) (ch : Nat) (r : Received)
    (override : Int × FuseBuf × Nat) : Option Invocation := do
  let (_, buf', ch') ← fuseSessionReceiveBuf h se buf ch r override
  fuseSessionProcessBuf h se buf' ch'

/-- The raw-bytes path the spec says the buffer path degrades to: `fuse_chan_recv` followed by
`fuse_session_process(se, buf, res, ch)`. -/
def receiveThenProcessSpec (h : Heap) (se : Nat) (buf : FuseBuf) (ch : Nat) (r : Received) :
    Option Invocation := do
  let (res, bytes, ch') ← fuseChanRecv h ch r
  fuseSessionProcess h se (writeBytes buf.mem bytes) res.toNat ch'

/-- A session created with a `NULL` data pointer, with `process` at address `7` and no
overrides, bound to a channel with an 8-byte buffer. -/
def processBufHeap : Heap :=
  let (h, se) := fuseSessionNew Heap.empty ⟨7, 0, 0, 0⟩ 0
  let (h, ch) := fuseChanNew h ⟨8, 9, 0⟩ 3 8 0
  (fuseSessionAddChan h se ch).getD h

section Fallback

variable {h : Heap} {se ch : Nat} {buf : FuseBuf} {r : Received} {o : Int × FuseBuf × Nat}
  {s : FuseSession}

/-- Without overrides, the buffer path hands the request to the object at the session's data
pointer: it is `fuse_session_process(se->data, ...)` on the bytes received, with the count
received as the length when it is positive. -/
theorem receiveThenProcessBuf_fallback (hs : h.sessions se = some s) (hrecv : s.receiveBuf = 0)
    (hproc : s.processBuf = 0) (hfd : buf.isFd = false) :
    receiveThenProcessBuf h se buf ch r o = (fuseChanRecv h ch r).bind fun x =>
      fuseSessionProcess h s.data (writeBytes buf.mem x.2.1)
        (if 0 < x.1 then x.1.toNat else buf.size) x.2.2 := by
  cases hc : fuseChanRecv h ch r with
  | none => simp [receiveThenProcessBuf, fuseSessionReceiveBuf, hs, hrecv, hc]
  | some x =>
    obtain ⟨res, bytes, ch'⟩ := x
    by_cases hres : 0 < res <;>
      simp [receiveThenProcessBuf, fuseSessionReceiveBuf, fuseSessionProcessBuf, hs, hrecv,
        hproc, hc, hres, hfd]

end Fallback

/-- On that session, a 3-byte request goes nowhere: the fallback looks the session up at the
data pointer, `NULL`, and crashes, where the raw-bytes path calls `process` once with the
session's data, the bytes received, their count and the channel. -/
theorem process_buf_fallback_uses_data_as_session :
    receiveThenProcessBuf processBufHeap 1 ⟨8, List.replicate 8 0, false⟩ 2 ⟨3, [1, 2, 3], 2⟩
        (0, ⟨0, [], false⟩, 0) = none ∧
      receiveThenProcessSpec processBufHeap 1 ⟨8, List.replicate 8 0, false⟩ 2
        ⟨3, [1, 2, 3], 2⟩ = some (.process 7 0 [1, 2, 3, 0, 0, 0, 0, 0] 3 2) := by
  decide

end MacFuse
