/-
The server frame and its two codecs, `GetServerFrameStruct` and `ConvertFrameStructToFrame` up to `origin_buf`.

Allocations succeed. A read outside a buffer, or a loop that never ends, is `none`.
- `getServerFrameStruct`: the decoder, with its CRC gate and the parameter loop driven by `getParameterNum`;
- `originBuf`: the unescaped frame the encoder builds.
-/
import DataConcentrator.Lib.ByteStore
import DataConcentrator.Lib.CLoop
import DataConcentrator.Common.Bytes
import DataConcentrator.Common.Crc
import DataConcentrator.Common.Text

namespace DataConcentrator.Protocol

/-! ## Data -/

inductive ConnectionMode where
  | modeInside
  | mode4G
  | modeEth
  | modeNbIot
  | modeWifi
deriving DecidableEq, Repr

/-- `ServerFrame_S`: the first `len` bytes of `buf` are the frame -/
structure ServerFrame where
  connection_mode : ConnectionMode
  len : ℕ
  buf : List UInt8
  fits : len ≤ buf.length
deriving DecidableEq, Repr

/-- an unescaped frame of its own length -/
def frameOf (mode : ConnectionMode) (buf : List UInt8) : ServerFrame := ⟨mode, buf.length, buf, le_rfl⟩

/-- `Parameter_S`; `value` is the whole buffer the pointer leads to -/
structure Parameter where
  type : UInt16
  len : ℕ
  value : List UInt8
deriving DecidableEq, Repr

/-- `ServerFrameStruct_S`; an entry of `para` is `none` while nothing has been stored in it -/
structure ServerFrameStruct where
  connection_mode : ConnectionMode
  start : UInt8
  msg_type : UInt8
  serial_num : UInt32
  msg_len : UInt16
  err_code : UInt8
  crc32 : UInt32
  msg_id : UInt16
  gateway_id : UInt32
  device_id : UInt32
  para_num : ℕ
  para : List (Option Parameter)
  stop : UInt8
deriving DecidableEq, Repr

def SERVER_REQUEST_DOWN : UInt8 := 0x01
def SERVER_RESPONSE_DOWN : UInt8 := 0x04
def SYNC_RESPONSE : UInt8 := 0x05

/-- `memset(server_frame_struct, 0, ..)` -/
def ServerFrameStruct.zero : ServerFrameStruct :=
  ⟨.modeInside, 0, 0, 0, 0, 0, 0, 0, 0, 0, 0, [], 0⟩

def ServerFrame.at (f : ServerFrame) (i : ℕ) : UInt8 := f.buf.getD i 0

/-- `para[i]`, when it has been stored -/
def ServerFrameStruct.paraAt (s : ServerFrameStruct) (i : ℕ) : Option Parameter := (s.para[i]?).join

/-! ## Decoder -/

/-- `cnt` is a `u8`; the source's comment puts the first parameter value at 29, the loop starts at its type, 27 -/
def getParameterNum (f : ServerFrame) : ℕ :=
  ((f.buf.take f.len).drop 27).foldl (fun cnt b => if b = 0 then (cnt + 1) % 256 else cnt) 0

/-- one round of the loop of `GetParameters`: the parameter at `pos` and the position after it -/
def getParameter (f : ServerFrame) (pos : ℕ) : Option (Parameter × ℕ) :=
  match f.buf.drop pos with
  | hi :: lo :: msg => (strlen msg).map fun n =>
    let len := n % 65536
    (⟨getBe16 hi lo, len, msg.take (len + 1)⟩, (pos + 2 + (len + 1)) % 65536)
  | _ => none

def getParametersFrom (f : ServerFrame) : ℕ → ℕ → Option (List (Option Parameter))
  | 0, _ => some []
  | n + 1, pos =>
    if pos < f.len - 1 then
      (getParameter f pos).bind fun (p, next) => (getParametersFrom f n next).map (some p :: ·)
    else
      -- the entry keeps what the allocation left in it
      (getParametersFrom f n pos).map (none :: ·)

def getParameters (s : ServerFrameStruct) (f : ServerFrame) : Option (ℕ × ServerFrameStruct) :=
  let para_num := getParameterNum f
  (getParametersFrom f para_num 27).map fun para => (para_num, { s with para_num := para_num, para := para })

/-- a `u8` result returned as `s8` -/
def asS8 (n : ℕ) : ℤ := if n < 128 then n else (n : ℤ) - 256

def getServerFrameStruct (f : ServerFrame) : Option (ℤ × ServerFrameStruct) :=
  let s := ServerFrameStruct.zero
  if f.len < 28 then some (-1, s)
  else
    let s := { s with crc32 := getBe32 (f.at 13) (f.at 14) (f.at 15) (f.at 16) }
    let crc32_cal := crc32 ((f.buf.drop 17).take (f.len - 18))
    if crc32_cal = s.crc32 then
      let s := { s with
        connection_mode := f.connection_mode
        start := f.at 0
        msg_type := f.at 1
        serial_num := getBe32 (f.at 2) (f.at 3) (f.at 4) (f.at 5)
        msg_len := getBe16 (f.at 6) (f.at 7)
        err_code := f.at 8
        msg_id := getBe16 (f.at 17) (f.at 18)
        gateway_id := getBe32 (f.at 19) (f.at 20) (f.at 21) (f.at 22)
        device_id := getBe32 (f.at 23) (f.at 24) (f.at 25) (f.at 26)
        stop := f.at (f.len - 1) }
      if s.msg_type = SERVER_REQUEST_DOWN ∨ s.msg_type = SERVER_RESPONSE_DOWN ∨ s.msg_type = SYNC_RESPONSE then
        (getParameters s f).map fun (ret, s) => (asS8 ret, s)
      else some (0, s)
    else some (-2, s)

/-! ## Encoder -/

/-- `for (i = 0; i < bound; i ++)` with `u8 i`: a loop that ends takes at most 255 rounds -/
def forU8 {σ : Type*} (bound : ℕ) (body : σ → ℕ → Option σ) (s : σ) : Option σ :=
  CLoop.forLoop 8 bound body 255 0 s

/-- the first loop: the length of the frame, a `u16` -/
def originFrameLen (s : ServerFrameStruct) : Option ℕ :=
  forU8 s.para_num (fun n i => (s.paraAt i).bind fun p => some ((n + 3 + p.len) % 65536)) 28

/-- bytes 0 to 12 -/
def frameHead (s : ServerFrameStruct) (origin_frame_len : ℕ) : List UInt8 :=
  s.start :: s.msg_type :: putBe32 s.serial_num ++ putBe16 (UInt16.ofNat (origin_frame_len + 65536 - 18)) ++
    [s.err_code, 0, 0, 0, 0]

/-- bytes 17 to 26 -/
def frameIds (s : ServerFrameStruct) : List UInt8 :=
  putBe16 s.msg_id ++ putBe32 s.gateway_id ++ putBe32 s.device_id

/-- one round of the second loop, on the buffer and `offset` -/
def putParameter (st : (ℕ → UInt8) × ℕ) (p : Parameter) : Option ((ℕ → UInt8) × ℕ) :=
  let offset := (st.2 + 2) % 65536
  if p.len < p.value.length then
    some (ByteStore.write (ByteStore.write st.1 st.2 (putBe16 p.type)) offset (p.value.take (p.len + 1)),
      (offset + (p.len + 1)) % 65536)
  else none

/-- `origin_buf` of `ConvertFrameStructToFrame`, allocated with the contents `heap` -/
def originBuf (heap : ℕ → UInt8) (s : ServerFrameStruct) : Option (List UInt8) :=
  (originFrameLen s).bind fun n =>
    let buf := ByteStore.write heap 0 (frameHead s n ++ [0, 0, 0, 0] ++ frameIds s)
    let buf := ByteStore.write buf (n - 1) [s.stop]
    (forU8 s.para_num (fun st i => (s.paraAt i).bind (putParameter st)) (buf, 27)).map fun (buf, _) =>
      let crc32_cal := crc32 (ByteStore.read buf 17 (n - 18))
      ByteStore.read (ByteStore.write buf 13 (putBe32 crc32_cal)) 0 n

/-! ## Copies -/

/-- a parameter and `len + 1` bytes of its value -/
def copyParameter (p : Parameter) : Option Parameter :=
  if p.len < p.value.length then some ⟨p.type, p.len, p.value.take (p.len + 1)⟩ else none

/-- `CopyServerFrameStruct`; mode 1 copies the parameters as well -/
def copyServerFrameStruct (s : ServerFrameStruct) (mode : ℕ) : Option ServerFrameStruct :=
  if mode = 1 then
    (forU8 s.para_num (fun copied i => (s.paraAt i).bind fun p => (copyParameter p).map (copied ++ [some ·])) []).map
      fun para => { s with para := para }
  else some { s with para_num := 0, para := [] }

end DataConcentrator.Protocol
