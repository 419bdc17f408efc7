import Mathlib.Algebra.Order.Ring.Int

/-!
Vocabulary shared by both roles: the error values of internal/h2/errors.go,
HTTP/2 error codes, the frames `Framer.ReadFrame` hands to a frame loop and
the intents `processIntent` writes. A frame carries the fields the loops read;
`data` keeps the full payload length apart from the usable bytes because
padding counts for flow control.
-/

namespace ReverseHttp.Wire

abbrev Bytes := List UInt8
abbrev StreamID := Nat
abbrev ErrCode := Nat

/-- The two ends of a tunnel. -/
inductive Role where
  | worker
  | proxy
  deriving DecidableEq, Repr

def Role.other : Role → Role
  | .worker => .proxy
  | .proxy => .worker

@[simp] theorem Role.other_other (role : Role) : role.other.other = role := by
  cases role <;> rfl

/-- The capacity of a connection's write queue. -/
def writeQSize : Nat := 256

/-- `PeerMaxStreams` while the peer has named no limit. -/
def noStreamLimit : Nat := 4294967295

/-- `NextStreamID` on a `uint32`. -/
def nextID (current : Nat) : Nat := if current = 0 then 1 else (current + 2) % 4294967296

def errCodeNo : ErrCode := 0
def errCodeProtocol : ErrCode := 1
def errCodeInternal : ErrCode := 2
def errCodeCancel : ErrCode := 8

inductive H2Error where
  | connClosed
  | contInterleaved
  | goaway
  | streamReset
  | hpackDecode
  | pingTimeout
  | alpn
  | headerListTooLarge
  | badSettings
  deriving DecidableEq, Repr

def H2Error.message : H2Error → String
  | .connClosed => "rhttp/h2: connection closed"
  | .contInterleaved => "rhttp/h2: frame interleaved with CONTINUATION"
  | .goaway => "rhttp/h2: received GOAWAY"
  | .streamReset => "rhttp/h2: stream reset by peer"
  | .hpackDecode => "rhttp/h2: hpack decode failed"
  | .pingTimeout => "rhttp/h2: PING timeout"
  | .alpn => "rhttp/h2: peer did not negotiate ALPN h2"
  | .headerListTooLarge => "rhttp/h2: header list exceeded SETTINGS_MAX_HEADER_LIST_SIZE"
  | .badSettings => "rhttp/h2: peer sent invalid SETTINGS value"

def maxHeaderListSize : Nat := 2 ^ 20

structure Setting where
  id : Nat
  val : Nat
  deriving DecidableEq, Repr

def settingEnablePush : Nat := 2
def settingInitialWindowSize : Nat := 4
def settingMaxFrameSize : Nat := 5

inductive Frame where
  | settings (ack : Bool) (values : List Setting)
  | windowUpdate (streamID : StreamID) (increment : Nat)
  | headers (streamID : StreamID) (fragment : Bytes) (endHeaders endStream : Bool)
  | continuation (streamID : StreamID) (fragment : Bytes) (endHeaders : Bool)
  | data (streamID : StreamID) (payload : Bytes) (length : Nat) (endStream : Bool)
  | ping (ack : Bool) (payload : Bytes)
  | goAway (lastStreamID : StreamID) (code : ErrCode)
  | rstStream (streamID : StreamID) (code : ErrCode)
  | pushPromise (streamID : StreamID) (fragment : Bytes) (endHeaders : Bool)
  | other (streamID : StreamID)
  deriving DecidableEq, Repr

/-- DATA frames that leave the stream open, in the form a sender records them in. -/
def datas {Out : Type} (data : Bytes → Bool → Out) (chunks : List Bytes) : List Out :=
  chunks.map fun chunk => data chunk false

section Datas

variable {Out : Type} {data : Bytes → Bool → Out}

theorem datas_append (chunks more : List Bytes) :
    datas data (chunks ++ more) = datas data chunks ++ datas data more := List.map_append

theorem flatMap_datas {bytes : Out → Bytes} (carries : ∀ chunk, bytes (data chunk false) = chunk)
    (chunks : List Bytes) : (datas data chunks).flatMap bytes = chunks.flatten := by
  simp [datas, List.flatMap_map, carries, List.flatMap_id']

end Datas

end ReverseHttp.Wire
