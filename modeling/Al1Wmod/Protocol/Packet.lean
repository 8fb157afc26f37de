import Al1Wmod.Protocol.Crc8
import Al1Wmod.Stream.Buffer

/-!
# Attentio Protocol packets

`attentio_protocol.h` and the packet builders.  A packet is

    [SYNC 0xA5][LEN][CMD][PAYLOAD][CRC8]

where LEN counts CMD and PAYLOAD, and the CRC covers `LEN..PAYLOAD`.
-/

namespace Al1Wmod

open Buffer

/-- `AP_SYNC_BYTE`. -/
def apSyncByte : UInt8 := 0xA5

/-- `AP_MAX_PAYLOAD_SIZE`. -/
def apMaxPayloadSize : ℕ := 252

/-- `AP_MIN_PACKET_SIZE`. -/
def apMinPacketSize : ℕ := 4

/-- `AP_CMD_CLAIM`. -/
def apCmdClaim : UInt8 := 0x01

/-- `AP_CMD_RELEASE`. -/
def apCmdRelease : UInt8 := 0x02

/-- `AP_CMD_PING`. -/
def apCmdPing : UInt8 := 0x03

/-- `AP_CMD_POWER_ON`. -/
def apCmdPowerOn : UInt8 := 0x10

/-- `AP_CMD_POWER_OFF`. -/
def apCmdPowerOff : UInt8 := 0x11

/-- `AP_CMD_LED_OFF`. -/
def apCmdLedOff : UInt8 := 0x20

/-- `AP_CMD_SET_RGB`. -/
def apCmdSetRgb : UInt8 := 0x21

/-- `AP_CMD_SET_HSV`. -/
def apCmdSetHsv : UInt8 := 0x22

/-- `AP_CMD_SET_BRIGHTNESS`. -/
def apCmdSetBrightness : UInt8 := 0x23

/-- `AP_CMD_SET_EFFECT`. -/
def apCmdSetEffect : UInt8 := 0x30

/-- `AP_CMD_SETTINGS_SET`. -/
def apCmdSettingsSet : UInt8 := 0x52

/-- `AP_CMD_EVT_SESSION_END`. -/
def apCmdEvtSessionEnd : UInt8 := 0x82

/-- `AP_CMD_OK`. -/
def apCmdOk : UInt8 := 0xF0

/-- `AP_CMD_ERROR`. -/
def apCmdError : UInt8 := 0xF1

/-- `ap_error_t`. -/
inductive ApError where
  | none | notController | invalidCmd | invalidParam | invalidState | crcFail
  deriving DecidableEq, Repr

/-- The wire value of an error code. -/
def ApError.code : ApError → UInt8
  | .none => 0x00
  | .notController => 0x01
  | .invalidCmd => 0x02
  | .invalidParam => 0x03
  | .invalidState => 0x04
  | .crcFail => 0x05

/-- `ap_cmd_requires_claim`. -/
def apCmdRequiresClaim (cmd : UInt8) : Bool :=
  cmd == apCmdLedOff || cmd == apCmdSetRgb || cmd == apCmdSetHsv || cmd == apCmdSetBrightness ||
  cmd == apCmdSetEffect || cmd == apCmdPowerOn || cmd == apCmdPowerOff || cmd == apCmdSettingsSet

theorem apCmdRequiresClaim_claim : apCmdRequiresClaim apCmdClaim = false := rfl

theorem apCmdRequiresClaim_release : apCmdRequiresClaim apCmdRelease = false := rfl

/-- `ap_build_packet`: the buffer after the call, and the return value.  `none` is the null
pointer; with a null payload the payload bytes are left as they were. -/
def apBuildPacket (buf : Option (ℕ → UInt8)) (bufSize : ℕ) (cmd : UInt8)
    (payload : Option (ℕ → UInt8)) (payloadLen : UInt8) : Option (ℕ → UInt8) × ℕ :=
  let total := 4 + payloadLen.toNat
  match buf with
  | none => (none, 0)
  | some buf =>
    if bufSize < total then (some buf, 0)
    else if apMaxPayloadSize < payloadLen.toNat then (some buf, 0)
    else
      let lenField := 1 + payloadLen
      let head := blit buf 0 [apSyncByte, lenField, cmd]
      let body := match payload with
        | some src => blit head 3 (slice src 0 payloadLen.toNat)
        | none => head
      (some (write body (3 + payloadLen.toNat) (apCrc8 (slice body 1 (lenField.toNat + 1)))),
        total)

/-- `ap_build_error`. -/
def apBuildError (buf : Option (ℕ → UInt8)) (bufSize : ℕ) (errorCode : ApError) :
    Option (ℕ → UInt8) × ℕ :=
  apBuildPacket buf bufSize apCmdError (some (ofList 0 [errorCode.code])) 1

/-- A packet as a list of bytes. -/
def apPacketBytes (cmd : UInt8) (payload : List UInt8) : List UInt8 :=
  apSyncByte :: UInt8.ofNat (1 + payload.length) :: cmd :: (payload ++
    [apCrc8 (UInt8.ofNat (1 + payload.length) :: cmd :: payload)])

/-- **The builder writes the packet**, whatever the buffer held before. -/
theorem apBuildPacket_eq {bufSize : ℕ} (buf src : ℕ → UInt8) (cmd : UInt8) {payload : List UInt8}
    (hlen : payload.length ≤ apMaxPayloadSize) (hsize : 4 + payload.length ≤ bufSize)
    (hsrc : slice src 0 payload.length = payload) :
    (apBuildPacket (some buf) bufSize cmd (some src) (UInt8.ofNat payload.length)).2 =
        4 + payload.length ∧
      written (apBuildPacket (some buf) bufSize cmd (some src) (UInt8.ofNat payload.length)) =
        apPacketBytes cmd payload := by
  rw [apMaxPayloadSize] at hlen
  have hn : (UInt8.ofNat payload.length).toNat = payload.length := by
    rw [UInt8.toNat_ofNat']
    omega
  have hfield : 1 + UInt8.ofNat payload.length = UInt8.ofNat (1 + payload.length) := by
    apply UInt8.toNat_inj.mp
    rw [UInt8.toNat_add, hn, UInt8.toNat_ofNat', show (1 : UInt8).toNat = 1 from rfl]
  have hfield' : (UInt8.ofNat (1 + payload.length)).toNat = 1 + payload.length := by
    rw [UInt8.toNat_ofNat']
    omega
  set head := [apSyncByte, UInt8.ofNat (1 + payload.length), cmd] with hhead
  have hbody : slice (blit (blit buf 0 head) 3 payload) 0 (3 + payload.length) =
      head ++ payload := by
    rw [slice_add, slice_blit_of_le _ _ (by omega), Nat.zero_add, slice_blit]
    exact congrArg (· ++ payload) (slice_blit buf 0 head)
  have hcov : slice (blit (blit buf 0 head) 3 payload) 1 (1 + payload.length + 1) =
      UInt8.ofNat (1 + payload.length) :: cmd :: payload := by
    rw [show 3 + payload.length = 1 + payload.length + 1 + 1 by omega, slice_succ] at hbody
    exact (List.cons.inj hbody).2
  have hbuild : apBuildPacket (some buf) bufSize cmd (some src) (UInt8.ofNat payload.length) =
      (some (write (blit (blit buf 0 head) 3 payload) (3 + payload.length)
        (apCrc8 (UInt8.ofNat (1 + payload.length) :: cmd :: payload))), 4 + payload.length) := by
    simp only [apBuildPacket, hn, Nat.not_lt.mpr hsize, if_false, apMaxPayloadSize,
      Nat.not_lt.mpr hlen, hsrc, hfield, hfield', ← hhead, hcov]
  rw [hbuild]
  refine ⟨rfl, ?_⟩
  show slice _ 0 (4 + payload.length) = _
  rw [show 4 + payload.length = 3 + payload.length + 1 by omega]
  have hlast := slice_write_last (blit (blit buf 0 head) 3 payload) 0 (3 + payload.length)
    (apCrc8 (UInt8.ofNat (1 + payload.length) :: cmd :: payload))
  rw [Nat.zero_add] at hlast
  rw [hlast, hbody]
  simp [apPacketBytes, hhead]

end Al1Wmod
