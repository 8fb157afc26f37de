import Al1Wmod.Ble.Session
import Al1Wmod.Stream.Reads

/-!
# The session id

`al1_ble_ap_bridge_on_link_ap` takes the session id out of the OK that binds a connection.  It
looks at the LEN byte inside the frame and not at the length of the payload.  So an OK of three or
four bytes that announces a session id yields what an earlier frame has left in the buffer of the
link parser, and an OK that announces none leaves the id of an earlier session in place.

`onLinkApReads` is the same function, as a computation over the payload that says what it reads.
-/

namespace Al1Wmod

open Buffer Reads Reader

/-- CMD, if the payload has one. -/
def readCmd (len : UInt16) : Reader UInt8 UInt8 :=
  if apOffCmd < len.toNat then letter apOffCmd else pure 0xFF

/-- The session id of an OK. -/
def readSessionId (s : Session) : Reader UInt8 UInt16 := do
  let apLen ← letter apOffLen
  if 3 ≤ apLen then do
    let hi ← letter apOffPayload
    let lo ← letter (apOffPayload + 1)
    pure (hi.toUInt16 <<< 8 ||| lo.toUInt16)
  else pure s.sessionId

/-- `al1_ble_ap_bridge_on_link_ap`, as a computation over the payload.  Notifying reads all of it. -/
def onLinkApReads (s : Session) (len : UInt16) : Reader UInt8 (Session × List Action) := do
  let cmd ← readCmd len
  if cmd = apCmdOk ∧ s.pendingClaimConn ≠ connNone then do
    let sessionId ← readSessionId s
    let data ← block 0 len.toNat
    pure (⟨s.pendingClaimConn, sessionId, connNone⟩, [.notifyConn s.pendingClaimConn data])
  else if cmd = apCmdEvtSessionEnd then
    if s.controllingConn ≠ connNone then do
      let data ← block 0 len.toNat
      pure (clearBinding s, [.notifyConn s.controllingConn data])
    else pure (clearBinding s, [])
  else do
    let data ← block 0 len.toNat
    pure (s, if s.controllingConn ≠ connNone then [.notifyConn s.controllingConn data]
      else [.notifyAll data])

section Reads

variable (s : Session) (payload : ℕ → UInt8) (len : UInt16)

theorem result_readCmd : (readCmd len).result payload = apPeek payload len := by
  rw [readCmd, apPeek]
  split <;> rfl

theorem result_readSessionId : (readSessionId s).result payload =
    if 3 ≤ payload apOffLen then
      (payload apOffPayload).toUInt16 <<< 8 ||| (payload (apOffPayload + 1)).toUInt16
    else s.sessionId := by
  rw [readSessionId, result_bind, result_letter]
  split <;> rfl

/-- **It computes the same.** -/
theorem result_onLinkApReads :
    (onLinkApReads s len).result payload = al1BleApBridgeOnLinkAp s payload len := by
  rw [onLinkApReads, result_bind, result_readCmd, al1BleApBridgeOnLinkAp]
  by_cases hok : apPeek payload len = apCmdOk ∧ s.pendingClaimConn ≠ connNone
  · simp only [if_pos hok, result_bind, result_readSessionId, result_block, result_pure]
  · simp only [if_neg hok]
    by_cases hend : apPeek payload len = apCmdEvtSessionEnd
    · simp only [if_pos hend]
      split <;> simp only [result_bind, result_block, result_pure]
    · simp only [if_neg hend, result_bind, result_block, result_pure]

theorem mem_reads_readCmd {i : ℕ} (hi : i ∈ (readCmd len).reads payload) : i < len.toNat := by
  rw [readCmd] at hi
  split at hi
  · next h => exact List.mem_singleton.mp hi ▸ h
  · exact absurd hi List.not_mem_nil

theorem mem_reads_block {i : ℕ} (hi : i ∈ (block 0 len.toNat).reads payload) : i < len.toNat := by
  rw [reads_block, List.mem_range'_1] at hi
  omega

end Reads

/-- The session id that a frame of `len` bytes carries, or 0. -/
def carriedId (payload : ℕ → UInt8) (len : UInt16) : UInt16 :=
  if 3 ≤ payload apOffLen ∧ apOffPayload + 1 < len.toNat then
    (payload apOffPayload).toUInt16 <<< 8 ||| (payload (apOffPayload + 1)).toUInt16
  else 0

/-- What is done with a frame depends on its own bytes.  Nothing is read behind them; and after an
OK that binds a connection, the session id is the one it carries, whatever stands behind the frame
and whatever the session id was. -/
def OwnBytes (s : Session) (payload : ℕ → UInt8) (len : UInt16) : Prop :=
  (∀ i ∈ (onLinkApReads s len).reads payload, i < len.toNat) ∧
    (apPeek payload len = apCmdOk → ∀ (t : Session) (payload' : ℕ → UInt8),
      t.pendingClaimConn = s.pendingClaimConn → (∀ i < len.toNat, payload' i = payload i) →
      (al1BleApBridgeOnLinkAp t payload' len).1.controllingConn = s.pendingClaimConn ∧
        (al1BleApBridgeOnLinkAp t payload' len).1.sessionId = carriedId payload len)

/-- An OK announces a session id, and has room for it. -/
def CarriesId (payload : ℕ → UInt8) (len : UInt16) : Prop :=
  apPeek payload len = apCmdOk → 3 ≤ payload apOffLen ∧ apOffPayload + 1 < len.toNat

instance (payload : ℕ → UInt8) (len : UInt16) : Decidable (CarriesId payload len) :=
  inferInstanceAs (Decidable (_ → _))

section OwnBytes

variable {s : Session} {payload : ℕ → UInt8} {len : UInt16}

/-- What an OK that binds a connection reads. -/
theorem reads_onLinkApReads_ok (hp : s.pendingClaimConn ≠ connNone)
    (hok : apPeek payload len = apCmdOk) :
    (onLinkApReads s len).reads payload = (readCmd len).reads payload ++
      ((readSessionId s).reads payload ++ ((block 0 len.toNat).reads payload ++ [])) := by
  rw [onLinkApReads, reads_bind, result_readCmd, if_pos ⟨hok, hp⟩, reads_bind, reads_bind]
  rfl

theorem reads_readSessionId (s : Session) (payload : ℕ → UInt8) :
    (readSessionId s).reads payload =
      apOffLen :: if 3 ≤ payload apOffLen then [apOffPayload, apOffPayload + 1] else [] := by
  rw [readSessionId, reads_bind, reads_letter, result_letter]
  split <;> rfl

/-- **Nothing is read behind a frame** that carries the session id it announces. -/
theorem CarriesId.reads_lt (h : CarriesId payload len) (hp : s.pendingClaimConn ≠ connNone) :
    ∀ i ∈ (onLinkApReads s len).reads payload, i < len.toNat := by
  intro i hi
  by_cases hok : apPeek payload len = apCmdOk
  · obtain ⟨hann, hroom⟩ := h hok
    rw [reads_onLinkApReads_ok hp hok, List.append_nil, List.mem_append, List.mem_append,
      reads_readSessionId, if_pos hann] at hi
    rcases hi with hi | hi | hi
    · exact mem_reads_readCmd payload len hi
    · simp only [List.mem_cons, List.not_mem_nil, or_false, apOffLen, apOffPayload] at hi hroom
      omega
    · exact mem_reads_block payload len hi
  · rw [onLinkApReads, reads_bind, result_readCmd, if_neg fun h => hok h.1, List.mem_append] at hi
    rcases hi with hi | hi
    · exact mem_reads_readCmd payload len hi
    · by_cases hend : apPeek payload len = apCmdEvtSessionEnd
      · rw [if_pos hend] at hi
        split at hi
        · rw [reads_bind, reads_pure, List.append_nil] at hi
          exact mem_reads_block payload len hi
        · exact absurd hi List.not_mem_nil
      · rw [if_neg hend, reads_bind, reads_pure, List.append_nil] at hi
        exact mem_reads_block payload len hi

/-- What an OK makes of the session. -/
theorem onLinkAp_ok (hp : s.pendingClaimConn ≠ connNone) (hok : apPeek payload len = apCmdOk) :
    (al1BleApBridgeOnLinkAp s payload len).1 = ⟨s.pendingClaimConn,
      if 3 ≤ payload apOffLen then
        (payload apOffPayload).toUInt16 <<< 8 ||| (payload (apOffPayload + 1)).toUInt16
      else s.sessionId, connNone⟩ := by
  rw [al1BleApBridgeOnLinkAp, if_pos ⟨hok, hp⟩]

/-- **Handling a frame by its own bytes.**  While a claim is pending, a frame of the STM32 is
handled by its own bytes exactly if it is not an OK, or carries the session id that it announces. -/
theorem ownBytes_iff (hp : s.pendingClaimConn ≠ connNone) :
    OwnBytes s payload len ↔ CarriesId payload len := by
  constructor
  · rintro ⟨hreads, hbind⟩ hok
    have hann : 3 ≤ payload apOffLen := by
      by_contra hann
      -- two sessions that differ in the id only
      have hid := ((hbind hok) { s with sessionId := 1 } payload rfl fun _ _ => rfl).2
      rw [onLinkAp_ok (s := { s with sessionId := 1 }) hp hok, if_neg hann, carriedId,
        if_neg fun h => hann h.1] at hid
      exact absurd (show (1 : UInt16) = 0 from hid) (by decide)
    refine ⟨hann, hreads _ ?_⟩
    rw [reads_onLinkApReads_ok hp hok, reads_readSessionId, if_pos hann]
    simp
  · intro h
    refine ⟨h.reads_lt hp, ?_⟩
    intro hok t payload' ht hagree
    obtain ⟨hann, hroom⟩ := h hok
    have hpt : t.pendingClaimConn ≠ connNone := ht ▸ hp
    -- the bytes behind the frame are not read
    have hsame := (Reader.congr (m := onLinkApReads t len) fun i hi =>
      hagree i (h.reads_lt hpt i hi)).1
    rw [result_onLinkApReads, result_onLinkApReads] at hsame
    rw [hsame, onLinkAp_ok hpt hok, if_pos hann, carriedId, if_pos ⟨hann, hroom⟩]
    exact ⟨ht, rfl⟩

end OwnBytes

/-- An OK with a session id in it. -/
theorem ownBytes_iff_ok : OwnBytes ⟨1, 7, 2⟩ (ofList 0xEE (apPacketBytes apCmdOk [0, 8])) 6 :=
  (ownBytes_iff (by decide)).mpr (by decide +kernel)

/-- **An OK that does not carry the id.**  Connection 1 holds session 7 and connection 2 claims.  If
the OK announces a session id and stops before it, the id is what an earlier frame has left in
the buffer; if it announces none, connection 2 gets the id of connection 1. -/
theorem not_ownBytes : ∃ b hist, Reached al1BleMaxConn b hist ∧
    b.session.pendingClaimConn ≠ connNone ∧
    (∃ payload, ¬ OwnBytes b.session payload 4 ∧
      (al1BleApBridgeOnLinkAp b.session payload 4).1.sessionId = 0x00EE) ∧
    ∃ payload, ¬ OwnBytes b.session payload 4 ∧
      (al1BleApBridgeOnLinkAp b.session payload 4).1 = ⟨2, 7, connNone⟩ := by
  have hreached := @reached_bridgeRun al1BleMaxConn [.connEvt 1 true, .connEvt 2 true,
    .write 1 (apPacketBytes apCmdClaim []), .linkAp (ofList 0 (apPacketBytes apCmdOk [0, 7])) 6,
    .write 2 (apPacketBytes apCmdClaim [])] (by decide +kernel)
  have hpending : (bridgeRun al1BleMaxConn [.connEvt 1 true, .connEvt 2 true,
      .write 1 (apPacketBytes apCmdClaim []), .linkAp (ofList 0 (apPacketBytes apCmdOk [0, 7])) 6,
      .write 2 (apPacketBytes apCmdClaim [])]).1.session.pendingClaimConn ≠ connNone := by
    decide +kernel
  refine ⟨_, _, hreached, hpending, ⟨ofList 0xEE [0xA5, 3, apCmdOk, 0], ?_, by decide +kernel⟩,
    ofList 0xEE (apPacketBytes apCmdOk []), ?_, by decide +kernel⟩
  · intro h
    -- the byte at index 4 is read
    have hread := h.1 4 (by decide +kernel)
    exact absurd hread (by decide)
  · intro h
    have hid := (h.2 (by decide +kernel) _ _ rfl fun _ _ => rfl).2
    revert hid
    decide +kernel

end Al1Wmod
