import Al1Wmod.System.Refinement

/-!
# Advertising

All of `al1_ble_gap_event`, `al1_ble_advertise`, and the callbacks `al1_ble_on_reset` and
`al1_ble_on_sync`.  Each of three calls of `al1_ble_advertise` may fail, and then nothing tries
again: the next attempt comes with the next event.  If no central is connected and the device does
not advertise, no event comes but a sync of the host.

Such a device is dark.  It stays dark until a sync succeeds, and meanwhile it notifies nothing and
forwards nothing, whatever the STM32 sends (`dark_until_sync`).

NimBLE advertises until it is stopped; a connection, established or failed, stops it, and so does
the end of advertising that it reports.  It reports connections only while advertising, and
disconnects and accesses only of connected centrals.
-/

namespace Al1Wmod

open Buffer Transducer Machine Simulation

/-- The calls of `al1_ble_advertise`. -/
inductive AdvCall where
  | setFields | rspSetFields | start
  deriving DecidableEq, Repr

/-- What they return. -/
structure AdvOutcome where
  setFields : ℤ
  rspSetFields : ℤ
  start : ℤ
  deriving DecidableEq, Repr

/-- `al1_ble_advertise`: the calls it makes, and whether the last of them has succeeded. -/
def al1BleAdvertise (o : AdvOutcome) : List AdvCall × Bool :=
  if o.setFields ≠ 0 then ([.setFields], false)
  else if o.rspSetFields ≠ 0 then ([.setFields, .rspSetFields], false)
  else ([.setFields, .rspSetFields, .start], o.start = 0)

/-- `struct ble_gap_event`, as far as `al1_ble_gap_event` looks. -/
inductive GapEvent where
  | connect (status : ℤ) (conn : UInt16)
  | disconnect (conn : UInt16)
  | connUpdate (status : ℤ)
  | encChange (conn : UInt16) (status : ℤ)
  | subscribe (conn : UInt16)
  | mtu (conn mtu : UInt16)
  | repeatPairing (conn : UInt16)
  | advComplete
  | other
  deriving DecidableEq, Repr

/-- What `al1_ble_gap_event` returns. -/
inductive GapCode where
  | ok | repeatPairingRetry
  deriving DecidableEq, Repr

/-- What a call of `al1_ble_gap_event` does. -/
structure GapEffect where
  device : Device
  out : List DeviceOut
  /-- It calls `al1_ble_advertise`. -/
  advertises : Bool
  /-- It calls `ble_store_util_delete_peer` for the peer of this connection. -/
  deletesPeer : Option UInt16
  code : GapCode

/-- `al1_ble_gap_event`, all of it.  `find` is what `ble_gap_conn_find` returns. -/
def gapCallback (maxPayload : ℕ) (d : Device) (find : ℤ) (fate : ℕ → SendOutcome) :
    GapEvent → GapEffect
  | .connect status conn =>
    if status = 0 then
      let r := deviceStep maxPayload d (.connect conn)
      -- further centrals can still connect
      ⟨r.1, r.2, true, none, .ok⟩
    else ⟨d, [], true, none, .ok⟩
  | .disconnect conn =>
    let r := deviceStep maxPayload d (.disconnect conn fate)
    ⟨r.1, r.2, true, none, .ok⟩
  -- these are logged
  | .connUpdate _ | .encChange _ _ | .subscribe _ | .mtu _ _ => ⟨d, [], false, none, .ok⟩
  | .repeatPairing conn =>
    ⟨d, [], false, if find = 0 then some conn else none, .repeatPairingRetry⟩
  | .advComplete => ⟨d, [], true, none, .ok⟩
  | .other => ⟨d, [], false, none, .ok⟩

/-- `al1_ble_on_sync`: whether it calls `al1_ble_advertise`.  The arguments are what
`ble_hs_util_ensure_addr` and `ble_hs_id_infer_auto` return. -/
def al1BleOnSync (addr infer : ℤ) : Bool :=
  if addr ≠ 0 then false else if infer ≠ 0 then false else true

/-- The device, and whether NimBLE advertises for it. -/
structure Air where
  device : Device
  advertising : Bool

/-- What can happen. -/
inductive AirEvent where
  /-- A step that is no GAP event. -/
  | device (e : DeviceEvent)
  | gap (e : GapEvent) (find : ℤ) (fate : ℕ → SendOutcome) (o : AdvOutcome)
  | sync (addr infer : ℤ) (o : AdvOutcome)
  /-- `al1_ble_on_reset`, which logs the reason. -/
  | reset

/-- The events at which NimBLE has stopped advertising. -/
def GapEvent.stops : GapEvent → Bool
  | .connect _ _ | .advComplete => true
  | _ => false

/-- Advertising, after a call of `al1_ble_advertise` if there is one. -/
def attempt (advertising tries : Bool) (o : AdvOutcome) : Bool :=
  advertising || tries && (al1BleAdvertise o).2

/-- One step. -/
def airStep (maxPayload : ℕ) (a : Air) : AirEvent → Air × List DeviceOut
  | .device e =>
    let r := deviceStep maxPayload a.device e
    ({ a with device := r.1 }, r.2)
  | .gap e find fate o =>
    let r := gapCallback maxPayload a.device find fate e
    (⟨r.device, attempt (a.advertising && !e.stops) r.advertises o⟩, r.out)
  | .sync addr infer o =>
    ({ a with advertising := attempt a.advertising (al1BleOnSync addr infer) o }, [])
  | .reset => ({ a with advertising := false }, [])

/-- The step of the device in it. -/
def AirEvent.device? : AirEvent → Option DeviceEvent
  | .device e => some e
  | .gap (.connect status conn) _ _ _ => if status = 0 then some (.connect conn) else none
  | .gap (.disconnect conn) _ fate _ => some (.disconnect conn fate)
  | _ => none

/-- A step of the device that is not about a connection, or is an access of a connected central. -/
def Device.Apart (d : Device) : DeviceEvent → Prop
  | .connect _ | .disconnect _ _ => False
  | .access conn _ _ _ => conn ∈ d.connected
  | _ => True

instance Device.decidableApart (d : Device) : ∀ e, Decidable (d.Apart e)
  | .connect _ | .disconnect _ _ => inferInstanceAs (Decidable False)
  | .access conn _ _ _ => inferInstanceAs (Decidable (conn ∈ d.connected))
  | .setLinkCb | .linkStart _ | .bleStart _ | .resetSession | .setConnEvtCb | .setRxCb | .rx _ _ _
  | .tx _ => inferInstanceAs (Decidable True)

/-- NimBLE is in a state to report this. -/
def Air.Reports (a : Air) : AirEvent → Prop
  | .device e => a.device.Apart e
  | .gap (.connect _ _) _ _ _ | .gap .advComplete _ _ _ => a.advertising
  | .gap (.disconnect conn) _ _ _ => conn ∈ a.device.connected
  -- all connections have been reported broken
  | .reset => a.device.connected = ∅
  | _ => True

instance Air.decidableReports (a : Air) : ∀ e, Decidable (a.Reports e)
  | .device e => inferInstanceAs (Decidable (a.device.Apart e))
  | .gap (.connect _ _) _ _ _ | .gap .advComplete _ _ _ =>
    inferInstanceAs (Decidable (a.advertising = true))
  | .gap (.disconnect conn) _ _ _ => inferInstanceAs (Decidable (conn ∈ a.device.connected))
  | .reset => inferInstanceAs (Decidable (a.device.connected = ∅))
  | .sync _ _ _ | .gap (.connUpdate _) _ _ _ | .gap (.encChange _ _) _ _ _
  | .gap (.subscribe _) _ _ _ | .gap (.mtu _ _) _ _ _ | .gap (.repeatPairing _) _ _ _
  | .gap .other _ _ _ => inferInstanceAs (Decidable True)

/-- What may come next. -/
def Air.Allowed (maxConn : ℕ) (a : Air) (e : AirEvent) : Prop :=
  a.Reports e ∧ ∀ x ∈ e.device?, a.device.Allowed maxConn x

instance Air.decidableAllowed (maxConn : ℕ) (a : Air) (e : AirEvent) :
    Decidable (a.Allowed maxConn e) :=
  inferInstanceAs (Decidable (_ ∧ _))

/-- Boot. -/
def airBoot (maxConn : ℕ) : Air := ⟨deviceBoot maxConn, false⟩

/-- Events that may happen one after another. -/
abbrev AirAllowed (maxPayload maxConn : ℕ) (a : Air) (events : List AirEvent) : Prop :=
  Along (fun a e => (airStep maxPayload a e).1) (Air.Allowed maxConn) a events

/-- Nobody is connected, and nobody can connect. -/
def Air.Dark (a : Air) : Prop := a.advertising = false ∧ a.device.connected = ∅

instance (a : Air) : Decidable a.Dark := inferInstanceAs (Decidable (_ ∧ _))

/-- A sync that starts advertising. -/
def AirEvent.Lights : AirEvent → Prop
  | .sync addr infer o => al1BleOnSync addr infer ∧ (al1BleAdvertise o).2
  | _ => False

instance : ∀ e : AirEvent, Decidable e.Lights
  | .sync _ _ _ => inferInstanceAs (Decidable (_ ∧ _))
  | .device _ | .gap _ _ _ _ | .reset => inferInstanceAs (Decidable False)

/-! ## The device in it -/

section Steps

variable {maxPayload maxConn : ℕ} {a : Air} {g : Gateway} {e : AirEvent}

/-- A step is the step of the device in it, if there is one. -/
theorem airStep_device (a : Air) (e : AirEvent) :
    (airStep maxPayload a e).1.device =
        (run (deviceStep maxPayload) a.device e.device?.toList).1 ∧
      (airStep maxPayload a e).2 = (run (deviceStep maxPayload) a.device e.device?.toList).2 := by
  -- a step of the device, and none
  have hsome : ∀ x, run (deviceStep maxPayload) a.device (some x).toList =
      deviceStep maxPayload a.device x := fun x => run_singleton _ _ _
  cases e with
  | device e =>
    rw [AirEvent.device?, hsome]
    exact ⟨rfl, rfl⟩
  | sync addr infer o => exact ⟨rfl, rfl⟩
  | reset => exact ⟨rfl, rfl⟩
  | gap e find fate o =>
    cases e with
    | connect status conn =>
      rw [airStep, gapCallback, AirEvent.device?]
      split_ifs with h
      · rw [hsome]
        exact ⟨rfl, rfl⟩
      · exact ⟨rfl, rfl⟩
    | disconnect conn =>
      rw [AirEvent.device?, hsome]
      exact ⟨rfl, rfl⟩
    | connUpdate _ | encChange _ _ | subscribe _ | mtu _ _ | repeatPairing _ | advComplete | other =>
      exact ⟨rfl, rfl⟩

/-- The device stands where the gateway does, and the gateway is in order. -/
def AirSimulated (maxPayload maxConn : ℕ) (a : Air) (g : Gateway) : Prop :=
  Simulated maxPayload maxConn a.device g ∧ g.Orderly

/-- What the gateway sees of a step. -/
def Air.see (a : Air) (e : AirEvent) : List GatewayEvent := e.device?.elim [] a.device.see

/-- **Each step is what the gateway does with what it sees.** -/
theorem air_simulates (hmax : maxPayload ≤ al1LinkMaxPayload) (maxConn : ℕ) :
    Simulates (airStep maxPayload) (Air.Allowed maxConn) Air.see (Gateway.step maxPayload)
      (AirSimulated maxPayload maxConn) OutAgree where
  nil := .nil
  append := OutAgree.append
  step {a g e} h hadm := by
    obtain ⟨hdevice, hout⟩ := @airStep_device maxPayload a e
    rw [AirSimulated, hdevice, hout, Air.see]
    have hallowed := hadm.2
    cases hx : e.device? with
    | none => exact ⟨⟨h.1, h.2⟩, .nil⟩
    | some x =>
      rw [hx] at hallowed
      obtain ⟨hsim, hagree⟩ := (simulates hmax maxConn).step h.1 (hallowed x rfl)
      rw [Option.toList_some, run_singleton]
      exact ⟨⟨hsim, Gateway.orderly_run h.2 _⟩, hagree⟩

theorem airSimulated_boot (maxPayload maxConn : ℕ) :
    AirSimulated maxPayload maxConn (airBoot maxConn) Gateway.init :=
  ⟨simulated_boot maxPayload maxConn, Gateway.orderly_init⟩

/-! ## The dark -/

/-- In the dark only the link goes on, and `app_main`. -/
theorem Air.Dark.device? (h : a.Dark) (hreports : a.Reports e) (hl : ¬ e.Lights) :
    (airStep maxPayload a e).1.advertising = false ∧ e.device? = none ∨
      ∃ x, e = .device x ∧ a.device.Apart x := by
  have hempty : ∀ c, c ∉ a.device.connected := fun c => h.2 ▸ Finset.notMem_empty c
  have hoff : ¬ a.advertising = true := by rw [h.1]; exact Bool.false_ne_true
  cases e with
  | device x => exact .inr ⟨x, rfl, hreports⟩
  | reset => exact .inl ⟨rfl, rfl⟩
  | sync addr infer o =>
    refine .inl ⟨?_, rfl⟩
    rw [AirEvent.Lights, not_and] at hl
    rw [airStep, attempt, h.1, Bool.false_or, Bool.and_eq_false_imp]
    exact fun hsync => Bool.eq_false_iff.mpr (hl hsync)
  | gap e find fate o =>
    cases e with
    | connect status conn => exact absurd hreports hoff
    | advComplete => exact absurd hreports hoff
    | disconnect conn => exact absurd hreports (hempty conn)
    | connUpdate _ | encChange _ _ | subscribe _ | mtu _ _ | repeatPairing _ | other =>
      refine .inl ⟨?_, rfl⟩
      rw [airStep, attempt, h.1]
      rfl

/-- **A step in the dark.** -/
theorem Air.Dark.step (hmax : maxPayload ≤ al1LinkMaxPayload) (h : a.Dark)
    (hsim : AirSimulated maxPayload maxConn a g) (hadm : a.Allowed maxConn e) (hl : ¬ e.Lights) :
    (airStep maxPayload a e).1.Dark ∧
      (∀ conn, notifiedTo conn (airStep maxPayload a e).2 = []) ∧
      forwarded (airStep maxPayload a e).2 = [] := by
  have hnobody : g.listening = ∅ := hsim.1.connected.symm.trans h.2
  obtain ⟨hsim', hagree⟩ := (air_simulates hmax maxConn).step hsim hadm
  obtain ⟨hdevice, -⟩ := @airStep_device maxPayload a e
  -- the gateway sees nothing but reads
  have hsee : (run (Gateway.step maxPayload) g (a.see e)).1.listening = ∅ ∧
      (∀ conn, (run (Gateway.step maxPayload) g (a.see e)).2.filterMap (Passed.for conn) = []) ∧
      (run (Gateway.step maxPayload) g (a.see e)).2.filterMap Passed.up? = [] := by
    rcases @Air.Dark.device? maxPayload a e h hadm.1 hl with ⟨-, hnone⟩ | ⟨x, rfl, hapart⟩
    · rw [Air.see, hnone]
      exact ⟨hnobody, fun _ => rfl, rfl⟩
    · cases x with
      | connect _ | disconnect _ _ => exact absurd hapart id
      | access conn _ _ _ => exact absurd (h.2 ▸ hapart) (Finset.notMem_empty conn)
      | setLinkCb | linkStart _ | bleStart _ | resetSession | setConnEvtCb | setRxCb | tx _ =>
        exact ⟨hnobody, fun _ => rfl, rfl⟩
      | rx k o mtu =>
        have hrx : a.see (.device (.rx k o mtu)) =
            if a.device.link.reads k o then [.read o.bytes] else [] := rfl
        rw [hrx]
        split_ifs
        · obtain ⟨hfor, hup⟩ := @Gateway.Orderly.nobody maxPayload g hsim.2 hnobody o.bytes
          rw [run_singleton]
          exact ⟨(g.listening_read o.bytes).trans hnobody, hfor, hup⟩
        · exact ⟨hnobody, fun _ => rfl, rfl⟩
  refine ⟨⟨?_, hsim'.1.connected.trans hsee.1⟩, fun conn => ?_, hagree.forwarded.trans hsee.2.2⟩
  · rcases @Air.Dark.device? maxPayload a e h hadm.1 hl with ⟨hoff, -⟩ | ⟨x, rfl, -⟩
    · exact hoff
    · exact h.1
  · rw [hagree.notified, hsee.2.1]
    rfl

/-- A sync that starts advertising ends the dark. -/
theorem not_dark_of_lights (hl : e.Lights) : ¬ (airStep maxPayload a e).1.Dark := by
  cases e with
  | device _ | gap _ _ _ _ | reset => exact absurd hl id
  | sync addr infer o =>
    intro hdark
    have hoff : attempt a.advertising (al1BleOnSync addr infer) o = false := hdark.1
    rw [attempt, hl.1, hl.2, Bool.true_and, Bool.or_true] at hoff
    exact Bool.noConfusion hoff

/-- **A run in the dark.** -/
theorem Air.Dark.run (hmax : maxPayload ≤ al1LinkMaxPayload) (h : a.Dark)
    (hsim : AirSimulated maxPayload maxConn a g) {events : List AirEvent}
    (hadm : AirAllowed maxPayload maxConn a events) :
    (Along (fun a e => (airStep maxPayload a e).1) (fun a e => (airStep maxPayload a e).1.Dark) a
        events ↔ ∀ e ∈ events, ¬ e.Lights) ∧
      ((∀ e ∈ events, ¬ e.Lights) →
        (∀ conn, notifiedTo conn (Transducer.run (airStep maxPayload) a events).2 = []) ∧
          forwarded (Transducer.run (airStep maxPayload) a events).2 = []) := by
  induction events generalizing a g with
  | nil => exact ⟨⟨fun _ _ he => absurd he List.not_mem_nil, fun _ => trivial⟩,
      fun _ => ⟨fun _ => rfl, rfl⟩⟩
  | cons e events ih =>
    obtain ⟨hsim', -⟩ := (air_simulates hmax maxConn).step hsim hadm.1
    by_cases hl : e.Lights
    · have hnot : ¬ ∀ x ∈ e :: events, ¬ x.Lights := fun hall =>
        hall e List.mem_cons_self hl
      exact ⟨⟨fun halong => absurd halong.1 (not_dark_of_lights hl), fun hall => absurd hall hnot⟩,
        fun hall => absurd hall hnot⟩
    · obtain ⟨hdark, hfor, hforward⟩ := h.step hmax hsim hadm.1 hl
      obtain ⟨hiff, hsilent⟩ := ih hdark hsim' hadm.2
      rw [List.forall_mem_cons, Along, hiff, run_cons]
      refine ⟨⟨fun hall => ⟨hl, hall.2⟩, fun hall => ⟨hdark, hall.2⟩⟩, fun hall => ?_⟩
      obtain ⟨hfor', hforward'⟩ := hsilent hall.2
      exact ⟨fun conn => by rw [notifiedTo_append, hfor, hfor', List.append_nil],
        by rw [forwarded_append, hforward, hforward', List.append_nil]⟩

end Steps

/-- **The dark.**  From boot, let a run end with no central connected and without advertising.  In
any continuation the device stays so exactly as long as no sync of the host starts advertising.
Until then no central connects, nothing is notified and nothing is handed to `al1_link_send`,
whatever is read from the STM32. -/
theorem dark_until_sync {maxPayload maxConn : ℕ} (hmax : maxPayload ≤ al1LinkMaxPayload)
    {past events : List AirEvent}
    (hpast : AirAllowed maxPayload maxConn (airBoot maxConn) past)
    (hdark : (run (airStep maxPayload) (airBoot maxConn) past).1.Dark)
    (hadm : AirAllowed maxPayload maxConn
      (run (airStep maxPayload) (airBoot maxConn) past).1 events) :
    let a := (run (airStep maxPayload) (airBoot maxConn) past).1
    (Along (fun a e => (airStep maxPayload a e).1) (fun a e => (airStep maxPayload a e).1.Dark) a
        events ↔ ∀ e ∈ events, ¬ e.Lights) ∧
      ((∀ e ∈ events, ¬ e.Lights) →
        (∀ conn, notifiedTo conn (run (airStep maxPayload) a events).2 = []) ∧
          forwarded (run (airStep maxPayload) a events).2 = []) := by
  obtain ⟨hsim, -⟩ := (air_simulates hmax maxConn).run (airSimulated_boot maxPayload maxConn) hpast
  exact hdark.run hmax hsim hadm

/-- A central connects while the controller of the radio is busy, and leaves; both attempts fail. -/
def lightsOut : List AirEvent :=
  appMain.map .device ++ [.sync 0 0 ⟨0, 0, 0⟩, .gap (.connect 0 1) 0 (fun _ => ⟨none, true⟩) ⟨0, 0, 6⟩,
    .gap (.disconnect 1) 0 (fun _ => ⟨none, true⟩) ⟨0, 0, 6⟩]

/-- The STM32 goes on sending, and a sync fails. -/
theorem dark_until_sync_lightsOut :
    let a := (run (airStep al1LinkMaxPayload) (airBoot al1BleMaxConn) lightsOut).1
    forwarded (run (airStep al1LinkMaxPayload) a
      [.device (.rx 0 ⟨true, granted.encode⟩ fun _ => 23), .sync 0 3 ⟨0, 0, 0⟩]).2 = [] :=
  ((dark_until_sync le_rfl (by decide +kernel) (by decide +kernel) (by decide +kernel)).2
    (by decide)).2

end Al1Wmod
