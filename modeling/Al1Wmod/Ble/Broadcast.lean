import Al1Wmod.Ble.Registry
import Al1Wmod.Stream.Machine
import Mathlib.Data.Finset.Basic

/-!
# Broadcasts and the registry

The RX task goes through the table of connections in `al1_ble_notify_all`, while the NimBLE host
task adds and removes connections.  Nothing locks the table.  Here both are cut at each access to
it: `conn_add` stores `in_use` before `handle`, and a broadcast tests the one and loads the other.
Where nobody interrupts, this is the registry as it was (`uninterrupted_add`,
`uninterrupted_broadcast`).

A load between the two stores is torn: it finds the handle of the connection that had the entry
before, or zero.  A central that is registered all the while is notified once, and once more for
every torn load of its handle (`broadcast_count`).
-/

namespace Al1Wmod

open Transducer Machine

/-- Where the RX task stands in `al1_ble_notify_all`. -/
inductive ScanPoint where
  /-- Before the test of `in_use`. -/
  | test (data : List UInt8) (i : ℕ)
  /-- It was set. -/
  | load (data : List UInt8) (i : ℕ)

/-- The entry. -/
def ScanPoint.place : ScanPoint → ℕ
  | .test _ i => i
  | .load _ i => i

/-- What is sent. -/
def ScanPoint.data : ScanPoint → List UInt8
  | .test data _ => data
  | .load data _ => data

/-- `s_conns`, and where the tasks stand: `adding` is the entry and the handle of `conn_add` between
its stores.  `connected` are the connections that NimBLE has reported. -/
structure SharedRegistry where
  conns : List Al1BleConn
  adding : Option (ℕ × UInt16)
  scan : Option ScanPoint
  dispatched : ℕ
  connected : Finset UInt16

/-- A call of `al1_ble_notify_conn`, and whether its handle was loaded between the two stores. -/
structure Load where
  conn : UInt16
  data : List UInt8
  torn : Bool
  deriving DecidableEq, Repr

/-- At boot. -/
def registryBoot (maxConn : ℕ) : SharedRegistry := ⟨connsBoot maxConn, none, none, 0, ∅⟩

/-- What can happen: a call begins, or a task takes a step in the one it is in. -/
inductive RegistryStep where
  | broadcast (data : List UInt8)
  | rx
  | connect (handle : UInt16)
  | disconnect (handle : UInt16)
  | host

/-- A step of the host task. -/
def RegistryStep.byHost : RegistryStep → Prop
  | .connect _ | .disconnect _ | .host => True
  | .broadcast _ | .rx => False

/-- A call of `al1_ble_notify_all`. -/
def RegistryStep.begins : RegistryStep → Bool
  | .broadcast _ => true
  | _ => false

namespace SharedRegistry

/-- The entry is between the two stores of `conn_add`. -/
def torn (m : SharedRegistry) (i : ℕ) : Bool := m.adding.any fun a => a.1 == i

/-- `al1_ble_notify_all`. -/
def rxNext (m : SharedRegistry) : SharedRegistry × List Load :=
  match m.scan with
  | none => (m, [])
  | some (.test data i) =>
    match m.conns[i]? with
    | none => ({ m with scan := none }, [])
    | some c => ({ m with scan := some (if c.inUse then .load data i else .test data (i + 1)) }, [])
  | some (.load data i) =>
    match m.conns[i]? with
    | none => ({ m with scan := none }, [])
    | some c =>
      ({ m with scan := some (.test data (i + 1)), dispatched := m.dispatched + 1 },
        [⟨c.handle, data, m.torn i⟩])

/-- `conn_add`, up to its first store. -/
def addFirst (m : SharedRegistry) (handle : UInt16) : SharedRegistry :=
  let m := { m with connected := insert handle m.connected }
  match m.conns.findIdx? fun c => ! c.inUse with
  | none => m
  | some i =>
    { m with
      conns := m.conns.modify i fun c => { c with inUse := true }
      adding := some (i, handle) }

/-- Its second store. -/
def addSecond (m : SharedRegistry) : SharedRegistry :=
  match m.adding with
  | none => m
  | some (i, handle) =>
    { m with conns := m.conns.modify i fun c => { c with handle := handle }, adding := none }

/-- One step.  `conn_remove` has one store. -/
def step (m : SharedRegistry) : RegistryStep → SharedRegistry × List Load
  | .broadcast data => ({ m with scan := some (.test data 0), dispatched := 0 }, [])
  | .rx => m.rxNext
  | .connect handle => (m.addFirst handle, [])
  | .disconnect handle =>
    ({ m with conns := connRemove handle m.conns, connected := m.connected.erase handle }, [])
  | .host => (m.addSecond, [])

/-- The state after a step. -/
abbrev next (m : SharedRegistry) (e : RegistryStep) : SharedRegistry := (m.step e).1

/-! ## A call that nobody interrupts -/

section Uninterrupted

variable {m : SharedRegistry}

/-- `conn_add`. -/
theorem uninterrupted_add (h : m.adding = none) (handle : UInt16) :
    ((m.next (.connect handle)).next .host).conns = connAdd handle m.conns := by
  rw [connAdd, FirstFit.put_eq_modify]
  show (addSecond (m.addFirst handle)).conns = _
  rw [addFirst]
  cases m.conns.findIdx? fun c => ! c.inUse with
  | none =>
    rw [addSecond]
    simp only [h]
    rfl
  | some i =>
    rw [addSecond]
    show List.modify (List.modify m.conns i _) i _ = m.conns.modify i _
    rw [List.modify_modify_eq]
    rfl

/-- A task that is in no call does nothing. -/
theorem run_rx_done (hscan : m.scan = none) (n : ℕ) :
    run step m (List.replicate n .rx) = (m, []) := by
  induction n with
  | zero => rfl
  | succ n ih =>
    have hstep : m.step .rx = (m, []) := by rw [step, rxNext, hscan]
    rw [List.replicate_succ, run_cons, hstep, ih]
    rfl

/-- From an entry on. -/
theorem run_rx_scan (hadding : m.adding = none) {before after : List Al1BleConn}
    (hconns : m.conns = before ++ after) {data : List UInt8}
    (hscan : m.scan = some (.test data before.length)) {n : ℕ} (hn : 2 * after.length < n) :
    let r := run step m (List.replicate n .rx)
    r.1.scan = none ∧ r.1.dispatched = m.dispatched + r.2.length ∧
      r.2 = (registered after).map fun conn => ⟨conn, data, false⟩ := by
  obtain ⟨n, rfl⟩ : ∃ k, n = k + 1 := ⟨n - 1, by omega⟩
  rw [List.replicate_succ, run_cons]
  induction after generalizing m before n with
  | nil =>
    have hend : m.conns[before.length]? = none := by
      rw [hconns, List.append_nil]
      exact List.getElem?_eq_none le_rfl
    have hnext : m.step .rx = ({ m with scan := none }, []) := by
      rw [step, rxNext, hscan]
      simp only [hend]
    rw [hnext, run_rx_done rfl]
    exact ⟨rfl, rfl, rfl⟩
  | cons c after ih =>
    rw [List.length_cons] at hn
    have hc : ∀ t : SharedRegistry, t.conns = m.conns → t.conns[before.length]? = some c := by
      intro t ht
      rw [ht, hconns, List.getElem?_append_right le_rfl, Nat.sub_self]
      rfl
    have hlen : (before ++ [c]).length = before.length + 1 := List.length_append
    have hconns' : m.conns = (before ++ [c]) ++ after := by rw [hconns, List.append_assoc]; rfl
    have htest : m.step .rx = ({ m with scan := some (if c.inUse then .load data before.length
        else .test data (before.length + 1)) }, []) := by
      rw [step, rxNext, hscan]
      simp only [hc m rfl]
    obtain ⟨n, rfl⟩ : ∃ k, n = k + 1 := ⟨n - 1, by omega⟩
    rw [htest, List.replicate_succ, run_cons]
    by_cases hin : c.inUse = true
    · rw [if_pos hin]
      obtain ⟨n, rfl⟩ : ∃ k, n = k + 1 := ⟨n - 1, by omega⟩
      have hload : step { m with scan := some (.load data before.length) } .rx =
          ({ m with scan := some (.test data (before.length + 1)), dispatched := m.dispatched + 1 },
            [⟨c.handle, data, false⟩]) := by
        rw [step, rxNext]
        simp only [hc m rfl, torn, hadding, Option.any_none]
      rw [hload, List.replicate_succ, run_cons]
      obtain ⟨hdone, hdispatched, hout⟩ := @ih { m with
        scan := some (.test data (before.length + 1)), dispatched := m.dispatched + 1 }
        hadding (before ++ [c]) hconns' (by rw [hlen]) n (by omega)
      refine ⟨hdone, ?_, ?_⟩
      · rw [hdispatched]
        simp only [List.nil_append, List.singleton_append, List.length_cons]
        omega
      · have hreg : registered (c :: after) = c.handle :: registered after :=
          FirstFit.keys_cons_of_used hin after
        rw [hreg, List.map_cons]
        exact congrArg _ hout
    · rw [if_neg hin]
      have hreg : registered (c :: after) = registered after :=
        FirstFit.keys_cons_of_not_used hin after
      rw [hreg]
      exact @ih { m with scan := some (.test data (before.length + 1)) } hadding (before ++ [c])
        hconns' (by rw [hlen]) n (by omega)

/-- `al1_ble_notify_all`. -/
theorem uninterrupted_broadcast (hadding : m.adding = none) (data : List UInt8) {n : ℕ}
    (hn : 2 * m.conns.length < n) :
    let r := run step m (.broadcast data :: List.replicate n .rx)
    r.1.scan = none ∧ r.1.dispatched = r.2.length ∧
      r.2.map (fun l => (l.conn, l.data)) = (Action.notifyAll data).notified m.conns := by
  obtain ⟨hdone, hdispatched, hout⟩ := @run_rx_scan
    { m with scan := some (.test data 0), dispatched := 0 } hadding [] m.conns rfl data rfl n hn
  refine ⟨hdone, hdispatched.trans (Nat.zero_add _),
    (congrArg (List.map fun l : Load => (l.conn, l.data)) hout).trans ?_⟩
  rw [List.map_map]
  rfl

end Uninterrupted

/-! ## What stays true -/

/-- The entry holds a connection, and `conn_add` has finished with it. -/
def Settled (m : SharedRegistry) (i : ℕ) (conn : UInt16) : Prop :=
  m.conns[i]? = some ⟨true, conn⟩ ∧ m.torn i = false

/-- The connection has an entry. -/
def Registered (m : SharedRegistry) (conn : UInt16) : Prop := ∃ i, m.Settled i conn

/-- What may come next.  A task makes one call after another, and NimBLE reports a handle connected
only while it is not. -/
def Allowed (m : SharedRegistry) : RegistryStep → Prop
  | .broadcast _ => m.scan.isNone
  | .connect handle => m.adding.isNone ∧ handle ∉ m.connected
  | .disconnect _ => m.adding.isNone
  | .rx | .host => True

instance decidableAllowed (m : SharedRegistry) : ∀ e, Decidable (m.Allowed e)
  | .broadcast _ | .disconnect _ => inferInstanceAs (Decidable (_ = true))
  | .connect _ => inferInstanceAs (Decidable (_ ∧ _))
  | .rx | .host => inferInstanceAs (Decidable True)

/-- No connection has two entries, and none that is gone has one. -/
structure Kept (m : SharedRegistry) : Prop where
  known : ∀ i conn, m.Settled i conn → conn ∈ m.connected
  distinct : ∀ i j conn, m.Settled i conn → m.Settled j conn → i = j
  adding : ∀ i conn, m.adding = some (i, conn) →
    conn ∈ m.connected ∧ (∀ j, ¬ m.Settled j conn) ∧ ∃ old, m.conns[i]? = some ⟨true, old⟩

/-- `P` holds of what the table says: of every entry and its handle, of the one that is being added,
and of what the RX task will load, unless it is torn. -/
structure Vouched (P : ℕ → UInt16 → Prop) (m : SharedRegistry) : Prop where
  settled : ∀ i conn, m.Settled i conn → P i conn
  adding : ∀ i conn, m.adding = some (i, conn) → P i conn
  load : ∀ data i c, m.scan = some (.load data i) → m.conns[i]? = some c → m.torn i = false →
    P i c.handle

/-- Whether the RX task still comes to the entry. -/
def ahead (m : SharedRegistry) (k : ℕ) : ℕ := m.scan.elim 0 fun p => if p.place ≤ k then 1 else 0

/-- The entries it still comes to. -/
def remaining (m : SharedRegistry) : ℕ := m.scan.elim 0 fun p => m.conns.length - p.place

section Steps

variable {m : SharedRegistry}

/-- The RX task leaves the table alone. -/
theorem rxNext_fields (m : SharedRegistry) :
    m.rxNext.1.conns = m.conns ∧ m.rxNext.1.adding = m.adding ∧
      m.rxNext.1.connected = m.connected := by
  rw [rxNext]
  split
  · exact ⟨rfl, rfl, rfl⟩
  · split <;> exact ⟨rfl, rfl, rfl⟩
  · split <;> exact ⟨rfl, rfl, rfl⟩

theorem Settled.congr {t : SharedRegistry} (hconns : t.conns = m.conns)
    (hadding : t.adding = m.adding) {i : ℕ} {conn : UInt16} :
    t.Settled i conn ↔ m.Settled i conn := by
  rw [Settled, Settled, torn, torn, hconns, hadding]

/-- The first store of `conn_add`. -/
theorem addFirst_cases (m : SharedRegistry) (handle : UInt16) :
    (m.addFirst handle).connected = insert handle m.connected ∧
      (((m.addFirst handle).conns = m.conns ∧ (m.addFirst handle).adding = m.adding) ∨
        ∃ i old, m.conns[i]? = some ⟨false, old⟩ ∧
          (m.addFirst handle).adding = some (i, handle) ∧
          (m.addFirst handle).conns = m.conns.modify i fun c => { c with inUse := true }) := by
  rw [addFirst]
  cases hi : m.conns.findIdx? fun c => ! c.inUse with
  | none => exact ⟨rfl, .inl ⟨rfl, rfl⟩⟩
  | some i =>
    refine ⟨rfl, .inr ⟨i, ?_⟩⟩
    obtain ⟨hlt, hfree, -⟩ := List.findIdx?_eq_some_iff_getElem.mp hi
    have hfree' : m.conns[i].inUse = false := by simpa using hfree
    exact ⟨m.conns[i].handle, by rw [List.getElem?_eq_getElem hlt, ← hfree'], rfl, rfl⟩

theorem settled_addFirst (hadding : m.adding = none) (handle : UInt16) {i : ℕ} {conn : UInt16} :
    (m.addFirst handle).Settled i conn ↔ m.Settled i conn := by
  obtain ⟨-, ⟨hconns, hsame⟩ | ⟨k, old, hk, hadd, hconns⟩⟩ := m.addFirst_cases handle
  · exact Settled.congr hconns hsame
  · have htorn : (m.addFirst handle).torn i = (k == i) := by rw [torn, hadd]; rfl
    have htorn' : m.torn i = false := by rw [torn, hadding]; rfl
    rw [Settled, Settled, htorn, htorn', hconns]
    by_cases hki : k = i
    · subst hki
      simp [hk]
    · rw [List.getElem?_modify_ne _ _ hki]
      simp [hki]

/-- The second store of `conn_add`. -/
theorem settled_addSecond (h : m.Kept) {i : ℕ} {conn : UInt16} :
    m.addSecond.Settled i conn ↔ m.Settled i conn ∨ m.adding = some (i, conn) := by
  rw [addSecond]
  cases hadding : m.adding with
  | none => simp
  | some a =>
    obtain ⟨k, handle⟩ := a
    obtain ⟨-, -, old, hk⟩ := h.adding k handle hadding
    have htorn : m.torn i = (k == i) := by rw [torn, hadding]; rfl
    simp only [Settled, htorn]
    show (List.modify m.conns k (fun c => { c with handle := handle }))[i]? = some ⟨true, conn⟩ ∧
      torn { m with conns := _, adding := none } i = false ↔ _
    have htorn' : ∀ conns, torn { m with conns := conns, adding := none } i = false := fun _ => rfl
    rw [htorn']
    by_cases hki : k = i
    · subst hki
      simp [hk]
    · rw [List.getElem?_modify_ne _ _ hki]
      simp [hki]

/-- `conn_remove`. -/
theorem connRemove_cases (handle : UInt16) (conns : List Al1BleConn) :
    (connRemove handle conns = conns ∧ ∀ i : ℕ, conns[i]? ≠ some ⟨true, handle⟩) ∨
      ∃ k : ℕ, conns[k]? = some ⟨true, handle⟩ ∧
        connRemove handle conns = conns.modify k fun c => { c with inUse := false } := by
  rcases @FirstFit.update_eq_modify _ _ Al1BleConn.inUse Al1BleConn.handle _ handle
    (fun c => { c with inUse := false }) conns with ⟨heq, hnone⟩ | ⟨k, c, hc, hin, hk, heq⟩
  · refine .inl ⟨heq, fun i hi => hnone ?_⟩
    exact FirstFit.mem_keys.mpr ⟨_, List.mem_of_getElem? hi, rfl, rfl⟩
  · refine .inr ⟨k, ?_, heq⟩
    rw [hc, ← hk, ← hin]

theorem settled_disconnect (h : m.Kept) (hadding : m.adding = none) (handle : UInt16) {i : ℕ}
    {conn : UInt16} :
    (m.next (.disconnect handle)).Settled i conn ↔ m.Settled i conn ∧ conn ≠ handle := by
  have htorn : ∀ t : SharedRegistry, t.adding = none → ∀ j, t.torn j = false := by
    intro t ht j
    rw [torn, ht]
    rfl
  show (connRemove handle m.conns)[i]? = some ⟨true, conn⟩ ∧ m.torn i = false ↔ _
  rw [Settled]
  rcases connRemove_cases handle m.conns with ⟨heq, hnone⟩ | ⟨k, hk, heq⟩
  · rw [heq]
    refine ⟨fun hs => ⟨hs, ?_⟩, fun hs => hs.1⟩
    rintro rfl
    exact hnone i hs.1
  · rw [heq]
    by_cases hki : k = i
    · subst hki
      simp [hk]
      tauto
    · rw [List.getElem?_modify_ne _ _ hki]
      refine ⟨fun hs => ⟨hs, ?_⟩, fun hs => hs.1⟩
      rintro rfl
      exact hki (h.distinct k i conn ⟨hk, htorn m hadding k⟩ hs)

/-- **The entries after a step.** -/
theorem Kept.settled_next (h : m.Kept) {e : RegistryStep} (hallowed : m.Allowed e) {i : ℕ}
    {conn : UInt16} :
    (m.next e).Settled i conn ↔
      (m.Settled i conn ∧ e ≠ .disconnect conn) ∨ (e = .host ∧ m.adding = some (i, conn)) := by
  cases e with
  | broadcast data =>
    have hsame : (m.next (.broadcast data)).Settled i conn ↔ m.Settled i conn :=
      Settled.congr rfl rfl
    simp [hsame]
  | rx =>
    obtain ⟨hconns, hadding, -⟩ := m.rxNext_fields
    have hsame : (m.next .rx).Settled i conn ↔ m.Settled i conn := Settled.congr hconns hadding
    simp [hsame]
  | connect handle =>
    have hsame : (m.next (.connect handle)).Settled i conn ↔ m.Settled i conn :=
      settled_addFirst (Option.isNone_iff_eq_none.mp hallowed.1) handle
    simp [hsame]
  | disconnect handle =>
    rw [settled_disconnect h (Option.isNone_iff_eq_none.mp hallowed)]
    simp [eq_comm]
  | host =>
    have hnext : (m.next .host).Settled i conn ↔ m.Settled i conn ∨ m.adding = some (i, conn) :=
      settled_addSecond h
    simp [hnext]

/-- **What a step of the RX task can do**, in a broadcast: come to the end, go on from a test, or
load a handle. -/
theorem rxNext_cases (m : SharedRegistry) :
    (m.scan = none ∧ m.rxNext = (m, [])) ∨
      (∃ p, m.scan = some p ∧ m.conns[p.place]? = none ∧ m.rxNext = ({ m with scan := none }, [])) ∨
      (∃ data i c, m.scan = some (.test data i) ∧ m.conns[i]? = some c ∧ m.rxNext =
        ({ m with scan := some (if c.inUse then .load data i else .test data (i + 1)) }, [])) ∨
      ∃ data i c, m.scan = some (.load data i) ∧ m.conns[i]? = some c ∧ m.rxNext =
        ({ m with scan := some (.test data (i + 1)), dispatched := m.dispatched + 1 },
          [⟨c.handle, data, m.torn i⟩]) := by
  rw [rxNext]
  cases hscan : m.scan with
  | none => exact .inl ⟨rfl, rfl⟩
  | some p =>
    refine .inr ?_
    cases p with
    | test data i =>
      cases hc : m.conns[i]? with
      | none => exact .inl ⟨_, rfl, hc, by simp only [hc]⟩
      | some c => exact .inr (.inl ⟨data, i, c, rfl, hc, by simp only [hc]⟩)
    | load data i =>
      cases hc : m.conns[i]? with
      | none => exact .inl ⟨_, rfl, hc, by simp only [hc]⟩
      | some c => exact .inr (.inr ⟨data, i, c, rfl, hc, by simp only [hc]⟩)

/-- What the host task leaves alone: where the RX task stands, and the length of the table.  Of the
handles it changes one, in its second store. -/
theorem host_leaves {e : RegistryStep} (he : e.byHost) :
    (m.next e).scan = m.scan ∧ (m.next e).dispatched = m.dispatched ∧ (m.step e).2 = [] ∧
      (m.next e).conns.length = m.conns.length ∧
      ∀ i c', (m.next e).conns[i]? = some c' → ∃ c, m.conns[i]? = some c ∧
        ((c'.handle = c.handle ∧ (e = .host → m.torn i = false)) ∨
          (e = .host ∧ m.adding = some (i, c'.handle))) := by
  -- a change of one entry that keeps its handle
  have hmodify : ∀ (k : ℕ) (b : Bool) (i : ℕ) (c' : Al1BleConn),
      (m.conns.modify k fun c => { c with inUse := b })[i]? = some c' →
        ∃ c, m.conns[i]? = some c ∧ c'.handle = c.handle := by
    intro k b i c' hc'
    rw [List.getElem?_modify, Option.map_eq_map, Option.map_eq_some_iff] at hc'
    obtain ⟨c, hc, rfl⟩ := hc'
    refine ⟨c, hc, ?_⟩
    split_ifs <;> rfl
  cases e with
  | broadcast data => exact absurd he id
  | rx => exact absurd he id
  | connect handle =>
    show (m.addFirst handle).scan = m.scan ∧ (m.addFirst handle).dispatched = m.dispatched ∧ _ ∧
      (m.addFirst handle).conns.length = m.conns.length ∧
      ∀ i c', (m.addFirst handle).conns[i]? = some c' → _
    rw [addFirst]
    dsimp only
    cases m.conns.findIdx? fun c => ! c.inUse with
    | none =>
      exact ⟨rfl, rfl, rfl, rfl, fun i c' hc' =>
        ⟨c', hc', .inl ⟨rfl, RegistryStep.noConfusion⟩⟩⟩
    | some k =>
      refine ⟨rfl, rfl, rfl, List.length_modify .., fun i c' hc' => ?_⟩
      obtain ⟨c, hc, hsame⟩ := hmodify k true i c' hc'
      exact ⟨c, hc, .inl ⟨hsame, RegistryStep.noConfusion⟩⟩
  | disconnect handle =>
    refine ⟨rfl, rfl, rfl, FirstFit.length_update _ _ _, fun i c' hc' => ?_⟩
    have hc'' : (connRemove handle m.conns)[i]? = some c' := hc'
    rcases connRemove_cases handle m.conns with ⟨heq, -⟩ | ⟨k, -, heq⟩
    · rw [heq] at hc''
      exact ⟨c', hc'', .inl ⟨rfl, RegistryStep.noConfusion⟩⟩
    · rw [heq] at hc''
      obtain ⟨c, hc, hsame⟩ := hmodify k false i c' hc''
      exact ⟨c, hc, .inl ⟨hsame, RegistryStep.noConfusion⟩⟩
  | host =>
    show m.addSecond.scan = m.scan ∧ m.addSecond.dispatched = m.dispatched ∧ _ ∧
      m.addSecond.conns.length = m.conns.length ∧
      ∀ i c', m.addSecond.conns[i]? = some c' → _
    rw [addSecond]
    cases hadding : m.adding with
    | none =>
      have hwhole : ∀ i, m.torn i = false := fun i => by rw [torn, hadding]; rfl
      exact ⟨rfl, rfl, rfl, rfl, fun i c' hc' => ⟨c', hc', .inl ⟨rfl, fun _ => hwhole i⟩⟩⟩
    | some a =>
      obtain ⟨k, handle⟩ := a
      refine ⟨rfl, rfl, rfl, List.length_modify .., fun i c' hc' => ?_⟩
      have hc'' : (m.conns.modify k fun c => { c with handle := handle })[i]? = some c' := hc'
      rw [List.getElem?_modify, Option.map_eq_map, Option.map_eq_some_iff] at hc''
      obtain ⟨c, hc, rfl⟩ := hc''
      refine ⟨c, hc, ?_⟩
      split_ifs with hki
      · exact .inr ⟨rfl, by rw [hki]⟩
      · refine .inl ⟨rfl, fun _ => ?_⟩
        rw [torn, hadding]
        exact beq_eq_false_iff_ne.mpr hki

/-- **One step.** -/
theorem Kept.next (h : m.Kept) {e : RegistryStep} (hallowed : m.Allowed e) : (m.next e).Kept := by
  refine ⟨fun i conn hs => ?_, fun i j conn hi hj => ?_, fun i conn hadd => ?_⟩
  · rcases (h.settled_next hallowed).mp hs with ⟨hs, hne⟩ | ⟨rfl, hadd⟩
    · have hmem := h.known i conn hs
      cases e with
      | broadcast data => exact hmem
      | rx => exact m.rxNext_fields.2.2 ▸ hmem
      | connect handle =>
        show conn ∈ (m.addFirst handle).connected
        rw [(m.addFirst_cases handle).1]
        exact Finset.mem_insert_of_mem hmem
      | disconnect handle =>
        exact Finset.mem_erase.mpr ⟨fun heq => hne (heq ▸ rfl), hmem⟩
      | host =>
        show conn ∈ m.addSecond.connected
        rw [addSecond]
        split <;> exact hmem
    · show conn ∈ m.addSecond.connected
      rw [addSecond]
      split <;> exact (h.adding i conn hadd).1
  · rcases (h.settled_next hallowed).mp hi with ⟨hi', -⟩ | ⟨-, hi'⟩
    · rcases (h.settled_next hallowed).mp hj with ⟨hj', -⟩ | ⟨-, hj'⟩
      · exact h.distinct i j conn hi' hj'
      · exact absurd hi' ((h.adding j conn hj').2.1 i)
    · rcases (h.settled_next hallowed).mp hj with ⟨hj', -⟩ | ⟨-, hj'⟩
      · exact absurd hj' ((h.adding i conn hi').2.1 j)
      · exact (Prod.mk.inj (Option.some.inj (hi'.symm.trans hj'))).1
  · cases e with
    | broadcast data => exact h.adding i conn hadd
    | rx =>
      obtain ⟨hconns, hsame, hconnected⟩ := m.rxNext_fields
      obtain ⟨hmem, hnot, hold⟩ := h.adding i conn (hsame ▸ hadd)
      refine ⟨hconnected ▸ hmem, fun j hj => hnot j ?_, hconns ▸ hold⟩
      exact (Settled.congr hconns hsame).mp hj
    | connect handle =>
      have hnone := Option.isNone_iff_eq_none.mp hallowed.1
      obtain ⟨hconnected, ⟨-, hsame⟩ | ⟨k, old, hk, hadd', hconns⟩⟩ := m.addFirst_cases handle
      · exact absurd (hnone.symm.trans (hsame.symm.trans hadd)).symm (Option.some_ne_none _)
      · obtain ⟨rfl, rfl⟩ := Prod.mk.inj (Option.some.inj (hadd'.symm.trans hadd))
        refine ⟨?_, fun j hj => ?_, old, ?_⟩
        · show handle ∈ (m.addFirst handle).connected
          rw [hconnected]
          exact Finset.mem_insert_self _ _
        · exact hallowed.2 (h.known j handle ((settled_addFirst hnone handle).mp hj))
        · show (m.addFirst handle).conns[k]? = _
          rw [hconns, List.getElem?_modify_eq, hk]
          rfl
    | disconnect handle =>
      have hnone := Option.isNone_iff_eq_none.mp hallowed
      exact absurd (hnone.symm.trans hadd).symm (Option.some_ne_none _)
    | host =>
      have hnone : m.addSecond.adding = none := by
        rw [addSecond]
        cases hadding : m.adding with
        | none => exact hadding
        | some a => rfl
      exact absurd (hnone.symm.trans hadd).symm (Option.some_ne_none _)

/-- `P` goes on holding, if it holds of those who come. -/
theorem Vouched.next {P : ℕ → UInt16 → Prop} (hv : m.Vouched P) (h : m.Kept) {e : RegistryStep}
    (hallowed : m.Allowed e) (hnew : ∀ conn, e = .connect conn → ∀ i, P i conn) :
    (m.next e).Vouched P := by
  refine ⟨fun i conn hs => ?_, fun i conn hadd => ?_, fun data i c hscan hc htorn => ?_⟩
  · rcases (h.settled_next hallowed).mp hs with ⟨hs', -⟩ | ⟨-, hadd⟩
    · exact hv.settled i conn hs'
    · exact hv.adding i conn hadd
  · cases e with
    | broadcast data => exact hv.adding i conn hadd
    | rx => exact hv.adding i conn (m.rxNext_fields.2.1 ▸ hadd)
    | connect handle =>
      obtain ⟨-, ⟨-, hsame⟩ | ⟨k, -, -, hadd', -⟩⟩ := m.addFirst_cases handle
      · exact hv.adding i conn (hsame.symm.trans hadd)
      · obtain ⟨rfl, rfl⟩ := Prod.mk.inj (Option.some.inj (hadd'.symm.trans hadd))
        exact hnew handle rfl k
    | disconnect handle => exact hv.adding i conn hadd
    | host =>
      refine absurd (show m.addSecond.adding = some (i, conn) from hadd) ?_
      rw [addSecond]
      cases hadding : m.adding with
      | none => simp [hadding]
      | some a => simp
  · by_cases he : e.byHost
    · obtain ⟨hsame, -, -, -, hhandle⟩ := m.host_leaves he
      obtain ⟨c', hc', ⟨heq, hwhole⟩ | ⟨-, hadd⟩⟩ := hhandle i c hc
      · rw [heq]
        refine hv.load data i c' (hsame.symm.trans hscan) hc' ?_
        have hidle : m.adding.isNone → m.torn i = false := fun hnone => by
          rw [torn, Option.isNone_iff_eq_none.mp hnone]
          rfl
        cases e with
        | broadcast data | rx => exact absurd he id
        | connect handle => exact hidle hallowed.1
        | disconnect handle => exact hidle hallowed
        | host => exact hwhole rfl
      · exact hv.adding i c.handle hadd
    · cases e with
      | broadcast data => cases Option.some.inj hscan
      | rx =>
        obtain ⟨hconns, hadding, -⟩ := m.rxNext_fields
        have htorn' : m.torn i = false := by
          rw [torn, ← hadding]
          exact htorn
        have hc' : m.conns[i]? = some c := hconns ▸ hc
        have hscan' : m.rxNext.1.scan = some (.load data i) := hscan
        rcases m.rxNext_cases with ⟨hnone, heq⟩ | ⟨p, -, -, heq⟩ | ⟨data', j, b, -, hb, heq⟩ |
          ⟨data', j, b, -, -, heq⟩
        · rw [heq, hnone] at hscan'
          exact absurd hscan'.symm (Option.some_ne_none _)
        · rw [heq] at hscan'
          exact absurd hscan'.symm (Option.some_ne_none _)
        · rw [heq] at hscan'
          by_cases hin : b.inUse = true
          · rw [if_pos hin] at hscan'
            cases Option.some.inj hscan'
            obtain rfl : b = c := Option.some.inj (hb.symm.trans hc')
            exact hv.settled i b.handle ⟨by rw [hb, ← hin], htorn'⟩
          · rw [if_neg hin] at hscan'
            cases Option.some.inj hscan'
        · rw [heq] at hscan'
          cases Option.some.inj hscan'
      | connect handle | disconnect handle | host => exact absurd trivial he

/-- Once a broadcast has begun, the steps are those of the host task and of the RX task. -/
theorem byHost_or_rx {e : RegistryStep} (he : e.begins = false) : e.byHost ∨ e = .rx := by
  cases e with
  | broadcast data => exact absurd he Bool.noConfusion
  | rx => exact .inr rfl
  | connect handle | disconnect handle | host => exact .inl trivial

/-- A step of a broadcast that has begun. -/
theorem length_load {e : RegistryStep} (he : e.begins = false) :
    (m.next e).dispatched = m.dispatched + (m.step e).2.length ∧
      (m.step e).2.length + (m.next e).remaining ≤ m.remaining := by
  rcases byHost_or_rx he with hhost | rfl
  · obtain ⟨hscan, hdispatched, hout, hlength, -⟩ := m.host_leaves hhost
    rw [hdispatched, hout, remaining, remaining, hscan, hlength]
    exact ⟨rfl, (Nat.zero_add _).le⟩
  · show m.rxNext.1.dispatched = m.dispatched + m.rxNext.2.length ∧
      m.rxNext.2.length + m.rxNext.1.remaining ≤ m.remaining
    rcases m.rxNext_cases with ⟨hnone, heq⟩ | ⟨p, hscan, -, heq⟩ | ⟨data, i, c, hscan, hc, heq⟩ |
      ⟨data, i, c, hscan, hc, heq⟩
    · rw [heq]
      exact ⟨rfl, (Nat.zero_add _).le⟩
    · rw [heq]
      exact ⟨rfl, Nat.zero_le _⟩
    · rw [heq]
      refine ⟨rfl, ?_⟩
      rw [remaining, remaining, hscan]
      show 0 + (m.conns.length - (if c.inUse = true then ScanPoint.load data i
        else .test data (i + 1)).place) ≤ m.conns.length - i
      split_ifs
      · exact (Nat.zero_add _).le
      · show 0 + (m.conns.length - (i + 1)) ≤ m.conns.length - i
        omega
    · rw [heq]
      refine ⟨rfl, ?_⟩
      have hlt := (List.getElem?_eq_some_iff.mp hc).1
      rw [remaining, remaining, hscan]
      show 1 + (m.conns.length - (i + 1)) ≤ m.conns.length - i
      omega

/-- **A central that is registered all the while**: the RX task comes to its entry once, and every
other load of its handle is torn. -/
theorem ahead_load {k : ℕ} {conn : UInt16} (hs : m.Settled k conn)
    (hv : m.Vouched fun i conn' => conn' = conn → i = k) {e : RegistryStep}
    (he : e.begins = false) :
    (m.next e).ahead k + (m.step e).2.countP (fun l => l.conn = conn ∧ l.torn = false) =
      m.ahead k := by
  have hlt : k < m.conns.length := (List.getElem?_eq_some_iff.mp hs.1).1
  rcases byHost_or_rx he with hhost | rfl
  · obtain ⟨hscan, -, hout, -, -⟩ := m.host_leaves hhost
    rw [hout, ahead, ahead, hscan]
    rfl
  · show m.rxNext.1.ahead k + m.rxNext.2.countP _ = m.ahead k
    rcases m.rxNext_cases with ⟨hnone, heq⟩ | ⟨p, hscan, hend, heq⟩ | ⟨data, i, c, hscan, hc, heq⟩ |
      ⟨data, i, c, hscan, hc, heq⟩
    · rw [heq]
      rfl
    · rw [heq, ahead, ahead, hscan]
      have hpast : m.conns.length ≤ p.place := List.getElem?_eq_none_iff.mp hend
      exact (if_neg (by omega)).symm
    · rw [heq, ahead, ahead, hscan]
      show (if (if c.inUse = true then ScanPoint.load data i else .test data (i + 1)).place ≤ k
        then 1 else 0) + 0 = if i ≤ k then 1 else 0
      by_cases hin : c.inUse = true
      · rw [if_pos hin]
        rfl
      · rw [if_neg hin]
        -- the entry is free, so it is not that of the central
        have hne : i ≠ k := by
          rintro rfl
          have hsame := Option.some.inj (hc.symm.trans hs.1)
          rw [hsame] at hin
          exact hin rfl
        show (if i + 1 ≤ k then 1 else 0) + 0 = if i ≤ k then 1 else 0
        split_ifs <;> omega
    · rw [heq, ahead, ahead, hscan]
      show (if i + 1 ≤ k then 1 else 0) + List.countP _ [_] = if i ≤ k then 1 else 0
      rw [List.countP_singleton]
      by_cases hik : i = k
      · subst hik
        obtain rfl : c = ⟨true, conn⟩ := Option.some.inj (hc.symm.trans hs.1)
        simp [hs.2]
      · have hother : ¬ (c.handle = conn ∧ m.torn i = false) := fun hload =>
          hik (hv.load data i c hscan hc hload.2 hload.1)
        simp only [hother, decide_false, Bool.false_eq_true, if_false]
        split_ifs <;> omega

/-- A load that is not torn. -/
theorem vouched_load {P : UInt16 → Prop} (hv : m.Vouched fun _ => P) {e : RegistryStep} {l : Load}
    (hl : l ∈ (m.step e).2) (htorn : l.torn = false) : P l.conn := by
  by_cases hhost : e.byHost
  · rw [(m.host_leaves hhost).2.2.1] at hl
    exact absurd hl List.not_mem_nil
  cases e with
  | broadcast data => exact absurd hl List.not_mem_nil
  | connect handle | disconnect handle | host => exact absurd trivial hhost
  | rx =>
    have hl' : l ∈ m.rxNext.2 := hl
    rcases m.rxNext_cases with ⟨-, heq⟩ | ⟨p, -, -, heq⟩ | ⟨data, i, c, -, -, heq⟩ |
      ⟨data, i, c, hscan, hc, heq⟩
    · rw [heq] at hl'
      exact absurd hl' List.not_mem_nil
    · rw [heq] at hl'
      exact absurd hl' List.not_mem_nil
    · rw [heq] at hl'
      exact absurd hl' List.not_mem_nil
    · rw [heq] at hl'
      obtain rfl := List.mem_singleton.mp hl'
      exact hv.load data i c hscan hc htorn

/-- What is sent stays the same. -/
theorem data_load {data : List UInt8} (hdata : ∀ p, m.scan = some p → p.data = data)
    {e : RegistryStep} (he : e.begins = false) :
    (∀ p, (m.next e).scan = some p → p.data = data) ∧ ∀ l ∈ (m.step e).2, l.data = data := by
  rcases byHost_or_rx he with hhost | rfl
  · obtain ⟨hscan, -, hout, -, -⟩ := m.host_leaves hhost
    rw [hscan, hout]
    exact ⟨hdata, fun l hl => absurd hl List.not_mem_nil⟩
  · show (∀ p, m.rxNext.1.scan = some p → p.data = data) ∧ ∀ l ∈ m.rxNext.2, l.data = data
    rcases m.rxNext_cases with ⟨-, heq⟩ | ⟨p, -, -, heq⟩ | ⟨sent, i, c, hscan, -, heq⟩ |
      ⟨sent, i, c, hscan, -, heq⟩
    · rw [heq]
      exact ⟨hdata, fun l hl => absurd hl List.not_mem_nil⟩
    · rw [heq]
      exact ⟨fun p hp => absurd hp.symm (Option.some_ne_none _),
        fun l hl => absurd hl List.not_mem_nil⟩
    · have hsent : sent = data := hdata _ hscan
      rw [heq]
      refine ⟨fun p hp => ?_, fun l hl => absurd hl List.not_mem_nil⟩
      rw [← Option.some.inj hp]
      split_ifs <;> exact hsent
    · have hsent : sent = data := hdata _ hscan
      rw [heq]
      refine ⟨fun p hp => ?_, fun l hl => ?_⟩
      · rw [← Option.some.inj hp]
        exact hsent
      · rw [List.mem_singleton.mp hl]
        exact hsent

/-! ## Runs -/

theorem run_step_cons (e : RegistryStep) (steps : List RegistryStep) :
    run step m (e :: steps) =
      ((run step (m.next e) steps).1, (m.step e).2 ++ (run step (m.next e) steps).2) :=
  run_cons ..

theorem data_run {data : List UInt8} (hdata : ∀ p, m.scan = some p → p.data = data)
    {steps : List RegistryStep} (hsteps : ∀ e ∈ steps, e.begins = false) {l : Load}
    (hl : l ∈ (run step m steps).2) : l.data = data := by
  induction steps generalizing m with
  | nil => exact absurd hl List.not_mem_nil
  | cons e steps ih =>
    obtain ⟨hdata', hout⟩ := m.data_load hdata (hsteps e List.mem_cons_self)
    rw [run_step_cons] at hl
    rcases List.mem_append.mp hl with hl | hl
    · exact hout l hl
    · exact ih hdata' (fun e' he' => hsteps e' (List.mem_cons_of_mem e he')) hl

theorem length_run {steps : List RegistryStep} (hsteps : ∀ e ∈ steps, e.begins = false) :
    let r := run step m steps
    r.1.dispatched = m.dispatched + r.2.length ∧ r.2.length + r.1.remaining ≤ m.remaining := by
  induction steps generalizing m with
  | nil => exact ⟨rfl, (Nat.zero_add _).le⟩
  | cons e steps ih =>
    obtain ⟨hdispatched, hlength⟩ := m.length_load (hsteps e List.mem_cons_self)
    obtain ⟨hdispatched', hlength'⟩ := @ih (m.next e) fun e' he' =>
      hsteps e' (List.mem_cons_of_mem e he')
    rw [run_step_cons]
    dsimp only
    rw [List.length_append]
    exact ⟨by rw [hdispatched', hdispatched, Nat.add_assoc], by omega⟩

theorem vouched_run {P : UInt16 → Prop} (h : m.Kept) (hv : m.Vouched fun _ => P)
    {steps : List RegistryStep} (hlaw : Along next Allowed m steps)
    (hnew : ∀ conn, .connect conn ∈ steps → P conn) {l : Load} (hl : l ∈ (run step m steps).2)
    (htorn : l.torn = false) : P l.conn := by
  induction steps generalizing m with
  | nil => exact absurd hl List.not_mem_nil
  | cons e steps ih =>
    rw [run_step_cons] at hl
    rcases List.mem_append.mp hl with hl | hl
    · exact vouched_load hv hl htorn
    · refine ih (h.next hlaw.1) (hv.next h hlaw.1 fun conn heq _ => ?_) hlaw.2
        (fun conn hconn => hnew conn (List.mem_cons_of_mem e hconn)) hl
      exact hnew conn (heq ▸ List.mem_cons_self)

theorem ahead_run {k : ℕ} {conn : UInt16} (h : m.Kept) (hs : m.Settled k conn)
    (hv : m.Vouched fun i conn' => conn' = conn → i = k) {steps : List RegistryStep}
    (hlaw : Along next Allowed m steps) (hsteps : ∀ e ∈ steps, e.begins = false)
    (hstays : .disconnect conn ∉ steps) :
    let r := run step m steps
    r.1.ahead k + r.2.countP (fun l => l.conn = conn ∧ l.torn = false) = m.ahead k := by
  induction steps generalizing m with
  | nil => rfl
  | cons e steps ih =>
    have hone := m.ahead_load hs hv (hsteps e List.mem_cons_self)
    have hs' : (m.next e).Settled k conn := (h.settled_next hlaw.1).mpr
      (.inl ⟨hs, fun heq => hstays (heq ▸ List.mem_cons_self)⟩)
    have hv' := hv.next h hlaw.1 fun conn' heq i hconn => by
      -- NimBLE does not report it again
      rw [heq, hconn] at hlaw
      exact absurd (h.known k conn hs) hlaw.1.2
    have hrest := @ih (m.next e) (h.next hlaw.1) hs' hv' hlaw.2
      (fun e' he' => hsteps e' (List.mem_cons_of_mem e he'))
      fun hmem => hstays (List.mem_cons_of_mem e hmem)
    rw [run_step_cons]
    dsimp only at hrest ⊢
    rw [List.countP_append]
    omega

/-- No step changes the length of the table. -/
theorem length_conns_next (m : SharedRegistry) (e : RegistryStep) :
    (m.next e).conns.length = m.conns.length := by
  by_cases hhost : e.byHost
  · exact (m.host_leaves hhost).2.2.2.1
  cases e with
  | broadcast data => rfl
  | rx => exact congrArg List.length m.rxNext_fields.1
  | connect handle | disconnect handle | host => exact absurd trivial hhost

/-- The torn loads of a handle and the others. -/
theorem countP_conn (conn : UInt16) (loads : List Load) :
    loads.countP (fun l => l.conn = conn) =
      loads.countP (fun l => l.conn = conn ∧ l.torn = false) +
        loads.countP fun l => l.conn = conn ∧ l.torn = true := by
  induction loads with
  | nil => rfl
  | cons l loads ih =>
    rw [List.countP_cons, List.countP_cons, List.countP_cons, ih]
    by_cases hconn : l.conn = conn <;> cases htorn : l.torn <;> simp [hconn] <;> omega

theorem kept_boot (maxConn : ℕ) : (registryBoot maxConn).Kept := by
  have hfree : ∀ i conn, ¬ (registryBoot maxConn).Settled i conn := by
    rintro i conn ⟨hentry, -⟩
    have hmem := List.mem_of_getElem? hentry
    rw [registryBoot, connsBoot] at hmem
    cases List.eq_of_mem_replicate hmem
  exact ⟨fun i conn hs => absurd hs (hfree i conn), fun i j conn hs => absurd hs (hfree i conn),
    fun i conn hadd => absurd hadd.symm (Option.some_ne_none _)⟩

end Steps

/-- **Broadcasts.**  In every interleaving from boot, a broadcast makes at most `maxConn` calls of
`al1_ble_notify_conn`, all with its data, and returns their number.  A central that is registered
from its begin to its end is notified once, and once more for every torn load of its handle.  A load
that is not torn is of a central that was connected when it began, or has connected since. -/
theorem broadcast_count {maxConn : ℕ} {before during : List RegistryStep} {data : List UInt8}
    (hlaw : Along next Allowed (registryBoot maxConn) (before ++ .broadcast data :: during))
    (hone : ∀ e ∈ during, e.begins = false) :
    let m := before.foldl next (registryBoot maxConn)
    let r := run step m (.broadcast data :: during)
    r.1.scan = none →
      (r.1.dispatched = r.2.length ∧ r.2.length ≤ maxConn) ∧
      (∀ conn, m.Registered conn → .disconnect conn ∉ during →
        r.2.countP (fun l => l.conn = conn) =
          1 + r.2.countP fun l => l.conn = conn ∧ l.torn = true) ∧
      ∀ l ∈ r.2, l.data = data ∧
        (l.torn = false → l.conn ∈ m.connected ∨ .connect l.conn ∈ during) := by
  intro m r hdone
  obtain ⟨hbefore, -, hduring⟩ := along_append.mp hlaw
  obtain ⟨h, hlength⟩ : m.Kept ∧ m.conns.length = maxConn :=
    hbefore.invariant (R := fun m => m.Kept ∧ m.conns.length = maxConn)
      (fun m e hm hallowed => ⟨hm.1.next hallowed, (m.length_conns_next e).trans hm.2⟩)
      ⟨kept_boot maxConn, List.length_replicate⟩
  set start : SharedRegistry := m.next (.broadcast data) with hstart
  have hkept : start.Kept := ⟨h.known, h.distinct, h.adding⟩
  -- what the table says, it says when the broadcast begins
  have hvouched : ∀ P : ℕ → UInt16 → Prop, (∀ i conn, m.Settled i conn → P i conn) →
      (∀ i conn, m.adding = some (i, conn) → P i conn) → start.Vouched P :=
    fun P hsettled hadding => ⟨hsettled, hadding, fun d i c hscan => by cases Option.some.inj hscan⟩
  have hr : r = run step start during := Prod.ext rfl (List.nil_append _)
  rw [hr] at hdone ⊢
  refine ⟨?_, fun conn hreg hstays => ?_, fun l hl => ⟨?_, fun htorn => ?_⟩⟩
  · obtain ⟨hdispatched, hbound⟩ := @length_run start during hone
    refine ⟨hdispatched.trans (Nat.zero_add _), ?_⟩
    have hremaining : start.remaining = maxConn := hlength
    omega
  · obtain ⟨k, hs⟩ := hreg
    have hcount := ahead_run hkept hs
      (hvouched _ (fun i conn' hi heq => h.distinct i k conn (heq ▸ hi) hs)
        fun i conn' hadd heq => absurd hs ((h.adding i conn (heq ▸ hadd)).2.1 k))
      hduring hone hstays
    have hahead : start.ahead k = 1 := by
      show (if 0 ≤ k then 1 else 0) = 1
      exact if_pos (Nat.zero_le k)
    have hpast : (run step start during).1.ahead k = 0 := by rw [ahead, hdone]; rfl
    rw [countP_conn]
    simp only at hcount
    omega
  · exact data_run (fun p hp => by rw [← Option.some.inj hp]; rfl) hone hl
  · exact vouched_run (P := fun conn => conn ∈ m.connected ∨ .connect conn ∈ during) hkept
      (hvouched _ (fun i conn hs => .inl (h.known i conn hs))
        fun i conn hadd => .inl (h.adding i conn hadd).1)
      hduring (fun conn hconn => .inr hconn) hl htorn

/-- A second central connects while the first is notified, and takes an entry that has held no
handle yet. -/
def tornLoad : List RegistryStep := [.rx, .rx, .connect 1, .rx, .rx, .host, .rx, .rx]

/-- The first central is notified twice. -/
theorem broadcast_count_tornLoad :
    (run step ([.connect 0, .host].foldl next (registryBoot al1BleMaxConn))
      (.broadcast [7] :: tornLoad)).2.countP (fun l => l.conn = 0) = 2 := by
  have hcount := @broadcast_count al1BleMaxConn [.connect 0, .host] tornLoad [7] (by decide +kernel)
    (by decide +kernel) (by decide +kernel)
  exact (hcount.2.1 0 ⟨0, by decide +kernel, by decide +kernel⟩ (by simp [tornLoad])).trans
    (by decide +kernel)

end SharedRegistry

end Al1Wmod
