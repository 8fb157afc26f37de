import Al1Wmod.System.Stm32

/-!
# Whose claim an OK grants

The bridge takes every OK that arrives while a claim is pending for the OK to that claim.  It is
not, when a command is queued ahead of the CLAIM and answered with OK first, or when the CLAIM was
refused, or lost by `al1_link_send`, and the OK answers something later.

The result is stated without the variables of the bridge: each binding is earned exactly in the
runs in which, whenever an OK arrives after a CLAIM, the OK answers a CLAIM of the connection that
claimed last.
-/

namespace Al1Wmod

open PastTime Machine

/-- A CLAIM frame, from anyone. -/
def Call.isClaim : Call → Bool
  | .apFrame _ frame => apCmd frame == apCmdClaim
  | _ => false

/-- The newest CLAIM since the last OK came from `conn`, which has not disconnected since. -/
abbrev NewestClaim (conn : UInt16) : List Entry → Prop :=
  Since (fun e => ¬ e.call.isOk ∧ ¬ e.call.isClaim ∧ ¬ e.call.disconnects conn)
    fun e _ => e.call.claims conn

/-- The frame answers a CLAIM that was forwarded from `conn` during its current connection. -/
def Downlink.AnswersClaim (d : Downlink) (conn : UInt16) (hist : List Entry) : Prop :=
  match d.answers with
  | some x => x.conn = conn ∧ apCmd x.frame = apCmdClaim ∧ x.epoch = epoch conn hist ∧
      Connected conn hist
  | none => False

instance (d : Downlink) (conn : UInt16) (hist : List Entry) :
    Decidable (d.AnswersClaim conn hist) := by
  unfold Downlink.AnswersClaim
  split <;> infer_instance

/-- Whenever the bridge binds a connection, the OK it processes answers a CLAIM of that
connection. -/
def Sys.BindsClaimant (s : Sys) : SysEvent → Prop
  | .deliver => ∀ d ∈ s.down.head?, (s.arrival d).isBind →
      d.AnswersClaim (s.arrival d).after.controllingConn s.hist
  | _ => True

instance (s : Sys) : ∀ e, Decidable (s.BindsClaimant e)
  | .deliver => inferInstanceAs (Decidable (∀ d ∈ s.down.head?, (s.arrival d).isBind →
      d.AnswersClaim (s.arrival d).after.controllingConn s.hist))
  | .connEvt _ _ _ | .write _ _ _ | .answer _ _ | .event _ _ => isTrue trivial

/-- Whenever an OK arrives after a CLAIM, it answers a CLAIM of the connection that claimed
last. -/
def Sys.InTurn (s : Sys) : SysEvent → Prop
  | .deliver => ∀ d ∈ s.down.head?, apPeek d.payload d.len = apCmdOk →
      ∀ conn, NewestClaim conn s.hist → d.AnswersClaim conn s.hist
  | _ => True

/-- **What is pending** is the newest claim. -/
theorem Traced.newestClaim_iff {s : Session} {hist : List Entry} (h : Traced s hist)
    (conn : UInt16) :
    NewestClaim conn hist ↔ conn = s.pendingClaimConn ∧ conn ≠ connNone := by
  induction h with
  | boot =>
    constructor
    · intro h
      exact absurd h not_since_nil
    · rintro ⟨rfl, hne⟩
      exact absurd rfl hne
  | @step s hist c ht hj ih =>
    have hstep := s.call_step c
    rw [NewestClaim, since_cons, Session.entry]
    show _ ∨ (_ ∧ NewestClaim conn hist) ↔ _
    rw [ih]
    generalize (s.call c).1 = s' at hstep ⊢
    generalize (s.call c).2 = acts at hstep
    cases hstep with
    | connect _ | write _ _ => simp [Call.claims, Call.isOk, Call.isClaim, Call.disconnects]
    | @leave conn' _ | @drop conn' _ =>
      -- the disconnect takes back the claim of `conn'`
      by_cases hp : conn' = s.pendingClaimConn
      · simp only [Call.claims, Call.isOk, Call.isClaim, Call.disconnects, if_pos hp]
        constructor
        · rintro (h | ⟨⟨-, -, h⟩, rfl, -⟩)
          · exact absurd h Bool.false_ne_true
          · exact absurd hp (by simpa using h)
        · rintro ⟨rfl, h⟩
          exact absurd rfl h
      · simp only [Call.claims, Call.isOk, Call.isClaim, Call.disconnects, if_neg hp]
        constructor
        · rintro (h | ⟨-, h⟩)
          · exact absurd h Bool.false_ne_true
          · exact h
        · rintro ⟨rfl, h⟩
          exact Or.inr ⟨by simpa using hp, rfl, h⟩
    | @claim conn' frame hcmd =>
      have hne : conn' ≠ connNone := ht.inv.handles _ hj.1
      simp only [Call.claims, Call.isClaim, hcmd, beq_self_eq_true, Bool.and_true, beq_iff_eq,
        not_true_eq_false, false_and, and_false, or_false]
      constructor
      · rintro rfl
        exact ⟨rfl, hne⟩
      · rintro ⟨rfl, -⟩
        rfl
    | release _ hcmd =>
      have hclaim : apCmdRelease ≠ apCmdClaim := by decide
      simp [Call.claims, Call.isOk, Call.isClaim, Call.disconnects, hcmd, hclaim, clearBinding]
    | forward hclaim _ _ => simp [Call.claims, Call.isOk, Call.isClaim, Call.disconnects, hclaim]
    | reject _ hcmd =>
      have hclaim : apCmd _ ≠ apCmdClaim := fun h => by
        rw [h, apCmdRequiresClaim_claim] at hcmd
        exact Bool.false_ne_true hcmd
      simp [Call.claims, Call.isOk, Call.isClaim, Call.disconnects, hclaim]
    | bind id hok hp =>
      simp only [Call.claims, Call.isOk, hok, beq_self_eq_true, not_true_eq_false, false_and,
        or_false]
      constructor
      · exact fun h => absurd h Bool.false_ne_true
      · rintro ⟨rfl, h⟩
        exact absurd rfl h
    | sessionEnd hend =>
      simp [Call.claims, Call.isOk, Call.isClaim, Call.disconnects, hend, clearBinding,
        apCmdEvtSessionEnd, apCmdOk]
    | @pass payload len hok _ =>
      by_cases h : apPeek payload len = apCmdOk
      · simp [Call.claims, Call.isOk, h, hok h]
      · simp [Call.claims, Call.isOk, Call.isClaim, Call.disconnects, h]

/-- **Claim attribution.**  In every run of the system, whatever `al1_link_send` loses: each binding
is the answer to a claim of the connection that is bound, exactly when every OK that follows a
claim answers a claim of the connection that claimed last. -/
theorem claim_attribution {maxConn : ℕ} {events : List SysEvent}
    (h : Along sysStep Sys.Allowed (sysBoot maxConn) events) :
    Along sysStep Sys.BindsClaimant (sysBoot maxConn) events ↔
      Along sysStep Sys.InTurn (sysBoot maxConn) events := by
  refine Along.congr (R := SysInv maxConn) (fun s e hinv he => hinv.step he) ?_
    (sysInv_boot maxConn) h
  intro s e hinv he
  cases e with
  | connEvt _ _ _ | write _ _ _ | answer _ _ | event _ _ => exact Iff.rfl
  | deliver =>
    refine forall_congr' fun d => forall_congr' fun hd => ?_
    have hnewest := hinv.reached.traced.newestClaim_iff
    constructor
    · intro hbind hok conn hconn
      obtain ⟨rfl, hne⟩ := (hnewest conn).mp hconn
      have := hbind (isBind_entry.mpr ⟨hok, hne⟩)
      rwa [Sys.arrival, controllingConn_of_isBind ⟨hok, hne⟩] at this
    · intro hturn hb
      obtain ⟨hok, hne⟩ := isBind_entry.mp hb
      rw [Sys.arrival, controllingConn_of_isBind ⟨hok, hne⟩]
      exact hturn hok _ ((hnewest _).mpr ⟨rfl, hne⟩)

/-- Connection 1 claims while a PING of connection 2 waits for its answer, which is an ERROR; then
the claim is granted. -/
theorem claim_attribution_ping_refused :
    Along sysStep Sys.InTurn (sysBoot al1BleMaxConn)
      [.connEvt 1 true [], .connEvt 2 true [], .write 2 (apPacketBytes apCmdPing []) [],
        .write 1 (apPacketBytes apCmdClaim []) [],
        .answer (Buffer.ofList 0 (apPacketBytes apCmdError [2])) 5, .deliver,
        .answer (Buffer.ofList 0 (apPacketBytes apCmdOk [0, 7])) 6, .deliver] :=
  (claim_attribution (by decide +kernel)).mp (by decide +kernel)

/-- Connection 1 sends PING and CLAIM.  The OK to the PING binds it. -/
theorem bound_by_ping : ∃ events,
    Along sysStep Sys.Allowed (sysBoot al1BleMaxConn) events ∧
      ¬ Along sysStep Sys.BindsClaimant (sysBoot al1BleMaxConn) events :=
  ⟨[.connEvt 1 true [],
      .write 1 (apPacketBytes apCmdPing [] ++ apPacketBytes apCmdClaim []) [],
      .answer (Buffer.ofList 0 (apPacketBytes apCmdOk [])) 4, .deliver],
    by decide +kernel, by decide +kernel⟩

end Al1Wmod
