import TfPack.Mstpd.TreeMachines

set_option autoImplicit false

/-! # The spanning tree daemon: when the Topology Change machine returns

`TCSM_run` and the functions called on entering a state call each other. In the CIST they always
return. In an MSTI the flag that a TCN BPDU leaves at the port is not cleared, and that of an
acknowledgement only in `ACKNOWLEDGED`, which is entered from `ACTIVE`. A call that finds one of them
may nest for ever (`Pending`); it returns in all other cases (`tcsm_returns_iff`).
-/

namespace Mstpd

open Settling BoundedLoop

/-! ## What the machine looks at -/

/-- What the machine of an entry looks at, without `fdbFlush`. -/
structure TcsmView where
  state : TcsmState
  active : Bool
  operEdge : Bool
  learn : Bool
  learning : Bool
  forward : Bool
  rcvdTc : Bool
  tcProp : Bool
  rcvdTcn : Bool
  rcvdTcAck : Bool

def TcsmView.of (x : PerTreePort) (prt : Port) : TcsmView where
  state := x.TCSM_state
  active := x.active
  operEdge := prt.operEdge
  learn := x.learn
  learning := x.learning
  forward := x.forward
  rcvdTc := x.rcvdTc
  tcProp := x.tcProp
  rcvdTcn := prt.rcvdTcn
  rcvdTcAck := prt.rcvdTcAck

def Bridge.tcsmView (b : Bridge) (p : PortRef) (t : Mstid) : TcsmView := .of (b.ptp p t) (b.port p)

/-- What entering a state does to the view. -/
def TcsmView.enter (cist : Bool) (x : TcsmState) (v : TcsmView) : TcsmView :=
  let v := { v with state := x }
  match x with
  | .LEARNING =>
      { v with
        rcvdTc := false, tcProp := false
        rcvdTcn := !cist && v.rcvdTcn, rcvdTcAck := !cist && v.rcvdTcAck }
  | .NOTIFIED_TC => { v with rcvdTc := false, rcvdTcn := !cist && v.rcvdTcn }
  | .PROPAGATING => { v with tcProp := false }
  | .ACKNOWLEDGED => { v with rcvdTcAck := false }
  | _ => v

/-- The next state, as a function of the view. -/
def TcsmView.next (fdbFlush : Bool) (v : TcsmView) : Option TcsmState :=
  match v.state with
  | .INACTIVE => if v.learn && !fdbFlush then some .LEARNING else none
  | .LEARNING =>
      if v.active && v.forward && !v.operEdge then some .DETECTED
      else if v.rcvdTc || v.rcvdTcn || v.rcvdTcAck || v.tcProp then some .LEARNING
      else if !v.active && !(v.learn || v.learning) then some .INACTIVE
      else none
  | .NOTIFIED_TCN => some .NOTIFIED_TC
  | .DETECTED => some .ACTIVE
  | .NOTIFIED_TC => some .ACTIVE
  | .PROPAGATING => some .ACTIVE
  | .ACKNOWLEDGED => some .ACTIVE
  | .ACTIVE =>
      if !v.active || v.operEdge then some .LEARNING
      else if v.rcvdTcn then some .NOTIFIED_TCN
      else if v.rcvdTc then some .NOTIFIED_TC
      else if v.tcProp then some .PROPAGATING
      else if v.rcvdTcAck then some .ACKNOWLEDGED
      else none

section Views

variable (b : Bridge) (p : PortRef) (t : Mstid)

theorem tcsmNext_view :
    tcsmNext b p t = (b.tcsmView p t).next (b.ptp p t).fdbFlush := rfl

theorem setPort_tcsmView {f : Port → Port} (g : TcsmView → TcsmView)
    (hf : ∀ x prt, TcsmView.of x (f prt) = g (.of x prt)) :
    (b.setPort p f).tcsmView p t = g (b.tcsmView p t) := by
  rw [Bridge.tcsmView, setPort_ptp, setPort_port_self, hf]
  rfl

theorem setPtp_tcsmView {f : PerTreePort → PerTreePort} (g : TcsmView → TcsmView)
    (hf : ∀ x prt, TcsmView.of (f x) prt = g (.of x prt)) :
    (b.setPtp p t f).tcsmView p t = g (b.tcsmView p t) := by
  rw [Bridge.tcsmView, setPtp_ptp_self, setPtp_port, hf]
  rfl

theorem setNewInfo_tcsmView : (setNewInfo b p t).tcsmView p t = b.tcsmView p t := by
  refine setPort_tcsmView b p t id (fun x prt => ?_)
  split <;> rfl

theorem newTcWhile_tcsmView : (newTcWhile b p t).tcsmView p t = b.tcsmView p t := by
  have htree : ∀ b : Bridge, (setTopologyChange b t p).tcsmView p t = b.tcsmView p t :=
    fun _ => rfl
  dsimp only [newTcWhile]
  split_ifs
  · rfl
  · rw [setNewInfo_tcsmView, htree]
    exact setPtp_tcsmView b p t id (by intros; rfl)
  · rw [htree]
    exact setPtp_tcsmView b p t id (by intros; rfl)

theorem mstpOutFlushAllFids_tcsmView :
    (mstpOutFlushAllFids b p t).tcsmView p t = b.tcsmView p t :=
  setPtp_tcsmView (b.emit _) p t id (by intros; rfl)

theorem setFdbFlush_tcsmView : (setFdbFlush b p t).tcsmView p t = b.tcsmView p t := by
  dsimp only [setFdbFlush]
  split_ifs
  · exact setPtp_tcsmView b p t id (by intros; rfl)
  · rw [mstpOutFlushAllFids_tcsmView]
    exact setPtp_tcsmView b p t id (by intros; rfl)
  · refine (setPtp_tcsmView _ p t id (by intros; rfl)).trans ?_
    exact setPort_tcsmView (b.emit _) p t id (by intros; rfl)

/-- The propagation reaches the other ports of the tree only. -/
theorem setTcPropTree_tcsmView : (setTcPropTree b p t).tcsmView p t = b.tcsmView p t := by
  dsimp only [setTcPropTree]
  split_ifs
  · rfl
  · simp [Bridge.tcsmView, setPtps_ptp]

/-- The end of a topology change is not seen by the machine. -/
theorem stopTc_tcsmView :
    (checkTopologyChange (b.setPtp p t (fun ptp => { ptp with tcWhile := 0 })) t).tcsmView p t =
      b.tcsmView p t := by
  change (b.setPtp p t (fun ptp => { ptp with tcWhile := 0 })).tcsmView p t = _
  exact setPtp_tcsmView b p t id (by intros; rfl)

/-- **Entering a state.** -/
theorem tcsmTo_tcsmView (x : TcsmState) :
    (tcsmTo x b p t).tcsmView p t = (b.tcsmView p t).enter (t == 0) x := by
  have hstate : (b.setPtp p t (fun ptp => { ptp with TCSM_state := x })).tcsmView p t =
      { b.tcsmView p t with state := x } :=
    setPtp_tcsmView b p t (fun v => { v with state := x }) (by intros; rfl)
  cases x <;> dsimp only [tcsmTo, TcsmView.enter]
  case INACTIVE =>
    have hview := (stopTc_tcsmView _ p t).trans ((setFdbFlush_tcsmView _ p t).trans hstate)
    split_ifs
    · exact (setPort_tcsmView _ p t id (by intros; rfl)).trans hview
    · exact hview
  case LEARNING =>
    refine (setPtp_tcsmView _ p t (fun v => { v with rcvdTc := false, tcProp := false })
      (by intros; rfl)).trans ?_
    split_ifs with ht
    · have hport := setPort_tcsmView (b.setPtp p t (fun ptp => { ptp with TCSM_state := .LEARNING }))
        p t (f := fun prt => { prt with rcvdTcn := false, rcvdTcAck := false })
        (fun v => { v with rcvdTcn := false, rcvdTcAck := false }) (by intros; rfl)
      rw [hport, hstate, ht]
      rfl
    · simp only [hstate, beq_false_of_ne ht, Bool.not_false, Bool.true_and]
  case DETECTED => rw [setNewInfo_tcsmView, setTcPropTree_tcsmView, newTcWhile_tcsmView, hstate]
  case NOTIFIED_TCN => rw [newTcWhile_tcsmView, hstate]
  case NOTIFIED_TC =>
    have hview := setPtp_tcsmView (b.setPtp p t (fun ptp => { ptp with TCSM_state := .NOTIFIED_TC }))
      p t (f := fun ptp => { ptp with rcvdTc := false }) (fun v => { v with rcvdTc := false })
      (by intros; rfl)
    rw [hstate] at hview
    rw [setTcPropTree_tcsmView]
    split_ifs with ht
    · refine (setPort_tcsmView _ p t (fun v => { v with rcvdTcn := false }) (by intros; rfl)).trans ?_
      rw [hview, ht]
      rfl
    · rw [hview, beq_false_of_ne ht]
      rfl
  case PROPAGATING =>
    refine (setPtp_tcsmView _ p t (fun v => { v with tcProp := false }) (by intros; rfl)).trans ?_
    rw [setFdbFlush_tcsmView, newTcWhile_tcsmView, hstate]
  case ACKNOWLEDGED =>
    refine (setPort_tcsmView _ p t (fun v => { v with rcvdTcAck := false })
      (by intros; rfl)).trans ?_
    rw [stopTc_tcsmView, hstate]
  case ACTIVE => exact hstate

end Views

/-! ## Termination -/

/-- Whether an active port leaves `ACTIVE` at once. -/
def TcsmView.leaves (v : TcsmView) : Bool := !v.active || v.operEdge

/-- A port of an MSTI has a flag to take care of that its machine does not clear where it is
noticed. -/
def TcsmView.Pending (v : TcsmView) : Prop :=
  match v.state with
  | .INACTIVE | .LEARNING =>
      v.rcvdTcn = true ∨ (v.rcvdTcAck = true ∧ (v.leaves = true ∨ v.forward = false))
  | _ => v.rcvdTcn = true ∨ (v.rcvdTcAck = true ∧ v.leaves = true)

/-- How much the machine has to do. -/
def TcsmView.rank (v : TcsmView) : Nat :=
  (if v.rcvdTcn then 3 else 0) + (if v.rcvdTc then 2 else 0) + (if v.tcProp then 2 else 0) +
    (if v.rcvdTcAck then 2 else 0) +
    match v.state with
    | .INACTIVE => if v.learn then 5 else 0
    | .LEARNING => if v.leaves then 1 else 4
    | .ACTIVE => 2
    | .NOTIFIED_TCN => if v.rcvdTcn && !v.leaves then 1 else 4
    | _ => 3

section Rank

variable {v : TcsmView} {x : TcsmState} {fdbFlush : Bool}

theorem enter_state {cist : Bool} : (v.enter cist x).state = x := by cases x <;> rfl

/-- A state that is entered leaves less to do, but for flags that are not taken care of. -/
theorem rank_enter {cist : Bool} (h : v.next fdbFlush = some x)
    (hp : cist = true ∨ ¬ v.Pending) : (v.enter cist x).rank < v.rank := by
  obtain ⟨s, active, operEdge, learn, learning, forward, rcvdTc, tcProp, rcvdTcn, rcvdTcAck⟩ := v
  cases s <;> simp only [TcsmView.next] at h
  case INACTIVE | LEARNING | ACTIVE =>
    split_ifs at h <;> cases h <;> cases cist <;>
      simp_all [TcsmView.enter, TcsmView.rank, TcsmView.leaves, TcsmView.Pending] <;> grind
  all_goals
    cases h
    cases cist <;>
      simp_all [TcsmView.enter, TcsmView.rank, TcsmView.leaves, TcsmView.Pending]
    all_goals grind

/-- The flags that are not taken care of stay. -/
theorem pending_enter (h : v.next fdbFlush = some x) :
    (v.enter false x).Pending ↔ v.Pending := by
  obtain ⟨s, active, operEdge, learn, learning, forward, rcvdTc, tcProp, rcvdTcn, rcvdTcAck⟩ := v
  cases s <;> simp only [TcsmView.next] at h
  case INACTIVE | LEARNING | ACTIVE =>
    split_ifs at h <;> cases h <;>
      simp_all [TcsmView.enter, TcsmView.leaves, TcsmView.Pending]
  all_goals
    cases h
    simp_all [TcsmView.enter, TcsmView.leaves, TcsmView.Pending]

/-- A machine with such flags does not stop, once it has started. -/
theorem next_of_pending (h : v.Pending)
    (hs : v.state = .INACTIVE → v.learn = true ∧ fdbFlush = false) :
    v.next fdbFlush ≠ none ∧ v.next fdbFlush ≠ some .INACTIVE := by
  obtain ⟨s, active, operEdge, learn, learning, forward, rcvdTc, tcProp, rcvdTcn, rcvdTcAck⟩ := v
  cases s <;> simp only [TcsmView.next]
  case LEARNING | ACTIVE => split_ifs <;> simp_all [TcsmView.Pending, TcsmView.leaves]
  all_goals simp_all

end Rank

section Returns

variable (b : Bridge) (p : PortRef) (t : Mstid)

/-- Flags that are not taken care of have been found. -/
def Bridge.TcsmHangs (b : Bridge) (p : PortRef) (t : Mstid) : Prop :=
  t ≠ 0 ∧ (b.tcsmView p t).Pending ∧
    ((b.ptp p t).TCSM_state = .INACTIVE → (b.ptp p t).learn = true ∧ (b.ptp p t).fdbFlush = false)

variable {b p t}

theorem tcsmRun_body {e : Bridge} :
    (tcsmRun p t).body e b =
      match tcsmNext b p t with
      | none => .inr b
      | some x => .inl (tcsmTo x b p t) := by
  simp only [Automaton.body, tcsmRun]
  cases tcsmNext b p t <;> rfl

/-- A call that has found such flags does not end. -/
theorem run_of_hangs (h : b.TcsmHangs p t) (depth : Nat) : (tcsmRun p t).run depth b = none := by
  refine run_eq_none (P := fun b => b.TcsmHangs p t) (fun s hs => ?_) h depth
  obtain ⟨ht, hp, hstart⟩ := hs
  obtain ⟨hnone, hinactive⟩ := next_of_pending hp hstart
  obtain ⟨x, hx⟩ := Option.ne_none_iff_exists'.mp hnone
  have hbody : (tcsmRun p t).body b s = .inl (tcsmTo x s p t) := by
    rw [tcsmRun_body, tcsmNext_view, hx]
  refine ⟨0, _, Leads.step hbody, ht, ?_, fun hst => ?_⟩
  · rw [tcsmTo_tcsmView, beq_false_of_ne ht]
    exact (pending_enter hx).mpr hp
  · have hstate : ((tcsmTo x s p t).ptp p t).TCSM_state = x :=
      (congrArg TcsmView.state (tcsmTo_tcsmView s p t x)).trans enter_state
    exact absurd (hx.trans (congrArg some (hstate.symm.trans hst))) hinactive

/-- A call whose entry has nothing pending ends within its rank. -/
theorem run_of_not_pending (h : t = 0 ∨ ¬ (b.tcsmView p t).Pending) :
    ∃ b', (tcsmRun p t).run ((b.tcsmView p t).rank + 1) b = some b' := by
  refine run_of_rank (P := fun b : Bridge => t = 0 ∨ ¬ (b.tcsmView p t).Pending)
    (fun b : Bridge => (b.tcsmView p t).rank) (fun s s' hs hbody => ?_) h
  rw [tcsmRun_body] at hbody
  cases hx : tcsmNext s p t with
  | none => simp [hx] at hbody
  | some x =>
      simp only [hx, Sum.inl.injEq] at hbody
      rw [tcsmNext_view] at hx
      rw [← hbody, tcsmTo_tcsmView]
      refine ⟨?_, rank_enter hx (hs.imp_left fun ht => by rw [ht]; rfl)⟩
      by_cases ht : t = 0
      · exact .inl ht
      · rw [beq_false_of_ne ht, pending_enter hx]
        exact hs

theorem rank_le (v : TcsmView) : v.rank ≤ 14 := by
  unfold TcsmView.rank
  cases v.state <;> dsimp only <;> split_ifs <;> omega

/-- **When the machine returns.** A call of the Topology Change machine of a port in a tree ends,
and then within 15 turns, unless the tree is an MSTI, the machine has started, and the port has been
told of a topology change by a TCN BPDU, or by an acknowledgement that it comes across in
`LEARNING` where it cannot go on to `ACTIVE`. In these cases it never ends. -/
theorem tcsm_returns_iff (b : Bridge) (p : PortRef) (t : Mstid) :
    ((∃ depth b', (tcsmRun p t).run depth b = some b') ↔ ¬ b.TcsmHangs p t) ∧
      (¬ b.TcsmHangs p t → ∃ b', (tcsmRun p t).run 15 b = some b') := by
  have hends : ¬ b.TcsmHangs p t → ∃ b', (tcsmRun p t).run 15 b = some b' := by
    intro h
    by_cases hp : t = 0 ∨ ¬ (b.tcsmView p t).Pending
    · obtain ⟨b', hb'⟩ := run_of_not_pending hp
      exact ⟨b', run_mono (Nat.succ_le_succ (rank_le _)) hb'⟩
    · -- the machine has not started, and does not start now
      push Not at hp
      have hstart : ¬ ((b.ptp p t).TCSM_state = .INACTIVE →
          (b.ptp p t).learn = true ∧ (b.ptp p t).fdbFlush = false) :=
        fun hs => h ⟨hp.1, hp.2, hs⟩
      push Not at hstart
      obtain ⟨hst, hno⟩ := hstart
      have hnone : tcsmNext b p t = none := by
        rw [tcsmNext, hst]
        cases hl : (b.ptp p t).learn <;> simp_all
      exact ⟨b, run_done (by rw [tcsmRun_body, hnone]) 14⟩
  refine ⟨⟨?_, fun h => ⟨15, hends h⟩⟩, hends⟩
  rintro ⟨depth, b', hr⟩ h
  rw [run_of_hangs h] at hr
  cases hr

end Returns

end Mstpd
