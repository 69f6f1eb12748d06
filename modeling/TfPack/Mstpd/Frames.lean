import TfPack.Mstpd.Daemon

set_option autoImplicit false

/-! # The spanning tree daemon: what a machine leaves alone

No machine assigns to what is configured (`Held`), and only that of transmission sends anything
(`Silent`). For each of the machines of an entry there is a function that forgets exactly the fields
the machine assigns to (`exceptInfo`, `exceptRoles`, `exceptTrans`, `exceptState`, `exceptTc`), and
one theorem that the machine touches no other (`Touches`); whatever does not depend on the forgotten
fields is kept with them (`Touches.view`).
-/

namespace Mstpd

open Settling

variable {b b' b'' : Bridge}

/-! ## What is configured, and what is sent -/

/-- The part of a port that no machine assigns to. -/
@[reducible] def Port.held (prt : Port) : PortConf × Bool × Bool :=
  (prt.conf, prt.portEnabled, prt.deleted)

/-- The part of a tree that no machine assigns to. -/
@[reducible] def Tree.held (tree : Tree) : Mstpd.BridgeIdentifier × PriorityVector × Times :=
  (tree.BridgeIdentifier, tree.BridgePriority, tree.BridgeTimes)

/-- The part of an entry that no machine assigns to. -/
@[reducible] def PerTreePort.held (x : PerTreePort) : UInt16 × UInt32 × UInt32 :=
  (x.portId, x.InternalPortPathCost, x.AdminInternalPortPathCost)

/-- What is configured is the same in both states. -/
structure Held (b b' : Bridge) : Prop where
  conf : b'.conf = b.conf
  port : ∀ p, (b'.port p).held = (b.port p).held
  tree : ∀ t, (b'.tree t).held = (b.tree t).held
  ptp : ∀ p t, (b'.ptp p t).held = (b.ptp p t).held

/-- The BPDUs sent on a port. -/
def Output.isTx (p : PortRef) : Output → Bool
  | .txBpdu p' _ => p' == p
  | _ => false

def Bridge.sent (b : Bridge) (p : PortRef) : Nat := b.out.countP (Output.isTx p)

def Output.isBpdu : Output → Bool
  | .txBpdu _ _ => true
  | _ => false

/-- What was sent, on all ports. -/
def Bridge.bpdus (b : Bridge) : List Output := b.out.filter Output.isBpdu

/-- Besides, nothing is sent. -/
structure Silent (b b' : Bridge) : Prop extends Held b b' where
  txCount : ∀ p, (b'.port p).txCount = (b.port p).txCount
  bpdus : b'.bpdus = b.bpdus

@[simp] theorem Held.refl (b : Bridge) : Held b b :=
  ⟨rfl, fun _ => rfl, fun _ => rfl, fun _ _ => rfl⟩

theorem Held.trans (h : Held b b') (h' : Held b' b'') : Held b b'' :=
  ⟨h'.conf.trans h.conf, fun p => (h'.port p).trans (h.port p),
    fun t => (h'.tree t).trans (h.tree t), fun p t => (h'.ptp p t).trans (h.ptp p t)⟩

@[simp] theorem Silent.refl (b : Bridge) : Silent b b := ⟨.refl b, fun _ => rfl, rfl⟩

theorem Silent.trans (h : Silent b b') (h' : Silent b' b'') : Silent b b'' :=
  ⟨h.toHeld.trans h'.toHeld, fun p => (h'.txCount p).trans (h.txCount p),
    h'.bpdus.trans h.bpdus⟩

theorem Silent.symm (h : Silent b b') : Silent b' b :=
  ⟨⟨h.conf.symm, fun p => (h.port p).symm, fun t => (h.tree t).symm, fun p t => (h.ptp p t).symm⟩,
    fun p => (h.txCount p).symm, h.bpdus.symm⟩

theorem sent_eq (b : Bridge) (p : PortRef) : b.sent p = b.bpdus.countP (Output.isTx p) := by
  rw [Bridge.sent, Bridge.bpdus, List.countP_filter]
  congr 1
  funext o
  cases o <;> simp [Output.isTx, Output.isBpdu]

theorem Silent.sent (h : Silent b b') (p : PortRef) : b'.sent p = b.sent p := by
  rw [sent_eq, sent_eq, h.bpdus]

/-! ## What is touched of the entries -/

/-- Of the entries only the fields that `e` forgets are touched, and the step is silent. -/
structure Touches (e : PerTreePort → PerTreePort) (b b' : Bridge) : Prop extends Silent b b' where
  same : ∀ p t, e (b'.ptp p t) = e (b.ptp p t)

section Touches

variable {e : PerTreePort → PerTreePort} {p : PortRef} {t : Mstid}

@[simp] theorem Touches.refl (e : PerTreePort → PerTreePort) (b : Bridge) : Touches e b b :=
  ⟨.refl b, fun _ _ => rfl⟩

theorem Touches.trans (h : Touches e b b') (h' : Touches e b' b'') : Touches e b b'' :=
  ⟨h.toSilent.trans h'.toSilent, fun p t => (h'.same p t).trans (h.same p t)⟩

theorem Touches.symm (h : Touches e b b') : Touches e b' b :=
  ⟨h.toSilent.symm, fun p t => (h.same p t).symm⟩

/-- A step that touches no more may be left out. -/
theorem Touches.iff_of (h : Touches e b' b'') : Touches e b b'' ↔ Touches e b b' :=
  ⟨fun hb => hb.trans h.symm, fun hb => hb.trans h⟩

/-- **What does not depend on the forgotten fields is the same.** -/
theorem Touches.view {α : Type} (h : Touches e b b') (v : PerTreePort → α)
    (hv : ∀ x, v (e x) = v x) (p : PortRef) (t : Mstid) : v (b'.ptp p t) = v (b.ptp p t) := by
  rw [← hv, h.same p t, hv]

/-- What touches less touches no more. -/
theorem Touches.weaken {e' : PerTreePort → PerTreePort} (h : Touches e b b')
    (he : ∀ x, e' (e x) = e' x) : Touches e' b b' :=
  ⟨h.toSilent, h.view e' he⟩

theorem touches_setPort {f : Port → Port} (hf : ∀ x, (f x).held = x.held)
    (hc : ∀ x, (f x).txCount = x.txCount) : Touches e b (b'.setPort p f) ↔ Touches e b b' := by
  refine Touches.iff_of ⟨⟨⟨rfl, fun p' => ?_, fun _ => rfl, fun _ _ => rfl⟩, fun p' => ?_,
    rfl⟩, fun _ _ => rfl⟩
  · rw [setPort_port]
    split
    · rw [hf]
    · rfl
  · rw [setPort_port]
    split
    · rw [hc]
    · rfl

theorem touches_setTree {f : Tree → Tree} (hf : ∀ x, (f x).held = x.held) :
    Touches e b (b'.setTree t f) ↔ Touches e b b' := by
  refine Touches.iff_of ⟨⟨⟨rfl, fun _ => rfl, fun t' => ?_, fun _ _ => rfl⟩, fun _ => rfl, rfl⟩,
    fun _ _ => rfl⟩
  rw [setTree_tree]
  split
  · rw [hf]
  · rfl

theorem touches_setPtps {sel : PortRef → Mstid → Bool} {f : PerTreePort → PerTreePort}
    (hf : ∀ x, e (f x) = e x) (hh : ∀ x, (f x).held = x.held) :
    Touches e b (b'.setPtps sel f) ↔ Touches e b b' := by
  refine Touches.iff_of ⟨⟨⟨rfl, fun _ => rfl, fun _ => rfl, fun p' t' => ?_⟩, fun _ => rfl, rfl⟩,
    fun p' t' => ?_⟩
  · rw [setPtps_ptp]
    split
    · rw [hh]
    · rfl
  · rw [setPtps_ptp]
    split
    · rw [hf]
    · rfl

theorem touches_setPtp {f : PerTreePort → PerTreePort} (hf : ∀ x, e (f x) = e x)
    (hh : ∀ x, (f x).held = x.held) : Touches e b (b'.setPtp p t f) ↔ Touches e b b' :=
  touches_setPtps hf hh

theorem touches_setPtpsOfTree {f : PerTreePort → PerTreePort} (hf : ∀ x, e (f x) = e x)
    (hh : ∀ x, (f x).held = x.held) : Touches e b (b'.setPtpsOfTree t f) ↔ Touches e b b' :=
  touches_setPtps hf hh

theorem touches_setPtpsOfPort {f : PerTreePort → PerTreePort} (hf : ∀ x, e (f x) = e x)
    (hh : ∀ x, (f x).held = x.held) : Touches e b (b'.setPtpsOfPort p f) ↔ Touches e b b' :=
  touches_setPtps hf hh

theorem touches_setMstisOfPort {f : PerTreePort → PerTreePort} (hf : ∀ x, e (f x) = e x)
    (hh : ∀ x, (f x).held = x.held) : Touches e b (b'.setMstisOfPort p f) ↔ Touches e b b' :=
  touches_setPtps hf hh

/-- What is done to the outside besides sending. -/
theorem emit_bpdus (b : Bridge) {o : Output} (ho : o.isBpdu = false) :
    (b.emit o).bpdus = b.bpdus := by
  rw [Bridge.bpdus, emit_out, List.filter_append, List.filter_singleton, ho]
  exact List.append_nil _

theorem touches_emit {o : Output} (ho : o.isBpdu = false) :
    Touches e b (b'.emit o) ↔ Touches e b b' :=
  Touches.iff_of ⟨⟨⟨rfl, fun _ => rfl, fun _ => rfl, fun _ _ => rfl⟩, fun _ => rfl,
    emit_bpdus b' ho⟩, fun _ _ => rfl⟩

end Touches

/-! ## What the groups of machines assign to -/

/-- An entry without the message it has been told of. -/
@[reducible] def PerTreePort.exceptMsg (x : PerTreePort) : PerTreePort :=
  { x with rcvdMsg := false, rcvdMstiConfig := none }

/-- An entry without what is recorded of a message. -/
@[reducible] def PerTreePort.exceptRecord (x : PerTreePort) : PerTreePort :=
  { x with
    proposing := false, proposed := false, agreed := false, rcvdInfoWhile := 0, rcvdTc := false
    disputed := false, mastered := false, portPriority := .zero, portTimes := .zero
    msgPriority := .zero, msgTimes := .zero }

/-- An entry without the fields of the port information. -/
@[reducible] def PerTreePort.exceptInfo (x : PerTreePort) : PerTreePort :=
  { x with
    PISM_state := .DISABLED, rcvdMsg := false, proposing := false, proposed := false
    agree := false, agreed := false, rcvdInfoWhile := 0, infoIs := .ioDisabled
    reselect := false, selected := false, synced := false, portPriority := .zero
    portTimes := .zero, updtInfo := false, rcvdTc := false, disputed := false, mastered := false
    msgPriority := .zero, msgTimes := .zero, rcvdInfo := .OtherInfo, rcvdMstiConfig := none
    start_time := 0 }

/-- An entry without the fields of the role selection. -/
@[reducible] def PerTreePort.exceptRoles (x : PerTreePort) : PerTreePort :=
  { x with
    selectedRole := .Disabled, updtInfo := false, reselect := false, selected := false
    designatedPriority := .zero, designatedTimes := .zero, agree := false, agreed := false
    synced := false, sync := false }

/-- An entry without the fields of the role transitions. -/
@[reducible] def PerTreePort.exceptTrans (x : PerTreePort) : PerTreePort :=
  { x with
    PRTSM_state := .INIT_PORT, role := .Disabled, learn := false, forward := false
    synced := false, sync := false, reRoot := false, rrWhile := 0, fdWhile := 0, rbWhile := 0
    proposed := false, proposing := false, agree := false, agreed := false, disputed := false }

/-- An entry without what one port asks all the others of the tree for. -/
@[reducible] def PerTreePort.exceptSync (x : PerTreePort) : PerTreePort :=
  { x with sync := false, reRoot := false }

/-- An entry without the fields of the state transitions. -/
@[reducible] def PerTreePort.exceptState (x : PerTreePort) : PerTreePort :=
  { x with
    PSTSM_state := .DISCARDING, learning := false, forwarding := false, state := .DISABLED }

/-- An entry without the fields of the topology changes. -/
@[reducible] def PerTreePort.exceptTc (x : PerTreePort) : PerTreePort :=
  { x with
    TCSM_state := .INACTIVE, tcWhile := 0, fdbFlush := false, rcvdTc := false, tcProp := false }

/-! ## The machines of a port -/

section Ports

variable {e : PerTreePort → PerTreePort} {p : PortRef}

theorem touches_setRcvdMsgs :
    Touches PerTreePort.exceptMsg b (setRcvdMsgs b' p) ↔ Touches PerTreePort.exceptMsg b b' := by
  refine Touches.iff_of ?_
  dsimp only [setRcvdMsgs]
  split
  · refine ⟨⟨⟨rfl, fun _ => rfl, fun _ => rfl, fun p' t' => ?_⟩, fun _ => rfl, rfl⟩,
      fun p' t' => ?_⟩
    all_goals
      dsimp only
      rw [setPtp_ptp]
      split_ifs <;> first | rfl | split <;> rfl
  · simp (disch := exact fun _ => rfl) only [↓touches_setPtp, ↓Touches.refl]

theorem prsmToDiscard_touches (b : Bridge) (p : PortRef) :
    Touches PerTreePort.exceptMsg b (prsmToDiscard b p) := by
  simp (disch := exact fun _ => rfl) only [prsmToDiscard, clearAllRcvdMsgs, ↓touches_setPort,
    ↓touches_setPtpsOfPort, ↓Touches.refl]

theorem touches_updtBPDUVersion :
    Touches e b (updtBPDUVersion b' p) ↔ Touches e b b' := by
  refine touches_setPort (fun x => ?_) (fun x => ?_)
  all_goals split <;> rfl

theorem prsmToReceive_touches (b : Bridge) (p : PortRef) :
    Touches PerTreePort.exceptMsg b (prsmToReceive b p) := by
  simp (disch := exact fun _ => rfl) only [prsmToReceive, ↓touches_setPort,
    ↓touches_setRcvdMsgs, ↓touches_updtBPDUVersion, ↓Touches.refl]

theorem ppmsmTo_touches (x : PpmsmState) (b : Bridge) (p : PortRef) :
    Touches e b (ppmsmTo x b p) := by
  cases x <;>
    simp (disch := exact fun _ => rfl) only [ppmsmTo, ↓touches_setPort, ↓Touches.refl]

theorem assurance_touches (b : Bridge) (p : PortRef) :
    Touches e b (b.setPort p (fun prt => { prt with BaInconsistent := true })) := by
  simp (disch := exact fun _ => rfl) only [↓touches_setPort, ↓Touches.refl]

theorem bdsmTo_touches (x : BdsmState) (b : Bridge) (p : PortRef) :
    Touches e b (bdsmTo x b p) := by
  simp (disch := exact fun _ => rfl) only [bdsmTo, ↓touches_setPort, ↓Touches.refl]

/-- Only the port is touched, and nothing of its configuration. -/
structure Sends (p : PortRef) (b b' : Bridge) : Prop where
  conf : b'.conf = b.conf
  tree : b'.tree = b.tree
  ptp : b'.ptp = b.ptp
  held : (b'.port p).held = (b.port p).held
  port : ∀ p', p' ≠ p → b'.port p' = b.port p'

@[simp] theorem Sends.refl (p : PortRef) (b : Bridge) : Sends p b b :=
  ⟨rfl, rfl, rfl, rfl, fun _ _ => rfl⟩

/-- A step that sends on the same port may be left out. -/
theorem Sends.iff_of (h : Sends p b' b'') : Sends p b b'' ↔ Sends p b b' :=
  ⟨fun hb => ⟨h.conf ▸ hb.conf, h.tree ▸ hb.tree, h.ptp ▸ hb.ptp, h.held ▸ hb.held,
      fun p' hp => (h.port p' hp).symm.trans (hb.port p' hp)⟩,
    fun hb => ⟨h.conf.trans hb.conf, h.tree.trans hb.tree, h.ptp.trans hb.ptp,
      h.held.trans hb.held, fun p' hp => (h.port p' hp).trans (hb.port p' hp)⟩⟩

theorem sends_setPort {f : Port → Port} (hf : ∀ x, (f x).held = x.held) :
    Sends p b (b'.setPort p f) ↔ Sends p b b' := by
  refine Sends.iff_of ⟨rfl, rfl, rfl, ?_, fun p' hp => ?_⟩
  · rw [setPort_port_self, hf]
  · rw [setPort_port, if_neg hp]

theorem sends_mstpOutTxBpdu {bpdu : Bpdu} {size : Nat} :
    Sends p b (mstpOutTxBpdu b' p bpdu size) ↔ Sends p b b' := by
  refine Sends.iff_of ⟨rfl, rfl, rfl, ?_, fun p' hp => ?_⟩
  all_goals simp only [mstpOutTxBpdu, emit_port]
  · rw [setPort_port_self]
  · rw [setPort_port, if_neg hp]

theorem sends_txConfig : Sends p b (txConfig b' p) ↔ Sends p b b' := by
  rw [txConfig]
  split
  · rfl
  · exact sends_mstpOutTxBpdu

theorem sends_txTcn : Sends p b (txTcn b' p) ↔ Sends p b b' := by
  rw [txTcn]
  split
  · rfl
  · exact sends_mstpOutTxBpdu

theorem sends_txMstp : Sends p b (txMstp b' p) ↔ Sends p b b' := by
  rw [txMstp]
  split_ifs
  · rfl
  · exact sends_mstpOutTxBpdu
  · exact sends_mstpOutTxBpdu

theorem ptsmTo_sends (x : PtsmState) (b : Bridge) (p : PortRef) : Sends p b (ptsmTo x b p) := by
  cases x <;>
    simp (disch := exact fun _ => rfl) only [ptsmTo, ↓sends_setPort, ↓sends_txConfig,
      ↓sends_txTcn, ↓sends_txMstp, ↓Sends.refl]

theorem Sends.toHeld (h : Sends p b b') : Held b b' := by
  refine ⟨h.conf, fun p' => ?_, fun t => by rw [h.tree], fun p' t => by rw [h.ptp]⟩
  by_cases hp : p' = p
  · rw [hp, h.held]
  · rw [h.port p' hp]

end Ports

/-! ## The machines of an entry -/

section Entries

variable {e : PerTreePort → PerTreePort} {p : PortRef} {t : Mstid}

theorem touches_setNewInfo : Touches e b (setNewInfo b' p t) ↔ Touches e b b' := by
  refine touches_setPort (fun x => ?_) (fun x => ?_)
  all_goals split <;> rfl

/-- What touches less may be left out. -/
theorem Touches.iff_weaken {e' : PerTreePort → PerTreePort} (h : Touches e' b' b'')
    (he : ∀ x, e (e' x) = e x) : Touches e b b'' ↔ Touches e b b' :=
  Touches.iff_of (h.weaken he)

section Record

variable (he : ∀ x, e (PerTreePort.exceptRecord x) = e x)
include he

theorem touches_recordProposal : Touches e b (recordProposal b' p t) ↔ Touches e b b' := by
  refine Touches.iff_weaken ?_ he
  dsimp only [recordProposal]
  split_ifs <;>
    simp (disch := exact fun _ => rfl) only [↓touches_setMstisOfPort, ↓touches_setPtp,
      ↓Touches.refl]

theorem touches_setTcFlags : Touches e b (setTcFlags b' p t) ↔ Touches e b b' := by
  refine Touches.iff_weaken ?_ he
  dsimp only [setTcFlags]
  split_ifs <;>
    simp (disch := exact fun _ => rfl) only [↓touches_setMstisOfPort, ↓touches_setPtp,
      ↓touches_setPort, ↓Touches.refl]

theorem touches_recordAgreement : Touches e b (recordAgreement b' p t) ↔ Touches e b b' := by
  refine Touches.iff_weaken ?_ he
  dsimp only [recordAgreement]
  split_ifs <;>
    simp (disch := exact fun _ => rfl) only [↓touches_setMstisOfPort, ↓touches_setPtp,
      ↓Touches.refl]

theorem touches_recordDispute : Touches e b (recordDispute b' p t) ↔ Touches e b b' := by
  refine Touches.iff_weaken ?_ he
  dsimp only [recordDispute]
  split_ifs <;>
    simp (disch := exact fun _ => rfl) only [↓touches_setMstisOfPort, ↓touches_setPtp,
      ↓Touches.refl]

theorem touches_recordMastered : Touches e b (recordMastered b' p t) ↔ Touches e b b' := by
  refine Touches.iff_weaken ?_ he
  dsimp only [recordMastered]
  split_ifs <;>
    simp (disch := exact fun _ => rfl) only [↓touches_setMstisOfPort, ↓touches_setPtp,
      ↓Touches.refl]

theorem touches_recordPriority : Touches e b (recordPriority b' p t) ↔ Touches e b b' := by
  refine Touches.iff_weaken ?_ he
  simp (disch := exact fun _ => rfl) only [recordPriority, ↓touches_setPtp, ↓Touches.refl]

theorem touches_recordTimes : Touches e b (recordTimes b' p t) ↔ Touches e b b' := by
  refine Touches.iff_weaken ?_ he
  simp (disch := exact fun _ => rfl) only [recordTimes, ↓touches_setPtp, ↓Touches.refl]

theorem touches_updtRcvdInfoWhile :
    Touches e b (updtRcvdInfoWhile b' p t) ↔ Touches e b b' := by
  refine Touches.iff_weaken ?_ he
  simp (disch := exact fun _ => rfl) only [updtRcvdInfoWhile, ↓touches_setPtp, ↓Touches.refl]

theorem touches_rcvInfo : Touches e b (rcvInfo b' p t).1 ↔ Touches e b b' := by
  refine Touches.iff_weaken ?_ he
  dsimp only [rcvInfo]
  split_ifs
  · simp (disch := exact fun _ => rfl) only [↓touches_setPtpsOfPort, ↓touches_setPort,
      ↓Touches.refl]
  · split
    · exact .refl _ _
    · simp (disch := exact fun _ => rfl) only [↓touches_setPtp, ↓Touches.refl]
  · exact .refl _ _
  · split
    · exact .refl _ _
    · simp (disch := exact fun _ => rfl) only [↓touches_setPtp, ↓Touches.refl]

end Record

/-- An entry without the fields of the port information, the selection of its role apart. -/
@[reducible] def PerTreePort.exceptInfoKept (x : PerTreePort) : PerTreePort :=
  { x.exceptInfo with selected := x.selected, reselect := x.reselect }

theorem pismTo_touches (x : PismState) (b : Bridge) (p : PortRef) (t : Mstid) :
    Touches PerTreePort.exceptInfo b (pismTo x b p t) := by
  cases x <;>
    simp (disch := exact fun _ => rfl) only [pismTo, ↓touches_setPtp, ↓touches_setPort,
      ↓touches_setNewInfo, ↓touches_recordProposal, ↓touches_setTcFlags,
      ↓touches_recordAgreement, ↓touches_recordPriority, ↓touches_recordTimes,
      ↓touches_updtRcvdInfoWhile, ↓touches_recordDispute, ↓touches_recordMastered,
      ↓touches_rcvInfo, ↓Touches.refl]

/-- The states that ask for a new role. -/
def PismState.asks : PismState → Bool
  | .DISABLED => true
  | .AGED => true
  | .SUPERIOR_DESIGNATED => true
  | _ => false

/-- Only the states that ask for a new role touch the selection. -/
theorem pismTo_touches_kept {x : PismState} (hx : x.asks = false) (b : Bridge) (p : PortRef)
    (t : Mstid) : Touches PerTreePort.exceptInfoKept b (pismTo x b p t) := by
  cases x
  case DISABLED | AGED | SUPERIOR_DESIGNATED => cases hx
  all_goals
    simp (disch := exact fun _ => rfl) only [pismTo, ↓touches_setPtp, ↓touches_setPort,
      ↓touches_setNewInfo, ↓touches_recordProposal, ↓touches_setTcFlags,
      ↓touches_recordAgreement, ↓touches_updtRcvdInfoWhile, ↓touches_recordDispute,
      ↓touches_recordMastered, ↓touches_rcvInfo, ↓Touches.refl]

/-- They ask for the entry itself, and leave the others. -/
theorem pismTo_asks {x : PismState} (hx : x.asks = true) (b : Bridge) (p : PortRef) (t : Mstid) :
    ((pismTo x b p t).ptp p t).selected = false ∧ ((pismTo x b p t).ptp p t).reselect = true ∧
      ∀ p' t', ¬(p' = p ∧ t' = t) →
        ((pismTo x b p t).ptp p' t').selected = (b.ptp p' t').selected ∧
        ((pismTo x b p t).ptp p' t').reselect = (b.ptp p' t').reselect := by
  have hlast : ∀ (u : Bridge) (f : PerTreePort → PerTreePort),
      Touches PerTreePort.exceptInfoKept b u →
      (∀ y, (f y).selected = false ∧ (f y).reselect = true) →
      ((u.setPtp p t f).ptp p t).selected = false ∧ ((u.setPtp p t f).ptp p t).reselect = true ∧
        ∀ p' t', ¬(p' = p ∧ t' = t) →
          ((u.setPtp p t f).ptp p' t').selected = (b.ptp p' t').selected ∧
          ((u.setPtp p t f).ptp p' t').reselect = (b.ptp p' t').reselect := by
    intro u f hu hf
    refine ⟨by rw [setPtp_ptp_self]; exact (hf _).1, by rw [setPtp_ptp_self]; exact (hf _).2,
      fun p' t' hne => ?_⟩
    rw [setPtp_ptp, if_neg hne]
    exact ⟨hu.view PerTreePort.selected (fun _ => rfl) p' t',
      hu.view PerTreePort.reselect (fun _ => rfl) p' t'⟩
  cases x
  case DISABLED | AGED | SUPERIOR_DESIGNATED =>
    refine hlast _ _ ?_ (fun _ => ⟨rfl, rfl⟩)
    simp (disch := exact fun _ => rfl) only [↓touches_setPtp, ↓touches_setPort,
      ↓touches_recordProposal, ↓touches_setTcFlags, ↓touches_recordAgreement,
      ↓touches_recordPriority, ↓touches_recordTimes, ↓touches_updtRcvdInfoWhile, ↓Touches.refl]
  all_goals cases hx

theorem pismBegin_touches (b : Bridge) (p : PortRef) (t : Mstid) :
    Touches PerTreePort.exceptInfo b (pismBegin b p t) := by
  refine Touches.trans ?_ (pismTo_touches _ _ p t)
  simp (disch := exact fun _ => rfl) only [↓touches_setPtp, ↓Touches.refl]

theorem touches_assignRoles {root_ptp : Option PortRef} :
    Touches PerTreePort.exceptRoles b (assignRoles b' t root_ptp) ↔
      Touches PerTreePort.exceptRoles b b' := by
  refine Touches.iff_of ⟨⟨⟨rfl, fun _ => rfl, fun _ => rfl, fun p' t' => ?_⟩, fun _ => rfl, rfl⟩,
    fun p' t' => ?_⟩
  all_goals
    dsimp only [assignRoles]
    split_ifs <;> rfl

theorem touches_designate :
    Touches PerTreePort.exceptRoles b
        { b' with
          ptp := fun p t' => if t' = t then designate b' t p (b'.ptp p t') else b'.ptp p t' } ↔
      Touches PerTreePort.exceptRoles b b' := by
  refine Touches.iff_of ⟨⟨⟨rfl, fun _ => rfl, fun _ => rfl, fun p' t' => ?_⟩, fun _ => rfl, rfl⟩,
    fun p' t' => ?_⟩
  all_goals
    dsimp only [designate]
    split_ifs <;> rfl

theorem touches_syncMaster :
    Touches PerTreePort.exceptRoles b (syncMaster b') ↔ Touches PerTreePort.exceptRoles b b' :=
  touches_setPtps (fun _ => rfl) (fun _ => rfl)

theorem touches_updtRolesTree :
    Touches PerTreePort.exceptRoles b (updtRolesTree b' t) ↔
      Touches PerTreePort.exceptRoles b b' := by
  dsimp only [updtRolesTree]
  rw [touches_assignRoles]
  split_ifs <;>
    simp (disch := exact fun _ => rfl) only [↓touches_syncMaster, ↓touches_designate,
      ↓touches_setTree]

theorem prssmToRoleSelection_touches (b : Bridge) (t : Mstid) :
    Touches PerTreePort.exceptRoles b (prssmToRoleSelection b t) := by
  simp (disch := exact fun _ => rfl) only [prssmToRoleSelection, setSelectedTree,
    clearReselectTree, ↓touches_setPtpsOfTree, ↓touches_updtRolesTree, ↓touches_setTree,
    ↓Touches.refl]

theorem prssmBegin_touches (b : Bridge) (t : Mstid) :
    Touches PerTreePort.exceptRoles b (prssmBegin b t) := by
  simp (disch := exact fun _ => rfl) only [prssmBegin, updtRolesDisabledTree,
    ↓touches_setPtpsOfTree, ↓touches_setTree, ↓Touches.refl]

theorem prtsmAround_touches (x : PrtsmState) (b : Bridge) (p : PortRef) (t : Mstid) :
    Touches PerTreePort.exceptSync b (prtsmAround x b p t) := by
  cases x <;>
    simp (disch := exact fun _ => rfl) only [prtsmAround, setSyncTree, setReRootTree,
      ↓touches_setPtpsOfTree, ↓touches_setNewInfo, ↓Touches.refl]
  split_ifs <;>
    simp (disch := exact fun _ => rfl) only [↓touches_setPort, ↓touches_setNewInfo,
      ↓Touches.refl]

theorem prtsmTo_touches (x : PrtsmState) (c : PrtsmTimes) (b : Bridge) (p : PortRef) (t : Mstid) :
    Touches PerTreePort.exceptTrans b (prtsmTo x c b p t) := by
  have hentry : ∀ sendRSTP y, (prtsmEntry x c sendRSTP y).exceptTrans = y.exceptTrans := by
    intro _ _
    cases x <;> rfl
  have hheld : ∀ sendRSTP y, (prtsmEntry x c sendRSTP y).held = y.held := by
    intro _ _
    cases x <;> rfl
  rw [prtsmTo, touches_setPtp (hentry _) (hheld _)]
  exact (prtsmAround_touches x b p t).weaken (fun _ => rfl)

theorem touches_mstpOutSetState {new_state : BrState} :
    Touches PerTreePort.exceptState b (mstpOutSetState b' p t new_state) ↔
      Touches PerTreePort.exceptState b b' := by
  dsimp only [mstpOutSetState]
  split
  · rfl
  · rw [touches_emit rfl]
    cases new_state <;>
      simp (disch := exact fun _ => rfl) only [↓touches_setPort, ↓touches_setPtp]

theorem pstsmTo_touches (x : PstsmState) (b : Bridge) (p : PortRef) (t : Mstid) :
    Touches PerTreePort.exceptState b (pstsmTo x b p t) := by
  cases x
  all_goals
    dsimp only [pstsmTo]
    split_ifs <;>
      simp (disch := exact fun _ => rfl) only [↓touches_setPtp, ↓touches_mstpOutSetState,
        ↓Touches.refl]

theorem touches_setTopologyChange :
    Touches e b (setTopologyChange b' t p) ↔ Touches e b b' := by
  simp (disch := exact fun _ => rfl) only [setTopologyChange, ↓touches_setTree]

theorem touches_checkTopologyChange :
    Touches e b (checkTopologyChange b' t) ↔ Touches e b b' := by
  unfold checkTopologyChange
  refine touches_setTree (fun x => ?_)
  split_ifs <;> rfl

theorem touches_newTcWhile :
    Touches PerTreePort.exceptTc b (newTcWhile b' p t) ↔ Touches PerTreePort.exceptTc b b' := by
  dsimp only [newTcWhile]
  split_ifs <;>
    simp (disch := exact fun _ => rfl) only [↓touches_setNewInfo, ↓touches_setTopologyChange,
      ↓touches_setPtp]

theorem touches_mstpOutFlushAllFids :
    Touches PerTreePort.exceptTc b (mstpOutFlushAllFids b' p t) ↔
      Touches PerTreePort.exceptTc b b' := by
  unfold mstpOutFlushAllFids
  rw [touches_setPtp, touches_emit rfl]
  all_goals exact fun _ => rfl

theorem touches_mstpOutSetAgeingTime {ageingTime : Nat} :
    Touches e b (mstpOutSetAgeingTime b' p ageingTime) ↔ Touches e b b' :=
  touches_emit rfl

theorem touches_setFdbFlush :
    Touches PerTreePort.exceptTc b (setFdbFlush b' p t) ↔ Touches PerTreePort.exceptTc b b' := by
  dsimp only [setFdbFlush]
  split_ifs <;>
    simp (disch := exact fun _ => rfl) only [↓touches_setPtp, ↓touches_setPort,
      ↓touches_mstpOutFlushAllFids, ↓touches_mstpOutSetAgeingTime]

theorem touches_setTcPropTree :
    Touches PerTreePort.exceptTc b (setTcPropTree b' p t) ↔ Touches PerTreePort.exceptTc b b' := by
  dsimp only [setTcPropTree]
  split_ifs
  · rfl
  · exact touches_setPtps (fun _ => rfl) (fun _ => rfl)

theorem tcsmTo_touches (x : TcsmState) (b : Bridge) (p : PortRef) (t : Mstid) :
    Touches PerTreePort.exceptTc b (tcsmTo x b p t) := by
  cases x
  all_goals
    dsimp only [tcsmTo]
    try split_ifs
    all_goals
      simp (disch := exact fun _ => rfl) only [↓touches_setPtp, ↓touches_setPort,
        ↓touches_setNewInfo, ↓touches_checkTopologyChange, ↓touches_newTcWhile,
        ↓touches_setFdbFlush, ↓touches_setTcPropTree, ↓Touches.refl]

end Entries

end Mstpd
