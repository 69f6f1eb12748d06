import Mathlib.Data.List.Nodup
import TfPack.Mstpd.Forwarding

set_option autoImplicit false

/-! # The spanning tree daemon: how much a port transmits

The Port Transmit machine counts the BPDUs it sends in `txCount`, and a second takes one off. So as
long as a port is not begun anew, it sends no more than the Transmit Hold Count and one BPDU for
each second, whatever arrives and whatever the other machines ask for (`transmit_rate`).
-/

namespace Mstpd

open StepMachine Settling

variable {b b' b'' : Bridge} {c : Budget} {p q : PortRef}

/-! ## The account of a port -/

/-- From `b` to `b'` the port has sent no more than its count has grown, but for `n` that were taken
off, and its count has not grown beyond the Transmit Hold Count. -/
structure Paced (p : PortRef) (n : Nat) (b b' : Bridge) : Prop where
  hold : b'.conf.Transmit_Hold_Count = b.conf.Transmit_Hold_Count
  enabled : (b'.port p).portEnabled = (b.port p).portEnabled
  sent : b'.sent p + (b.port p).txCount ≤ b.sent p + (b'.port p).txCount + n
  bound : (b'.port p).txCount ≤ max (b.port p).txCount b.conf.Transmit_Hold_Count

theorem Paced.refl (p : PortRef) (b : Bridge) : Paced p 0 b b :=
  ⟨rfl, rfl, Nat.le_refl _, Nat.le_max_left ..⟩

theorem Paced.trans {n m : Nat} (h : Paced p n b b') (h' : Paced p m b' b'') :
    Paced p (n + m) b b'' := by
  have hs := h.sent
  have hs' := h'.sent
  have hb := h.bound
  have hb' := h'.bound
  rw [h.hold] at hb'
  exact ⟨h'.hold.trans h.hold, h'.enabled.trans h.enabled, by omega, by omega⟩

theorem Silent.paced (h : Silent b b') (p : PortRef) : Paced p 0 b b' := by
  have hport := h.port p
  simp only [Prod.mk.injEq] at hport
  refine ⟨by rw [h.conf], hport.2.1, ?_, ?_⟩
  · rw [h.sent, h.txCount]
    exact Nat.le_refl _
  · rw [h.txCount]
    exact Nat.le_max_left ..

theorem sent_setPort (b : Bridge) (f : Port → Port) : (b.setPort q f).sent p = b.sent p := rfl

/-! ## The machine of transmission -/

/-- One BPDU at most is sent, on the port `q`, and no count is touched. -/
structure SendsOne (q : PortRef) (b b' : Bridge) : Prop where
  sent : ∀ p, b'.sent p ≤ b.sent p + if q = p then 1 else 0
  txCount : ∀ p, (b'.port p).txCount = (b.port p).txCount

theorem SendsOne.refl (q : PortRef) (b : Bridge) : SendsOne q b b :=
  ⟨fun _ => Nat.le_add_right .., fun _ => rfl⟩

theorem mstpOutTxBpdu_one (b : Bridge) (q : PortRef) (bpdu : Bpdu) (size : Nat) :
    SendsOne q b (mstpOutTxBpdu b q bpdu size) := by
  refine ⟨fun p => ?_, fun p => ?_⟩
  · rw [mstpOutTxBpdu, Bridge.sent, emit_out, List.countP_append, List.countP_singleton]
    simp only [Output.isTx, beq_iff_eq]
    exact Nat.le_refl _
  · rw [mstpOutTxBpdu, emit_port, setPort_port]
    split <;> rfl

theorem txConfig_one (b : Bridge) (q : PortRef) : SendsOne q b (txConfig b q) := by
  rw [txConfig]
  split
  · exact .refl q b
  · exact mstpOutTxBpdu_one ..

theorem txTcn_one (b : Bridge) (q : PortRef) : SendsOne q b (txTcn b q) := by
  rw [txTcn]
  split
  · exact .refl q b
  · exact mstpOutTxBpdu_one ..

theorem txMstp_one (b : Bridge) (q : PortRef) : SendsOne q b (txMstp b q) := by
  rw [txMstp]
  split_ifs
  · exact .refl q b
  · exact mstpOutTxBpdu_one ..
  · exact mstpOutTxBpdu_one ..

/-- The states in which a BPDU is sent. -/
def PtsmState.transmits : PtsmState → Bool
  | .TRANSMIT_CONFIG | .TRANSMIT_TCN | .TRANSMIT_RSTP => true
  | _ => false

/-- A BPDU that is sent is counted. -/
theorem ptsmTo_sent (x : PtsmState) (b : Bridge) (q p : PortRef) :
    (ptsmTo x b q).sent p ≤ b.sent p + if q = p ∧ x.transmits = true then 1 else 0 := by
  cases x <;> simp only [ptsmTo, PtsmState.transmits, and_true, Bool.false_eq_true, and_false,
    if_false, Nat.add_zero]
  case TRANSMIT_CONFIG => exact (txConfig_one _ q).sent p
  case TRANSMIT_TCN => exact (txTcn_one _ q).sent p
  case TRANSMIT_RSTP => exact (txMstp_one _ q).sent p
  all_goals exact Nat.le_refl _

theorem ptsmTo_txCount {x : PtsmState} (hx : x ≠ .TRANSMIT_INIT) (b : Bridge) (q : PortRef) :
    ((ptsmTo x b q).port q).txCount = (b.port q).txCount + x.transmits.toNat := by
  cases x <;> simp only [ptsmTo, PtsmState.transmits, setPort_port_self]
  case TRANSMIT_INIT => exact absurd rfl hx
  case TRANSMIT_CONFIG => rw [(txConfig_one _ q).txCount, setPort_port_self]; rfl
  case TRANSMIT_TCN => rw [(txTcn_one _ q).txCount, setPort_port_self]; rfl
  case TRANSMIT_RSTP => rw [(txMstp_one _ q).txCount, setPort_port_self]; rfl
  all_goals rfl

/-- A BPDU is sent only while the count is below the Transmit Hold Count. -/
theorem ptsmNext_transmits {x : PtsmState} (h : ptsmNext b q = some x) :
    x ≠ .TRANSMIT_INIT ∧
      (x.transmits = true → (b.port q).txCount < b.conf.Transmit_Hold_Count) := by
  simp only [ptsmNext] at h
  split_ifs at h
  all_goals
    cases h
    simp_all [PtsmState.transmits]

/-- What one port sends is not on the account of another. -/
theorem ptsmTo_paced_ne {x : PtsmState} (hqp : q ≠ p) (b : Bridge) :
    Paced p 0 b (ptsmTo x b q) := by
  have hsends := ptsmTo_sends x b q
  have hsent := ptsmTo_sent x b q p
  rw [if_neg (fun h => hqp h.1)] at hsent
  have hport := hsends.port p (Ne.symm hqp)
  refine ⟨by rw [hsends.conf], by rw [hport], by rw [hport]; omega, ?_⟩
  rw [hport]
  exact Nat.le_max_left ..

/-- **A step of the machine of an enabled port pays for what it sends.** -/
theorem ptsmTo_paced {x : PtsmState} (h : ptsmNext b q = some x) (p : PortRef) :
    Paced p 0 b (ptsmTo x b q) := by
  by_cases hqp : q = p
  · subst hqp
    obtain ⟨hinit, hbelow⟩ := ptsmNext_transmits h
    have hsends := ptsmTo_sends x b q
    have hheld := hsends.held
    simp only [Prod.mk.injEq] at hheld
    have hsent := ptsmTo_sent x b q q
    have hcount := ptsmTo_txCount hinit b q
    cases ht : x.transmits with
    | false =>
        simp only [ht, Bool.false_eq_true, and_false, if_false, Bool.toNat_false] at hsent hcount
        exact ⟨by rw [hsends.conf], hheld.2.1, by omega, by omega⟩
    | true =>
        simp only [ht, and_true, if_true, Bool.toNat_true] at hsent hcount
        have hlt := hbelow ht
        exact ⟨by rw [hsends.conf], hheld.2.1, by omega, by omega⟩
  · exact ptsmTo_paced_ne hqp b

/-- **A run of the machines pays for what an enabled port sends.** -/
theorem run_paced (hen : (b.port p).portEnabled = true) (hr : brStateMachinesRun c b = some b') :
    Paced p 0 b b' := by
  have hstable : Stable (Paced p 0 b) := by
    have htouch : ∀ {e : PerTreePort → PerTreePort} {s s' : Bridge}, Touches e s s' →
        Paced p 0 b s → Paced p 0 b s' := fun h hs => hs.trans (h.toSilent.paced p)
    exact
      { assurance := fun s q => htouch (assurance_touches (e := id) s q)
        prsmToDiscard := fun s q => htouch (prsmToDiscard_touches s q)
        prsmToReceive := fun s q => htouch (prsmToReceive_touches s q)
        ppmsmTo := fun x s q => htouch (ppmsmTo_touches (e := id) x s q)
        bdsmTo := fun x s q => htouch (bdsmTo_touches (e := id) x s q)
        ptsmInit := fun s q hoff hs => by
          refine hs.trans (ptsmTo_paced_ne ?_ s)
          rintro rfl
          rw [hs.enabled, hen] at hoff
          cases hoff
        ptsmTo := fun x s q _ hx hs => hs.trans (ptsmTo_paced hx p)
        pismTo := fun x s q t _ => htouch (pismTo_touches x s q t)
        prssmToRoleSelection := fun s t => htouch (prssmToRoleSelection_touches s t)
        prtsmTo := fun x d s q t _ => htouch (prtsmTo_touches x d s q t)
        pstsmTo := fun x s q t _ => htouch (pstsmTo_touches x s q t)
        tcsmTo := fun x s q t _ => htouch (tcsmTo_touches x s q t) }
  exact hstable.run (.refl p b) hr

/-! ## The events -/

/-- The account is the same when the port and what was sent are. -/
theorem paced_of_eq (hconf : b'.conf = b.conf)
    (hport : ((b'.port p).txCount, (b'.port p).portEnabled) =
      ((b.port p).txCount, (b.port p).portEnabled))
    (hsent : b'.sent p = b.sent p) : Paced p 0 b b' := by
  simp only [Prod.mk.injEq] at hport
  refine ⟨by rw [hconf], hport.2, ?_, ?_⟩
  · rw [hsent, hport.1]
    exact Nat.le_refl _
  · rw [hport.1]
    exact Nat.le_max_left ..

theorem paced_emit (b : Bridge) {o : Output} (ho : o.isTx p = false) : Paced p 0 b (b.emit o) := by
  refine paced_of_eq rfl rfl ?_
  rw [Bridge.sent, emit_out, List.countP_append, List.countP_singleton, ho]
  rfl

theorem paced_setTree (b : Bridge) (t : Mstid) (f : Tree → Tree) : Paced p 0 b (b.setTree t f) :=
  paced_of_eq rfl rfl rfl

theorem paced_setPtps (b : Bridge) (sel : PortRef → Mstid → Bool) (f : PerTreePort → PerTreePort) :
    Paced p 0 b (b.setPtps sel f) :=
  paced_of_eq rfl rfl rfl

theorem paced_setPort (b : Bridge) (q : PortRef) {f : Port → Port}
    (hf : q = p → ∀ x, ((f x).txCount, (f x).portEnabled) = (x.txCount, x.portEnabled)) :
    Paced p 0 b (b.setPort q f) := by
  refine paced_of_eq rfl ?_ rfl
  rw [setPort_port]
  split
  · rename_i h
    exact hf h.symm _
  · rfl

theorem ptsmTick_paced (b : Bridge) (q p : PortRef) :
    Paced p (if q = p then 1 else 0) b (ptsmTick b q) := by
  have hplaces : ∀ l, Paced p 0 (b.setPort q tickPort) ((b.setPort q tickPort).forPlaces l
      (fun b p t =>
        let ends := (b.ptp p t).tcWhile = 1
        let b := b.setPtp p t tickPtp
        if ends then checkTopologyChange b t else b)) := by
    intro l
    refine forPlaces_keeps (I := Paced p 0 (b.setPort q tickPort)) (fun s p' t hs => ?_) l (.refl ..)
    refine hs.trans (paced_of_eq ?_ ?_ ?_)
    all_goals
      dsimp only
      split <;> rfl
  have htick : Paced p (if q = p then 1 else 0) b (b.setPort q tickPort) := by
    by_cases hqp : q = p
    · subst hqp
      rw [if_pos rfl]
      have hcount : ((b.setPort q tickPort).port q).txCount = (b.port q).txCount - 1 := by
        rw [setPort_port_self]
        rfl
      refine ⟨rfl, by rw [setPort_port_self]; rfl, ?_, ?_⟩
      · rw [sent_setPort, hcount]
        omega
      · rw [hcount]
        omega
    · rw [if_neg hqp]
      exact paced_setPort b q (fun h => absurd h hqp)
  exact htick.trans (hplaces _)

theorem tickAgeing_paced (b : Bridge) (q p : PortRef) : Paced p 0 b (tickAgeing b q) := by
  have hset : Paced p 0 b (b.setPort q (fun prt =>
      { prt with rapidAgeingWhile := prt.rapidAgeingWhile - 1 })) :=
    paced_setPort b q (by intros; rfl)
  dsimp only [tickAgeing]
  split
  · exact hset.trans (paced_emit _ rfl)
  · exact hset

/-- A second takes one BPDU off the account of each port on the list. -/
theorem tickPorts_paced (l : List PortRef) (b : Bridge) (p : PortRef) :
    Paced p (l.count p) b (b.forPorts l (fun b q => tickAgeing (ptsmTick b q) q)) := by
  induction l generalizing b with
  | nil => exact .refl p b
  | cons q l ih =>
      have hone := (ptsmTick_paced b q p).trans (tickAgeing_paced (ptsmTick b q) q p)
      have hall : Paced p _ b ((q :: l).foldl (fun b q => tickAgeing (ptsmTick b q) q) b) :=
        hone.trans (ih _)
      rw [Nat.add_zero] at hall
      rw [List.count_cons, Nat.add_comm]
      simp only [beq_iff_eq]
      exact hall

theorem Paced.mono {n m : Nat} (h : Paced p n b b') (hnm : n ≤ m) : Paced p m b b' :=
  ⟨h.hold, h.enabled, by have := h.sent; omega, h.bound⟩

/-- Input that is paid for, and the run of the machines that follows. -/
theorem Paced.run {n : Nat} (h : Paced p n b b') (hen : (b.port p).portEnabled = true)
    (hr : brStateMachinesRun c b' = some b'') : Paced p n b b'' :=
  h.trans (run_paced (h.enabled.trans hen) hr)

theorem oneSecond_paced (hnodup : b.conf.ports.Nodup) (hen : (b.port p).portEnabled = true)
    (h : oneSecond c b = some b') : Paced p 1 b b' := by
  have hup : Paced p 0 b { b with uptime := b.uptime + 1 } := paced_of_eq rfl rfl rfl
  rw [oneSecond] at h
  split at h
  · exact Option.some.inj h ▸ hup.mono (Nat.zero_le 1)
  · have htrees := fun f l => forTrees_keeps
      (I := fun s => Paced p 0 b s ∧ s.conf = b.conf) (f := fun b t => b.setTree t f)
      (fun s t hs => ⟨hs.1.trans (paced_setTree s t _), hs.2⟩) l ⟨hup, rfl⟩
    refine Paced.run (Paced.mono ((htrees _ _).1.trans (tickPorts_paced _ _ p)) ?_) hen h
    rw [(htrees _ _).2, Nat.zero_add]
    exact List.nodup_iff_count_le_one.mp hnodup p

theorem bridgeBpduRcv_paced {mem : Nat → UInt8} {len : Nat} (hen : (b.port p).portEnabled = true)
    (h : bridgeBpduRcv c q mem len b = some b') : Paced p 0 b b' := by
  rw [bridgeBpduRcv] at h
  split at h
  · exact Option.some.inj h ▸ .refl p b
  split at h
  · exact Option.some.inj h ▸ .refl p b
  have hrx : Paced p 0 b (b.setPort q (fun prt => { prt with num_rx_bpdu := prt.num_rx_bpdu + 1 })) :=
    paced_setPort b q (by intros; rfl)
  rw [rxBpdu] at h
  split at h
  · exact Option.some.inj h ▸ hrx.trans ((paced_setPort _ q (by intros; rfl)).trans
      (paced_emit _ rfl))
  split at h
  · exact Option.some.inj h ▸ hrx.trans (paced_setPort _ q (by intros; rfl))
  split at h
  · exact Option.some.inj h ▸ hrx
  split at h
  · exact Option.some.inj h ▸ hrx
  split at h
  · exact Option.some.inj h ▸ hrx
  · exact (hrx.trans ((paced_setPort _ q (by intros; rfl)).trans
      (paced_setPort _ q (by intros; rfl)))).run hen h

theorem setPortEnable_paced {up : Bool} {speed duplex : Int} (hqp : q ≠ p)
    (hen : (b.port p).portEnabled = true) (h : setPortEnable c q up speed duplex b = some b') :
    Paced p 0 b b' := by
  have hset : ∀ (s : Bridge) (f : Port → Port), Paced p 0 s (s.setPort q f) :=
    fun s f => paced_setPort s q (fun h => absurd h hqp)
  rw [setPortEnable] at h
  split at h
  · exact Option.some.inj h ▸ .refl p b
  split at h
  · have hin : ∀ (f g : Port → Port) (k : PerTreePort → PerTreePort),
        Paced p 0 b (((b.setPort q f).setPtpsOfPort q k).setPort q g) := fun f g k =>
      ((hset b f).trans (paced_setPtps _ _ k)).trans (hset _ g)
    dsimp only at h
    split at h
    · exact (hin _ _ _).run hen h
    · exact Option.some.inj h ▸ hin _ _ _
  · split at h
    · exact (hset b _).run hen h
    · exact Option.some.inj h ▸ .refl p b

/-! ## Over a run -/

/-- An event that does not begin the machines of the port anew: a second passes, a frame arrives,
another port goes up or down. -/
def Event.passes (p : PortRef) : Event → Prop
  | .oneSecond => True
  | .frame _ _ _ => True
  | .setPortEnable q _ _ _ => q ≠ p
  | _ => False

/-- The seconds that an event takes. -/
def Event.seconds : Event → Nat
  | .oneSecond => 1
  | _ => 0

theorem handle_paced {digest : List Mstid → Vector UInt8 16} {e : Event} (hpass : e.passes p)
    (hnodup : b.conf.ports.Nodup) (hen : (b.port p).portEnabled = true)
    (h : e.handle digest c b = some b') : Paced p e.seconds b b' := by
  cases e with
  | oneSecond => exact oneSecond_paced hnodup hen h
  | frame q mem len => exact bridgeBpduRcv_paced hen h
  | setPortEnable q up speed duplex => exact setPortEnable_paced hpass hen h
  | _ => exact hpass.elim

section Runs

variable {digest : List Mstid → Vector UInt8 16} {mac : BitVec 48} {tr tr' : List Output}
  {vs vs' : List (Visit Bridge (Event × Budget) Output)}

/-- **The transmit rate.** From any state the daemon reaches in which a port is enabled, over any
seconds, received frames and link changes of other ports, in any order, the port sends no more BPDUs
than the Transmit Hold Count and one for each second. -/
theorem transmit_rate (h : Exec (mstpd digest) (bridgeCreate digest mac) vs tr b)
    (hen : (b.port p).portEnabled = true) (h' : Exec (mstpd digest) b vs' tr' b')
    (hpass : ∀ v ∈ vs', v.act.1.passes p) :
    tr'.countP (Output.isTx p) ≤
      b.conf.Transmit_Hold_Count + (vs'.map (fun v => v.act.1.seconds)).sum := by
  suffices hinv : (∀ v ∈ vs', v.act.1.passes p) → b'.Undeleted none ∧
      b'.conf.Transmit_Hold_Count = b.conf.Transmit_Hold_Count ∧ (b'.port p).portEnabled = true ∧
      tr'.countP (Output.isTx p) + (b.port p).txCount ≤
        (b'.port p).txCount + (vs'.map (fun v => v.act.1.seconds)).sum ∧
      (b'.port p).txCount ≤ max (b.port p).txCount b.conf.Transmit_Hold_Count by
    obtain ⟨-, -, -, hsent, hbound⟩ := hinv hpass
    omega
  clear hpass
  induction h' with
  | nil => exact fun _ => ⟨not_deleted h, rfl, hen, by simp, Nat.le_max_left ..⟩
  | @snoc _ _ _ s _ a _ hs ih =>
      intro hpass
      obtain ⟨hun, hhold, hup, hsent, hbound⟩ := ih (fun v hv => hpass v (List.mem_append_left _ hv))
      have hact := hpass _ (List.mem_append_right _ (List.mem_singleton_self _))
      obtain ⟨u, hu, heq⟩ := Option.map_eq_some_iff.mp hs
      obtain ⟨rfl, rfl⟩ := Prod.mk.inj heq
      have hpaced := handle_paced (b := { s with out := [] }) hact hun.1 hup hu
      have hkeep : u.Undeleted none := handle_undeleted (b := { s with out := [] }) hu hun
      have hpays : u.sent p + (s.port p).txCount ≤ (u.port p).txCount + a.1.seconds := by
        simpa only [Bridge.sent, List.countP_nil, Nat.zero_add] using hpaced.sent
      have hbelow : (u.port p).txCount ≤
          max (s.port p).txCount s.conf.Transmit_Hold_Count := hpaced.bound
      rw [hhold] at hbelow
      refine ⟨hkeep, hpaced.hold.trans hhold, hpaced.enabled.trans hup, ?_, ?_⟩
      · rw [List.countP_append, List.map_append, List.sum_append, List.map_singleton,
          List.sum_singleton]
        rw [Bridge.sent] at hpays
        dsimp only
        omega
      · dsimp only
        omega

end Runs

set_option maxRecDepth 100000 in
/-- After the better root has been heard of, the other port sends, in one second. -/
theorem transmit_rate_rootRun : ∃ vs tr b vs' tr' b',
    Exec (mstpd noDigest) (bridgeCreate noDigest 0x020000000001) vs tr b ∧
      Exec (mstpd noDigest) b vs' tr' b' ∧ vs'.map Visit.act = rootRun.drop 5 ∧
      0 < tr'.countP (Output.isTx 2) ∧
      tr'.countP (Output.isTx 2) ≤
        b.conf.Transmit_Hold_Count + (vs'.map (fun v => v.act.1.seconds)).sum := by
  obtain ⟨vs, hvs, -⟩ := Exec.replay (mstpd noDigest) (bridgeCreate noDigest 0x020000000001)
    (rootRun.take 5) (by decide +kernel)
  obtain ⟨vs', hvs', hact⟩ := Exec.replay (mstpd noDigest) (((mstpd noDigest).run
    (bridgeCreate noDigest 0x020000000001) (rootRun.take 5)).get (by decide +kernel)).1
    (rootRun.drop 5) (by decide +kernel)
  refine ⟨vs, _, _, vs', _, _, hvs, hvs', hact, by decide +kernel,
    transmit_rate hvs (by decide +kernel) hvs' (fun v hv => ?_)⟩
  have hmem : v.act ∈ rootRun.drop 5 := hact ▸ List.mem_map_of_mem hv
  simp only [rootRun, List.map_cons, List.map_nil, List.drop_succ_cons, List.drop_zero,
    List.mem_cons, List.not_mem_nil, or_false] at hmem
  rcases hmem with h | h <;> rw [h] <;> trivial

end Mstpd
