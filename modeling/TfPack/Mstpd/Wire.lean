import TfPack.Mstpd.Exchange
import TfPack.Mstpd.Forwarding

set_option autoImplicit false

/-! # The spanning tree daemon: what is sent is never refused

`MSTP_OUT_tx_bpdu` puts an Ethernet and an LLC header before a BPDU, and `bridge_bpdu_rcv` looks at
both before the validation. Every BPDU of every run passes (`sent_accepted`): those of the machine
of transmission are of four kinds, and the largest, an MST BPDU of a bridge with all its MSTIs, fits
into a frame.
-/

namespace Mstpd

open BigEndian StepMachine

variable {b b' : Bridge} {c : Budget}

/-! ## Frames -/

def LLC_PDU_LEN_U : Nat := 3

/-- The header before a BPDU of `size` bytes, from the port with the address `src`. -/
def llcHeader (src : BitVec 48) (size : Nat) : Bytes :=
  bridgeGroupAddress ++ encode 6 src.toNat ++ encode 2 (size + LLC_PDU_LEN_U) ++ [0x42, 0x42, 3]

/-- The frame that `MSTP_OUT_tx_bpdu` passes to `packet_send`. -/
def txFrame (src : BitVec 48) (bpdu : Bytes) : Bytes := llcHeader src bpdu.length ++ bpdu

theorem length_llcHeader (src : BitVec 48) (size : Nat) :
    (llcHeader src size).length = LLC_HEADER_SIZE := by
  simp [llcHeader, bridgeGroupAddress, LLC_HEADER_SIZE]

/-- **The header passes the checks**, and the length of the BPDU is what was sent. -/
theorem bpduSize_txFrame {mem : Nat → UInt8} {src : BitVec 48} {bpdu : Bytes} {len : Nat}
    (h : Holds mem 0 (txFrame src bpdu)) (hlen : (txFrame src bpdu).length ≤ len)
    (hsize : bpdu.length + LLC_PDU_LEN_U ≤ 1500) (hpos : 0 < bpdu.length) :
    bpduSize mem len = some bpdu.length := by
  rw [txFrame, List.length_append, length_llcHeader, LLC_HEADER_SIZE] at hlen
  obtain ⟨hheader, -⟩ := holds_append.mp h
  rw [llcHeader] at hheader
  obtain ⟨hrest, hsaps⟩ := holds_append.mp hheader
  obtain ⟨haddresses, hlength⟩ := holds_append.mp hrest
  obtain ⟨hgroup, -⟩ := holds_append.mp haddresses
  have hfield : field mem 12 2 = bpdu.length + LLC_PDU_LEN_U := by
    refine field_of_holds_lt ?_ (by rw [LLC_PDU_LEN_U] at hsize ⊢; omega)
    simpa [bridgeGroupAddress] using hlength
  have hgroupAt : slice mem 0 6 = bridgeGroupAddress := slice_of_holds hgroup
  have hoff : (bridgeGroupAddress ++ encode 6 src.toNat ++
      encode 2 (bpdu.length + LLC_PDU_LEN_U)).length = 14 := by
    simp [bridgeGroupAddress]
  rw [hoff] at hsaps
  have h14 : mem 14 = 0x42 := hsaps 0 (by decide)
  have h15 : mem 15 = 0x42 := hsaps 1 (by decide)
  have h16 : mem 16 = 3 := hsaps 2 (by decide)
  rw [bpduSize, hfield, hgroupAt, h14, h15, h16]
  rw [LLC_PDU_LEN_U] at *
  rw [if_pos ⟨by rw [LLC_HEADER_SIZE]; omega, rfl, by omega, by omega, by omega, rfl, rfl, by decide⟩]
  simp

/-! ## The kinds of BPDUs -/

/-- The BPDU fits into a frame, and whatever follows it in memory, it is valid. -/
structure Accepted (bpdu : Bytes) : Prop where
  pos : 0 < bpdu.length
  fits : bpdu.length + LLC_PDU_LEN_U ≤ 1500
  valid : ∀ mem, Holds mem 0 bpdu → ∃ version mstis,
    validate (Bpdu.read mem) bpdu.length = some (version, mstis)

/-- The first fields of a BPDU of which no fewer bytes are sent. -/
theorem read_taken {mem : Nat → UInt8} {r : Bpdu} {size : Nat} (hsize : TCN_BPDU_SIZE ≤ size)
    (h : Holds mem 0 (r.bytes.take size)) :
    (Bpdu.read mem).protocolIdentifier = r.protocolIdentifier ∧
      (Bpdu.read mem).protocolVersion = r.protocolVersion ∧
      (Bpdu.read mem).bpduType = r.bpduType := by
  have hsplit : r.bytes.take size = r.tcnBytes ++ ((r.configBytes ++ ([r.version1_len] ++
      (r.mstBytes ++ r.mstConfiguration.flatMap MstiMessage.bytes))).take (size - 4)) := by
    rw [Bpdu.bytes, List.take_append, length_tcnBytes, List.take_of_length_le]
    rw [length_tcnBytes]
    exact hsize
  rw [hsplit] at h
  exact read_tcn (holds_append.mp h).1

theorem length_taken {r : Bpdu} {size : Nat} (hsize : size ≤ RST_BPDU_SIZE) :
    (r.bytes.take size).length = size := by
  simp only [Bpdu.bytes, List.length_take, List.length_append, length_tcnBytes,
    length_configBytes, List.length_singleton]
  rw [RST_BPDU_SIZE] at hsize
  omega

/-- A BPDU shorter than that of MSTP is accepted if its first fields and its size fit. -/
theorem accepted_taken {r : Bpdu} {size : Nat} {v : UInt8} (hid : r.protocolIdentifier = 0)
    (hmin : TCN_BPDU_SIZE ≤ size) (hmax : size ≤ RST_BPDU_SIZE)
    (hkind : r.bpduType = bpduTypeTCN ∧ v = protoSTP ∨
      r.bpduType = bpduTypeConfig ∧ CONFIG_BPDU_SIZE ≤ size ∧ v = protoSTP ∨
      r.bpduType = bpduTypeRST ∧ r.protocolVersion = protoRSTP ∧ size = RST_BPDU_SIZE ∧
        v = protoRSTP) : Accepted (r.bytes.take size) := by
  refine ⟨?_, ?_, fun mem hmem => ⟨v, none, ?_⟩⟩
  · rw [length_taken hmax]
    rw [TCN_BPDU_SIZE] at hmin
    omega
  · rw [length_taken hmax]
    rw [RST_BPDU_SIZE] at hmax
    rw [LLC_PDU_LEN_U]
    omega
  · obtain ⟨hid', hversion, htype⟩ := read_taken hmin hmem
    have hguard : ¬ (size < TCN_BPDU_SIZE ∨ (Bpdu.read mem).protocolIdentifier ≠ 0) := by
      rw [hid', hid]
      exact not_or.mpr ⟨Nat.not_lt.mpr hmin, not_not.mpr rfl⟩
    rw [length_taken hmax, validate, if_neg hguard, htype, hversion]
    rcases hkind with ⟨ht, rfl⟩ | ⟨ht, hsize, rfl⟩ | ⟨ht, hv, hsize, rfl⟩
    · rw [ht, if_pos rfl]
    · rw [ht, if_neg (by decide), if_pos rfl, if_neg (Nat.not_lt.mpr hsize)]
    · rw [ht, if_neg (by decide), if_neg (by decide), if_pos rfl, hv, if_pos rfl,
        if_neg (by rw [hsize]; exact Nat.lt_irrefl _)]

/-- An MST BPDU with no more messages than the standard has MSTIs. -/
theorem accepted_mst {conf : BridgeConf} {cist : PerTreePort} {mstis : List PerTreePort}
    (h : mstis.length ≤ MAX_STANDARD_MSTIS) : Accepted (mstBpdu conf cist mstis).bytes := by
  have hlen : (mstBpdu conf cist mstis).bytes.length = _ := length_mstBpdu_bytes
  rw [MST_BPDU_SIZE_WO_MSTI_MSGS, MSTI_MESSAGE_SIZE] at hlen
  refine ⟨by omega, ?_, fun mem hmem => ⟨_, _, validate_mstBpdu hmem h⟩⟩
  rw [MAX_STANDARD_MSTIS] at h
  rw [LLC_PDU_LEN_U]
  omega

/-! ## What the machine of transmission sends -/

/-- Everything that was sent is accepted. -/
def Bridge.AllAccepted (b : Bridge) : Prop := ∀ p bpdu, .txBpdu p bpdu ∈ b.bpdus → Accepted bpdu

theorem allAccepted_of_eq (h : b'.bpdus = b.bpdus) (hb : b.AllAccepted) : b'.AllAccepted :=
  fun p bpdu hmem => hb p bpdu (h ▸ hmem)

theorem mstpOutTxBpdu_accepted {p : PortRef} {r : Bpdu} {size : Nat}
    (hr : Accepted (r.bytes.take size)) (hb : b.AllAccepted) :
    (mstpOutTxBpdu b p r size).AllAccepted := by
  intro q bpdu hmem
  have hout : (mstpOutTxBpdu b p r size).bpdus = b.bpdus ++ [.txBpdu p (r.bytes.take size)] := by
    rw [mstpOutTxBpdu, Bridge.bpdus, emit_out, List.filter_append]
    rfl
  rw [hout, List.mem_append, List.mem_singleton] at hmem
  rcases hmem with hmem | heq
  · exact hb q bpdu hmem
  · exact (Output.txBpdu.inj heq).2 ▸ hr

theorem txConfig_accepted (p : PortRef) (hb : b.AllAccepted) : (txConfig b p).AllAccepted := by
  rw [txConfig]
  split
  · exact hb
  · exact mstpOutTxBpdu_accepted (accepted_taken (v := protoSTP) rfl (by decide) (by decide)
      (.inr (.inl ⟨rfl, Nat.le_refl _, rfl⟩))) hb

theorem txTcn_accepted (p : PortRef) (hb : b.AllAccepted) : (txTcn b p).AllAccepted := by
  rw [txTcn]
  split
  · exact hb
  · exact mstpOutTxBpdu_accepted (accepted_taken (v := protoSTP) rfl (by decide) (by decide)
      (.inl ⟨rfl, rfl⟩)) hb

theorem txMstp_accepted (p : PortRef) (htrees : b.conf.trees.length ≤ MAX_STANDARD_MSTIS)
    (hb : b.AllAccepted) : (txMstp b p).AllAccepted := by
  rw [txMstp]
  split_ifs
  · exact hb
  · exact mstpOutTxBpdu_accepted (accepted_taken (v := protoRSTP) rfl (by decide) (by decide)
      (.inr (.inr ⟨rfl, rfl, rfl, rfl⟩))) hb
  · refine mstpOutTxBpdu_accepted ?_ hb
    rw [List.take_of_length_le length_mstBpdu_bytes.le]
    refine accepted_mst ?_
    rw [Bridge.mstisOfPort, List.length_map, List.length_tail]
    omega

/-- The invariant: no more trees than an MST BPDU has room for, and nothing sent that would be
refused. -/
structure Bridge.Wired (b : Bridge) : Prop where
  trees : b.conf.trees.length ≤ MAX_STANDARD_MSTIS
  sent : b.AllAccepted

theorem Touches.wired {e : PerTreePort → PerTreePort} (h : Touches e b b') (hb : b.Wired) :
    b'.Wired :=
  ⟨h.conf ▸ hb.trees, allAccepted_of_eq h.bpdus hb.sent⟩

theorem ptsmTo_wired (x : PtsmState) (p : PortRef) (hb : b.Wired) : (ptsmTo x b p).Wired := by
  refine ⟨(ptsmTo_sends x b p).conf ▸ hb.trees, ?_⟩
  cases x
  case TRANSMIT_CONFIG => exact allAccepted_of_eq rfl (txConfig_accepted p hb.sent)
  case TRANSMIT_TCN => exact allAccepted_of_eq rfl (txTcn_accepted p hb.sent)
  case TRANSMIT_RSTP => exact allAccepted_of_eq rfl (txMstp_accepted p hb.trees hb.sent)
  all_goals exact hb.sent

theorem stable_wired : StableBegin Bridge.Wired where
  assurance b p := (assurance_touches (e := id) b p).wired
  prsmToDiscard b p := (prsmToDiscard_touches b p).wired
  prsmToReceive b p := (prsmToReceive_touches b p).wired
  ppmsmTo x b p := (ppmsmTo_touches (e := id) x b p).wired
  bdsmTo x b p := (bdsmTo_touches (e := id) x b p).wired
  ptsmInit _ p _ := ptsmTo_wired .TRANSMIT_INIT p
  ptsmTo x _ p _ _ := ptsmTo_wired x p
  pismTo x b p t _ := (pismTo_touches x b p t).wired
  prssmToRoleSelection b t := (prssmToRoleSelection_touches b t).wired
  prtsmTo x d b p t _ := (prtsmTo_touches x d b p t).wired
  pstsmTo x b p t _ := (pstsmTo_touches x b p t).wired
  tcsmTo x b p t _ := (tcsmTo_touches x b p t).wired
  ptsmBegin _ p := ptsmTo_wired .TRANSMIT_INIT p
  pismBegin b p t := (pismBegin_touches b p t).wired
  prssmBegin b t := (prssmBegin_touches b t).wired
  prtsmBegin b p t := (prtsmTo_touches .INIT_PORT _ b p t).wired
  pstsmBegin b p t := (pstsmTo_touches .DISCARDING b p t).wired
  tcsmBegin b p t := (tcsmTo_touches .INACTIVE b p t).wired

theorem small_wired {victim : Option PortRef} (h : Small c victim b b') (hb : b.Wired) :
    b'.Wired := by
  cases h with
  | input h => exact ⟨h.trees.length_le.trans hb.trees, allAccepted_of_eq h.bpdus hb.sent⟩
  | run h => exact stable_wired.run hb h
  | «begin» h => exact stable_wired.br hb h
  | enable up h =>
      rcases setBridgeEnable_cases h with rfl | ⟨s, hs, hr⟩
      · exact hb
      · exact stable_wired.br ⟨by rw [hs.conf]; exact hb.trees, allAccepted_of_eq hs.bpdus hb.sent⟩ hr
  | portCreate p name portno h =>
      rcases portCreate_cases h with rfl | ⟨-, hr⟩
      · exact hb
      · exact stable_wired.prt (b := newPort b p name portno) ⟨hb.trees, hb.sent⟩ hr
  | createMsti t h =>
      rcases createMsti_cases h with rfl | ⟨trees, hcond, hr⟩
      · exact hb
      · refine stable_wired.tree (b := newTree b t trees) ⟨?_, hb.sent⟩ hr
        obtain ⟨-, -, -, hins, hlen⟩ := hcond
        obtain ⟨before, after, -, heq, rfl⟩ := insertMstid_eq hins
        rw [heq, MAX_IMPLEMENTATION_MSTIS, List.length_append] at hlen
        change (before ++ t :: after).length ≤ MAX_STANDARD_MSTIS
        rw [MAX_STANDARD_MSTIS, List.length_append, List.length_cons]
        omega

/-! ## Over all runs -/

section Runs

variable {digest : List Mstid → Vector UInt8 16} {mac : BitVec 48} {tr : List Output}
  {vs : List (Visit Bridge (Event × Budget) Output)}

theorem reachable_wired (h : Exec (mstpd digest) (bridgeCreate digest mac) vs tr b) :
    b.conf.trees.length ≤ MAX_STANDARD_MSTIS ∧
      ∀ p bpdu, .txBpdu p bpdu ∈ tr → Accepted bpdu := by
  refine h.inv (fun b tr => b.conf.trees.length ≤ MAX_STANDARD_MSTIS ∧
    ∀ p bpdu, .txBpdu p bpdu ∈ tr → Accepted bpdu) ⟨Nat.le_add_left 1 _, fun _ _ => nofun⟩ ?_
  intro s tr a s' evs hs hstep
  obtain ⟨u, hu, heq⟩ := Option.map_eq_some_iff.mp hstep
  obtain ⟨rfl, rfl⟩ := Prod.mk.inj heq
  have hstart : Bridge.Wired { s with out := [] } := ⟨hs.1, fun _ _ => nofun⟩
  have hend : u.Wired := (handle_steps hu).keeps (fun _ _ _ _ => small_wired) hstart
  refine ⟨hend.trees, fun p bpdu hmem => ?_⟩
  rcases List.mem_append.mp hmem with hmem | hmem
  · exact hs.2 p bpdu hmem
  · exact hend.sent p bpdu (List.mem_filter.mpr ⟨hmem, rfl⟩)

/-- **What is sent is never refused.** Take any BPDU that a bridge sends in any run, in the frame in
which it leaves any port: a bridge of the daemon that receives the frame, with whatever padding,
finds the Ethernet and LLC headers in order and the BPDU valid. -/
theorem sent_accepted (h : Exec (mstpd digest) (bridgeCreate digest mac) vs tr b) {p : PortRef}
    {bpdu : Bytes} (hsent : .txBpdu p bpdu ∈ tr) (src : BitVec 48) {mem : Nat → UInt8} {len : Nat}
    (hmem : Holds mem 0 (txFrame src bpdu)) (hlen : (txFrame src bpdu).length ≤ len) :
    bpduSize mem len = some bpdu.length ∧ ∃ version mstis,
      validate (Bpdu.read (fun i => mem (LLC_HEADER_SIZE + i))) bpdu.length =
        some (version, mstis) := by
  obtain ⟨hpos, hfits, hvalid⟩ := (reachable_wired h).2 p bpdu hsent
  refine ⟨bpduSize_txFrame hmem hlen hfits hpos, hvalid _ (fun i hi => ?_)⟩
  have hrest := (holds_append.mp hmem).2 i hi
  simpa [length_llcHeader] using hrest

end Runs

theorem exists_sent {l : List Output} {p : PortRef} {Q : Bytes → Prop}
    (h : l.any (Output.isTx p) = true) (hQ : ∀ bpdu, .txBpdu p bpdu ∈ l → Q bpdu) :
    ∃ bpdu, .txBpdu p bpdu ∈ l ∧ Q bpdu := by
  obtain ⟨o, ho, htx⟩ := List.any_eq_true.mp h
  cases o with
  | txBpdu q bpdu =>
      obtain rfl := eq_of_beq htx
      exact ⟨bpdu, ho, hQ bpdu ho⟩
  | _ => cases htx

set_option maxRecDepth 100000 in
/-- The BPDUs that a new member of a region sends. -/
theorem sent_accepted_memberRun : ∃ vs tr b,
    Exec (mstpd noDigest) (bridgeCreate noDigest 0x020000000001) vs tr b ∧
      vs.map Visit.act = memberRun ∧ ∃ bpdu, .txBpdu 1 bpdu ∈ tr ∧
      bpduSize (fun i => (txFrame 0x020000000001 bpdu).getD i 0) 2000 = some bpdu.length := by
  obtain ⟨vs, hvs, hact⟩ := Exec.replay (mstpd noDigest) (bridgeCreate noDigest 0x020000000001)
    memberRun (by decide +kernel)
  refine ⟨vs, _, _, hvs, hact, exists_sent (by decide +kernel) (fun bpdu ho => ?_)⟩
  have hfits := ((reachable_wired hvs).2 1 bpdu ho).fits
  refine (sent_accepted hvs ho 0x020000000001 (holds_getD _) ?_).1
  rw [txFrame, List.length_append, length_llcHeader, LLC_HEADER_SIZE]
  omega

end Mstpd
