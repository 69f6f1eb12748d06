import Mathlib.Data.List.TakeWhile
import Mathlib.Tactic.IntervalCases
import TfPack.Mstpd.Steps

set_option autoImplicit false

/-! # The spanning tree daemon: the parameters of a bridge

What the requests on the control socket leave behind is consistent in every state of the daemon:
the times of the bridge are within their bounds and fit together, every tree has them
(`bridge_parameters`); the list of trees begins with the CIST and is ordered, every VLAN belongs to
a tree that exists, and the configuration digest is that of the present mapping, although it is not
computed for every request (`region_consistent`).
-/

namespace Mstpd

open StepMachine

variable {b b' b'' : Bridge} {c : Budget} {digest : List Mstid → Vector UInt8 16}

/-! ## What is configured -/

/-- The bounds of the parameters. -/
structure BridgeConf.TimesOk (conf : BridgeConf) : Prop where
  maxAge : 6 ≤ conf.Max_Age ∧ conf.Max_Age ≤ 40
  forwardDelay : 4 ≤ conf.Forward_Delay ∧ conf.Forward_Delay ≤ 30
  fit : (conf.Max_Age.toNat : Int) ≤ 2 * ((conf.Forward_Delay.toNat : Int) - 1)
  maxHops : 6 ≤ conf.MaxHops ∧ conf.MaxHops ≤ 40
  helloTime : 1 ≤ conf.Hello_Time ∧ conf.Hello_Time ≤ 10
  hold : 1 ≤ conf.Transmit_Hold_Count ∧ conf.Transmit_Hold_Count ≤ 10
  ageing : 10 ≤ conf.Ageing_Time ∧ conf.Ageing_Time ≤ 1000000

/-- The list of trees begins with the CIST and is ordered. -/
structure TreesOk (trees : List Mstid) : Prop where
  cist : ∃ l, trees = 0 :: l
  sorted : trees.Pairwise (· < ·)
  bound : ∀ t ∈ trees, t.toNat ≤ MAX_MSTID
  few : trees.length ≤ MAX_IMPLEMENTATION_MSTIS + 1

/-- The mapping of the VLANs. -/
structure BridgeConf.RegionOk (digest : List Mstid → Vector UInt8 16) (conf : BridgeConf) :
    Prop where
  trees : TreesOk conf.trees
  fids : ∀ fid ≤ MAX_FID, conf.fid2mstid fid ∈ conf.trees
  vids : ∀ vid ∈ vids, conf.vid2fid vid ≤ MAX_FID
  digest : conf.MstConfigId.configuration_digest = digest conf.digestTable

/-- The identity of a tree. -/
structure Bridge.Ident (b : Bridge) (t : Mstid) : Prop where
  own : (b.tree t).BridgePriority = ownVector (b.tree t).BridgeIdentifier
  mac : (b.tree t).BridgeIdentifier.mac_address = (b.tree 0).BridgeIdentifier.mac_address
  mstid : (b.tree t).BridgeIdentifier.priority &&& (0x0FFF : UInt16) = t

/-- Besides, the tree has the times of the bridge. -/
structure Bridge.TreeOk (b : Bridge) (t : Mstid) : Prop extends b.Ident t where
  times : (b.tree t).BridgeTimes = bridgeTimes b.conf

structure Configured (digest : List Mstid → Vector UInt8 16) (b : Bridge) : Prop where
  times : b.conf.TimesOk
  region : b.conf.RegionOk digest
  tree : ∀ t ∈ b.conf.trees, b.TreeOk t

/-! ## What is not a request -/

/-- The parameters stay; ports may come and go, and the bridge may go up or down. -/
structure Kept (b b' : Bridge) : Prop where
  conf : b'.conf = { b.conf with ports := b'.conf.ports, bridgeEnabled := b'.conf.bridgeEnabled }
  tree : ∀ t, (b'.tree t).held = (b.tree t).held

theorem Kept.refl (b : Bridge) : Kept b b := ⟨rfl, fun _ => rfl⟩

theorem Kept.trans (h : Kept b b') (h' : Kept b' b'') : Kept b b'' := by
  refine ⟨?_, fun t => (h'.tree t).trans (h.tree t)⟩
  rw [h'.conf, h.conf]

theorem Held.kept (h : Held b b') : Kept b b' := ⟨by rw [h.conf], h.tree⟩

theorem Kept.ident (h : Kept b b') {t : Mstid} (hb : b.Ident t) : b'.Ident t := by
  have ht := h.tree t
  have h0 := h.tree 0
  simp only [Prod.mk.injEq] at ht h0
  exact ⟨by rw [ht.2.1, ht.1, hb.own], by rw [ht.1, h0.1, hb.mac], by rw [ht.1, hb.mstid]⟩

theorem Kept.treeOk (h : Kept b b') {t : Mstid} (hb : b.TreeOk t) : b'.TreeOk t := by
  have ht := h.tree t
  simp only [Prod.mk.injEq] at ht
  refine ⟨h.ident hb.toIdent, ?_⟩
  rw [ht.2.2, hb.times, h.conf]
  rfl

/-- **What is no request leaves the parameters consistent.** -/
theorem Kept.configured (h : Kept b b') (hb : Configured digest b) : Configured digest b' := by
  obtain ⟨htimes, hregion, htree⟩ := hb
  have hconf := h.conf
  refine ⟨?_, ?_, ?_⟩
  · rw [hconf]
    exact { htimes with }
  · rw [hconf]
    exact { hregion with }
  · intro t ht
    rw [hconf] at ht
    exact h.treeOk (htree t ht)

section Kept

variable {p : PortRef} {t : Mstid}

theorem Kept.setPort (h : Kept b b') (p : PortRef) (f : Port → Port) : Kept b (b'.setPort p f) :=
  ⟨h.conf, h.tree⟩

theorem Kept.setPtps (h : Kept b b') (sel : PortRef → Mstid → Bool)
    (f : PerTreePort → PerTreePort) : Kept b (b'.setPtps sel f) :=
  ⟨h.conf, h.tree⟩

theorem Kept.emit (h : Kept b b') (o : Output) : Kept b (b'.emit o) := ⟨h.conf, h.tree⟩

theorem Kept.setTree (h : Kept b b') (t : Mstid) {f : Tree → Tree}
    (hf : ∀ x, (f x).held = x.held) : Kept b (b'.setTree t f) := by
  refine h.trans ⟨rfl, fun t' => ?_⟩
  rw [setTree_tree]
  split
  · exact hf _
  · rfl

theorem Kept.uptime (h : Kept b b') (n : Nat) : Kept b { b' with uptime := n } := ⟨h.conf, h.tree⟩

theorem Kept.forPlaces {f : Bridge → PortRef → Mstid → Bridge} (hf : ∀ b p t, Kept b (f b p t))
    (h : Kept b b') (l : List (PortRef × Mstid)) : Kept b (b'.forPlaces l f) :=
  forPlaces_keeps (I := Kept b) (fun _ p t hs => hs.trans (hf _ p t)) l h

theorem Kept.forPorts {f : Bridge → PortRef → Bridge} (hf : ∀ b p, Kept b (f b p))
    (h : Kept b b') (l : List PortRef) : Kept b (b'.forPorts l f) :=
  forPorts_keeps (I := Kept b) (fun _ p hs => hs.trans (hf _ p)) l h

theorem Kept.forTrees {f : Bridge → Mstid → Bridge} (hf : ∀ b t, Kept b (f b t))
    (h : Kept b b') (l : List Mstid) : Kept b (b'.forTrees l f) :=
  forTrees_keeps (I := Kept b) (fun _ t hs => hs.trans (hf _ t)) l h

theorem Kept.run (h : Kept b b') (hr : brStateMachinesRun c b' = some b'') : Kept b b'' :=
  h.trans (run_held hr).kept

theorem Kept.run_if {d : Prop} [Decidable d] (h : Kept b b')
    (hr : (if d then brStateMachinesRun c b' else some b') = some b'') : Kept b b'' := by
  split at hr
  · exact h.run hr
  · exact Option.some.inj hr ▸ h

theorem Kept.ask_if {d : Prop} [Decidable d] {f : PerTreePort → PerTreePort} (h : Kept b b')
    (hr : (if d then brStateMachinesRun c (b'.setPtp p t f) else some b') = some b'') :
    Kept b b'' := by
  split at hr
  · exact (h.setPtps _ f).run hr
  · exact Option.some.inj hr ▸ h

theorem portCreate_kept {name : String} {portno : UInt16}
    (h : portCreate c p name portno b = some b') : Kept b b' := by
  rcases portCreate_cases h with rfl | ⟨-, hr⟩
  · exact .refl b'
  · have hnew : Kept b (newPort b p name portno) := ⟨rfl, fun _ => rfl⟩
    exact hnew.trans (prt_held hr).kept

theorem deletePort_kept (h : deletePort c p b = some b') : Kept b b' := by
  rw [deletePort] at h
  split at h
  · exact Option.some.inj h ▸ .refl b
  · obtain ⟨s, hs, hr⟩ := Option.bind_eq_some_iff.mp h
    have hstopped : Kept b s := by
      split at hs
      · exact ((Kept.refl b).setPort p _).run hs
      · exact Option.some.inj hs ▸ (Kept.refl b).setPort p _
    have herase : Kept s { s with conf := { s.conf with ports := s.conf.ports.erase p } } :=
      ⟨rfl, fun _ => rfl⟩
    exact (hstopped.trans herase).run hr

theorem mstpOutSetState_kept (b : Bridge) (p : PortRef) (t : Mstid) (s : BrState) :
    Kept b (mstpOutSetState b p t s) := by
  rw [mstpOutSetState]
  split
  · exact .refl b
  · exact (((Kept.refl b).setPtps _ _).setPort p _).emit _

theorem resetPort_kept (b : Bridge) (p : PortRef) : Kept b (resetPort b p) := by
  unfold resetPort
  refine Kept.forPlaces (fun b p t => ?_) (Kept.setPort ?_ p _) _
  · refine Kept.setPtps ?_ _ _
    split
    · exact mstpOutSetState_kept b p t _
    · exact .refl b
  · split
    · exact (Kept.refl b).emit _
    · exact .refl b

theorem setBridgeEnable_kept {up : Bool} (h : setBridgeEnable c up b = some b') : Kept b b' := by
  rw [setBridgeEnable] at h
  split at h
  · exact Option.some.inj h ▸ .refl b
  · have hup : Kept b { b with conf := { b.conf with bridgeEnabled := up }, uptime := 0 } :=
      ⟨rfl, fun _ => rfl⟩
    have htrees := Kept.forTrees (fun b t => (Kept.refl b).setTree t (by intros; rfl)) hup
      b.conf.trees
      (f := fun b t => b.setTree t treeDefaultInternalVars)
    exact (Kept.forPorts resetPort_kept htrees _).trans (br_held h).kept

theorem setPortEnable_kept {up : Bool} {speed duplex : Int}
    (h : setPortEnable c p up speed duplex b = some b') : Kept b b' := by
  rw [setPortEnable] at h
  split at h
  · exact Option.some.inj h ▸ .refl b
  split at h
  · exact ((((Kept.refl b).setPort p _).setPtps _ _).setPort p _).run_if h
  · split at h
    · exact ((Kept.refl b).setPort p _).run h
    · exact Option.some.inj h ▸ .refl b

theorem checkTopologyChange_kept (b : Bridge) (t : Mstid) : Kept b (checkTopologyChange b t) := by
  unfold checkTopologyChange
  refine (Kept.refl b).setTree t (fun x => ?_)
  split_ifs <;> rfl

theorem oneSecond_kept (h : oneSecond c b = some b') : Kept b b' := by
  have hup := (Kept.refl b).uptime (b.uptime + 1)
  rw [oneSecond] at h
  split at h
  · exact Option.some.inj h ▸ hup
  · refine Kept.run (Kept.forPorts (fun b p => ?_) (Kept.forTrees (fun b t => ?_) hup _) _) h
    · have htick : Kept b (ptsmTick b p) := by
        refine Kept.forPlaces (fun b p t => ?_) ((Kept.refl b).setPort p _) _
        dsimp only
        have hptp := (Kept.refl b).setPtps (fun p' t' => p' == p && t' == t) tickPtp
        split
        · exact hptp.trans (checkTopologyChange_kept _ t)
        · exact hptp
      dsimp only [tickAgeing]
      split
      · exact (htick.setPort p _).emit _
      · exact htick.setPort p _
    · refine (Kept.refl b).setTree t (fun x => ?_)
      split <;> rfl

theorem bridgeBpduRcv_kept {mem : Nat → UInt8} {len : Nat}
    (h : bridgeBpduRcv c p mem len b = some b') : Kept b b' := by
  have hrx := (Kept.refl b).setPort p (fun prt => { prt with num_rx_bpdu := prt.num_rx_bpdu + 1 })
  rw [bridgeBpduRcv] at h
  split at h
  · exact Option.some.inj h ▸ .refl b
  split at h
  · exact Option.some.inj h ▸ .refl b
  rw [rxBpdu] at h
  split at h
  · exact Option.some.inj h ▸ (hrx.setPort p _).emit _
  split at h
  · exact Option.some.inj h ▸ hrx.setPort p _
  split at h
  · exact Option.some.inj h ▸ hrx
  split at h
  · exact Option.some.inj h ▸ hrx
  split at h
  · exact Option.some.inj h ▸ hrx
  · exact ((hrx.setPort p _).setPort p _).run h

theorem setCistPortConfig_kept {cfg : CistPortConfig}
    (h : setCistPortConfig c p cfg b = some b') : Kept b b' := by
  have hask : ∀ {b : Bridge} {d : Bool}, Kept b
      (if d then b.setPtp p 0 (fun x => { x with selected := false, reselect := true }) else b) := by
    intro b d
    split
    · exact (Kept.refl b).setPtps _ _
    · exact .refl b
  have hedge : ∀ {b : Bridge} {d : Bool}, Kept b (if d then bdsmBegin b p else b) := by
    intro b d
    split
    · unfold bdsmBegin bdsmTo
      exact (Kept.refl b).setPort p _
    · exact .refl b
  rw [setCistPortConfig] at h
  split at h
  · exact Option.some.inj h ▸ .refl b
  · exact ((((Kept.refl b).setPort p _).trans hask).trans hedge).run_if h

theorem setMstiPortConfig_kept {cfg : MstiPortConfig}
    (h : setMstiPortConfig c p t cfg b = some b') : Kept b b' := by
  rw [setMstiPortConfig] at h
  split at h
  · exact Option.some.inj h ▸ .refl b
  · exact Kept.ask_if ((Kept.refl b).setPtps _ _) h

theorem portMcheck_kept (h : portMcheck c p b = some b') : Kept b b' := by
  rw [portMcheck] at h
  split at h
  · exact Option.some.inj h ▸ .refl b
  split at h
  · exact (((Kept.refl b).setPort p _).setPtps _ _).run h
  · exact Option.some.inj h ▸ .refl b

end Kept

/-! ## Requests for trees -/

section Trees

/-- A loop over trees that gives each of them new values. -/
theorem forTrees_tree {g : Bridge → Mstid → Bridge} {f : Tree → Tree} {conf : BridgeConf}
    (hg : ∀ b t, b.conf = conf → (g b t).conf = conf ∧
      (g b t).tree = fun t' => if t' = t then f (b.tree t') else b.tree t')
    {l : List Mstid} (hl : l.Nodup) (hb : b.conf = conf) :
    (b.forTrees l g).conf = conf ∧
      (b.forTrees l g).tree = fun t => if t ∈ l then f (b.tree t) else b.tree t := by
  induction l generalizing b with
  | nil => exact ⟨hb, by simp [Bridge.forTrees]⟩
  | cons u l ih =>
      obtain ⟨hconf, htree⟩ := hg b u hb
      obtain ⟨hu, hl⟩ := List.nodup_cons.mp hl
      obtain ⟨hconf', htree'⟩ := ih hl hconf
      refine ⟨hconf', ?_⟩
      rw [show b.forTrees (u :: l) g = (g b u).forTrees l g from rfl, htree', htree]
      funext t
      by_cases htu : t = u
      · subst htu
        simp [hu]
      · simp [htu]

theorem TreesOk.nodup {l : List Mstid} (h : TreesOk l) : l.Nodup :=
  h.sorted.imp fun hlt => UInt16.ne_of_lt hlt

/-- A new address for all trees. -/
def newAddress (mac : BitVec 48) (tree : Tree) : Tree :=
  if tree.BridgeIdentifier.mac_address = mac then tree
  else
    let id := { tree.BridgeIdentifier with mac_address := mac }
    { tree with
      BridgeIdentifier := id
      BridgePriority :=
        { tree.BridgePriority with RootID := id, RRootID := id, DesignatedBridgeID := id } }

theorem newAddress_spec (mac : BitVec 48) {tree : Tree}
    (hown : tree.BridgePriority = ownVector tree.BridgeIdentifier) :
    (newAddress mac tree).BridgeIdentifier = { tree.BridgeIdentifier with mac_address := mac } ∧
      (newAddress mac tree).BridgePriority = ownVector (newAddress mac tree).BridgeIdentifier ∧
      (newAddress mac tree).BridgeTimes = tree.BridgeTimes := by
  unfold newAddress
  split
  · rename_i h
    exact ⟨by rw [← h], hown, rfl⟩
  · refine ⟨rfl, ?_, rfl⟩
    rw [hown]
    rfl

theorem setBridgeAddress_configured {mac : BitVec 48} (h : setBridgeAddress c mac b = some b')
    (hb : Configured digest b) : Configured digest b' := by
  obtain ⟨htimes, hregion, htree⟩ := hb
  have hloop := forTrees_tree (b := b) (f := newAddress mac)
    (g := fun b t => b.setTree t (newAddress mac))
    (fun b t hb => ⟨hb, rfl⟩) hregion.trees.nodup (Eq.refl b.conf)
  set s := b.forTrees b.conf.trees (fun b t => b.setTree t (newAddress mac)) with hs
  have hspec : ∀ t ∈ b.conf.trees, (s.tree t).BridgeIdentifier =
      { (b.tree t).BridgeIdentifier with mac_address := mac } ∧
      (s.tree t).BridgePriority = ownVector (s.tree t).BridgeIdentifier ∧
      (s.tree t).BridgeTimes = (b.tree t).BridgeTimes := by
    intro t ht
    rw [hloop.2]
    simp only [if_pos ht]
    exact newAddress_spec mac (htree t ht).own
  have hzero : (0 : Mstid) ∈ b.conf.trees := by
    obtain ⟨l, hl⟩ := hregion.trees.cist
    rw [hl]
    exact List.mem_cons_self
  have hconfigured : Configured digest s := by
    refine ⟨hloop.1 ▸ htimes, hloop.1 ▸ hregion, fun t ht => ?_⟩
    rw [hloop.1] at ht
    obtain ⟨hid, hown, ht'⟩ := hspec t ht
    refine ⟨⟨hown, ?_, ?_⟩, ?_⟩
    · rw [hid, (hspec 0 hzero).1]
    · rw [hid]
      exact (htree t ht).mstid
    · rw [ht', hloop.1, (htree t ht).times]
  rw [setBridgeAddress] at h
  dsimp only at h
  split at h
  · exact (br_held h).kept.configured hconfigured
  · exact Option.some.inj h ▸ hconfigured

/-! ### The times -/

/-- The times of the bridge for a tree. -/
def newTimes (conf : BridgeConf) (tree : Tree) : Tree :=
  { tree with
    BridgeTimes :=
      { tree.BridgeTimes with
        remainingHops := conf.MaxHops
        Forward_Delay := conf.Forward_Delay
        Max_Age := conf.Max_Age
        Hello_Time := conf.Hello_Time } }

theorem within_getD {α : Type} [LE α] [DecidableLE α] {lo hi x : α} {o : Option α}
    (h : within lo hi o = true) (hx : lo ≤ x ∧ x ≤ hi) : lo ≤ o.getD x ∧ o.getD x ≤ hi := by
  cases o with
  | none => exact hx
  | some y => simpa [within] using h

/-- A valid request leaves the parameters within their bounds. -/
theorem valid_timesOk {cfg : CistBridgeConfig} {conf : BridgeConf} (h : cfg.valid conf = true)
    (hconf : conf.TimesOk) : (cfg.apply conf).TimesOk := by
  simp only [CistBridgeConfig.valid, Bool.and_eq_true] at h
  obtain ⟨⟨⟨⟨⟨⟨⟨hage, hdelay⟩, hfit⟩, -⟩, hhold⟩, hhops⟩, hhello⟩, hageing⟩ := h
  refine ⟨within_getD hage hconf.maxAge, within_getD hdelay hconf.forwardDelay, ?_,
    within_getD hhops hconf.maxHops, within_getD hhello hconf.helloTime,
    within_getD hhold hconf.hold, within_getD hageing hconf.ageing⟩
  rw [Bool.or_eq_true, decide_eq_true_iff] at hfit
  rcases hfit with hnone | hfit
  · cases ha : cfg.bridge_max_age <;> cases hd : cfg.bridge_forward_delay <;>
      simp [ha, hd] at hnone
    simpa [CistBridgeConfig.apply, ha, hd] using hconf.fit
  · exact hfit

theorem setBridgeTimes_tree (b : Bridge) (t : Mstid) :
    (setBridgeTimes b t).conf = b.conf ∧ (setBridgeTimes b t).tree =
      fun t' => if t' = t then newTimes b.conf (b.tree t') else b.tree t' :=
  ⟨rfl, rfl⟩

theorem configured_any_if {d d' : Prop} [Decidable d] [Decidable d'] (hb : Configured digest b')
    (hr : (if d then if d' then brStateMachinesBegin c b' else brStateMachinesRun c b'
      else some b') = some b'') : Configured digest b'' := by
  split at hr
  · split at hr
    · exact (br_held hr).kept.configured hb
    · exact (run_held hr).kept.configured hb
  · exact Option.some.inj hr ▸ hb

/-- All trees are given the times of the bridge. -/
theorem forTrees_setBridgeTimes (htimes : b.conf.TimesOk) (hregion : b.conf.RegionOk digest)
    (htree : ∀ t ∈ b.conf.trees, b.Ident t ∧ (b.tree t).BridgeTimes.Message_Age = 0) :
    Configured digest (b.forTrees b.conf.trees setBridgeTimes) := by
  have hloop := forTrees_tree (b := b) (f := newTimes b.conf) (g := setBridgeTimes)
    (fun s t hs => hs ▸ setBridgeTimes_tree s t) hregion.trees.nodup (Eq.refl b.conf)
  set s := b.forTrees b.conf.trees setBridgeTimes
  have hid : ∀ t, (s.tree t).BridgeIdentifier = (b.tree t).BridgeIdentifier := by
    intro t
    rw [hloop.2]
    dsimp only
    split <;> rfl
  refine ⟨hloop.1 ▸ htimes, hloop.1 ▸ hregion, fun t ht => ?_⟩
  rw [hloop.1] at ht
  obtain ⟨hident, hmsg⟩ := htree t ht
  have hnew : s.tree t = newTimes b.conf (b.tree t) := by
    rw [hloop.2]
    exact if_pos ht
  refine ⟨⟨?_, by rw [hid, hid, hident.mac], by rw [hid, hident.mstid]⟩, ?_⟩
  · rw [hid, ← hident.own, hnew]
    rfl
  · rw [hnew, hloop.1]
    simp only [newTimes, bridgeTimes, hmsg]

theorem setCistBridgeConfig_configured {cfg : CistBridgeConfig}
    (h : setCistBridgeConfig c cfg b = some b') (hb : Configured digest b) :
    Configured digest b' := by
  rw [setCistBridgeConfig] at h
  split at h
  · exact Option.some.inj h ▸ hb
  rename_i hvalid
  obtain ⟨htimes, hregion, htree⟩ := hb
  have hnew := valid_timesOk (by simpa using hvalid) htimes
  dsimp only at h
  set conf := cfg.apply b.conf with hconf
  set s₀ : Bridge := { b with conf := conf }
  have hhold : ∀ {d : Bool}, Kept s₀
      (if d then
        s₀.forPorts conf.ports (fun b p => b.setPort p (fun prt => { prt with txCount := 0 }))
      else s₀) := by
    intro d
    split
    · exact Kept.forPorts (fun b p => (Kept.refl b).setPort p _) (.refl s₀) _
    · exact .refl s₀
  have hkept : ∀ (d e : Bool), (e = false → bridgeTimes conf = bridgeTimes b.conf) →
      Configured digest (
        let s :=
          if d then
            s₀.forPorts conf.ports (fun b p => b.setPort p (fun prt => { prt with txCount := 0 }))
          else s₀
        if e then s.forTrees s.conf.trees setBridgeTimes else s) := by
    intro d e he
    have hs := hhold (d := d)
    cases e with
    | false =>
        refine hs.configured ⟨hnew, { hregion with }, fun t ht => ?_⟩
        exact { htree t ht with times := (htree t ht).times.trans (he rfl).symm }
    | true =>
        refine forTrees_setBridgeTimes ?_ ?_ (fun t ht => ⟨hs.ident ?_, ?_⟩)
        · rw [hs.conf]
          exact { hnew with }
        · rw [hs.conf]
          exact { hregion with }
        · rw [hs.conf] at ht
          exact { (htree t ht).toIdent with }
        · rw [hs.conf] at ht
          have hheld := hs.tree t
          simp only [Prod.mk.injEq] at hheld
          rw [hheld.2.2]
          exact congrArg Times.Message_Age (htree t ht).times
  have hfinal := hkept (conf.Transmit_Hold_Count != b.conf.Transmit_Hold_Count)
    (conf.Max_Age != b.conf.Max_Age || conf.Forward_Delay != b.conf.Forward_Delay ||
      conf.MaxHops != b.conf.MaxHops || conf.Hello_Time != b.conf.Hello_Time) (fun he => by
    simp only [Bool.or_eq_false_iff, bne_eq_false_iff_eq] at he
    obtain ⟨⟨⟨hage, hdelay⟩, hhops⟩, hhello⟩ := he
    simp only [bridgeTimes, hage, hdelay, hhops, hhello])
  exact configured_any_if hfinal h

/-! ### Trees that come and go -/

/-- A new priority leaves the MSTID in an identifier. -/
theorem setPriority_low (pri : UInt8) (id : UInt16) :
    setPriority pri id &&& (0x0FFF : UInt16) = id &&& (0x0FFF : UInt16) := by
  apply UInt16.eq_of_toBitVec_eq
  ext i hi
  simp only [setPriority]
  interval_cases i <;> simp

/-- The MSTID in the first identifier of a tree. -/
theorem or_priority_low {t : Mstid} (ht : t.toNat ≤ MAX_MSTID) :
    (0x8000 ||| t) &&& (0x0FFF : UInt16) = t := by
  have hlt : t.toBitVec.toNat < 2 ^ 12 := lt_of_le_of_lt ht (by decide)
  apply UInt16.eq_of_toBitVec_eq
  ext i hi
  have hbit : 12 ≤ i → t.toBitVec[i] = false := by
    intro h12
    rw [BitVec.getElem_eq_testBit_toNat]
    exact Nat.testBit_lt_two_pow (lt_of_lt_of_le hlt (Nat.pow_le_pow_right (by omega) h12))
  interval_cases i <;> simp_all

/-- A new priority for one tree. -/
theorem setTree_configured {t : Mstid} {f : Tree → Tree} (hb : Configured digest b)
    (hid : t ∈ b.conf.trees → (f (b.tree t)).BridgePriority =
        ownVector (f (b.tree t)).BridgeIdentifier ∧
      (f (b.tree t)).BridgeIdentifier.mac_address = (b.tree t).BridgeIdentifier.mac_address ∧
      (f (b.tree t)).BridgeIdentifier.priority &&& (0x0FFF : UInt16) =
        (b.tree t).BridgeIdentifier.priority &&& (0x0FFF : UInt16) ∧
      (f (b.tree t)).BridgeTimes = (b.tree t).BridgeTimes) : Configured digest (b.setTree t f) := by
  obtain ⟨htimes, hregion, htree⟩ := hb
  refine ⟨htimes, hregion, fun u hu => ?_⟩
  have hzero : (0 : Mstid) ∈ b.conf.trees := by
    obtain ⟨l, hl⟩ := hregion.trees.cist
    rw [hl]
    exact List.mem_cons_self
  have hmac : ∀ u ∈ b.conf.trees, ((b.setTree t f).tree u).BridgeIdentifier.mac_address =
      (b.tree u).BridgeIdentifier.mac_address := by
    intro u hu
    rw [setTree_tree]
    split
    · rename_i h
      rw [h] at hu ⊢
      exact (hid hu).2.1
    · rfl
  have hu' := htree u hu
  by_cases hut : u = t
  · subst hut
    obtain ⟨hown, -, hlow, ht⟩ := hid hu
    refine ⟨⟨?_, ?_, ?_⟩, ?_⟩
    · rw [setTree_tree_self, hown]
    · rw [hmac u hu, hmac 0 hzero, hu'.mac]
    · rw [setTree_tree_self, hlow, hu'.mstid]
    · rw [setTree_tree_self, ht, hu'.times]
      rfl
  · have hsame : (b.setTree t f).tree u = b.tree u := by rw [setTree_tree, if_neg hut]
    refine ⟨⟨by rw [hsame, hu'.own], ?_, by rw [hsame, hu'.mstid]⟩, by rw [hsame, hu'.times]; rfl⟩
    rw [hmac u hu, hmac 0 hzero, hu'.mac]

theorem setMstiBridgeConfig_configured {t : Mstid} {pri : UInt8} (hb : Configured digest b) :
    Configured digest (setMstiBridgeConfig t pri b) := by
  rw [setMstiBridgeConfig]
  split
  · exact hb
  dsimp only
  split
  · exact hb
  have hask : ∀ s, Kept s (reselectTree s t) := by
    intro s
    unfold reselectTree
    exact (Kept.refl s).setPtps _ _
  refine (hask _).configured (setTree_configured hb fun ht => ?_)
  refine ⟨?_, rfl, setPriority_low _ _, rfl⟩
  rw [(hb.tree t ht).own]
  rfl

/-- The MSTIDs before the new one are smaller, those after it are not. -/
theorem insertMstid_split {t : Mstid} {l l' : List Mstid} (hl : l.Pairwise (· < ·))
    (h : insertMstid t l = some l') :
    ∃ before after, before ≠ [] ∧ l = before ++ after ∧ l' = before ++ t :: after ∧
      (∀ u ∈ before, u < t) ∧ ∀ u ∈ after, ¬ u < t := by
  simp only [insertMstid] at h
  split_ifs at h with hbefore
  refine ⟨_, _, hbefore, ?_, (Option.some.inj h).symm, fun u hu => ?_, fun u hu => ?_⟩
  · rw [← List.reverse_append, List.takeWhile_append_dropWhile, List.reverse_reverse]
  · rw [List.mem_reverse] at hu
    cases hd : l.reverse.dropWhile (fun t' => !decide (t' < t)) with
    | nil => simp [hd] at hu
    | cons y ys =>
        -- the last of them is smaller than the new one, and the list is ordered
        have hy : y < t := by
          have hhead := List.head?_dropWhile_not (fun t' => !decide (t' < t)) l.reverse
          rw [hd] at hhead
          simpa using hhead
        have hsorted : (y :: ys).Pairwise (fun x z => z < x) := by
          rw [← hd]
          exact (List.pairwise_reverse.mpr hl).sublist (List.dropWhile_sublist _)
        rw [hd] at hu
        rcases List.mem_cons.mp hu with rfl | hu
        · exact hy
        · exact UInt16.lt_trans (List.rel_of_pairwise_cons hsorted hu) hy
  · rw [List.mem_reverse] at hu
    simpa using List.mem_takeWhile_imp hu

/-- **A new MSTID is put in its place.** -/
theorem insertMstid_treesOk {t : Mstid} {l l' : List Mstid} (hl : TreesOk l)
    (ht : t ∉ l) (hbound : t.toNat ≤ MAX_MSTID) (hlen : l.length ≤ MAX_IMPLEMENTATION_MSTIS)
    (h : insertMstid t l = some l') : TreesOk l' := by
  obtain ⟨before, after, hne, rfl, rfl, hbefore, hafter⟩ := insertMstid_split hl.sorted h
  have hgt : ∀ u ∈ after, t < u := by
    intro u hu
    refine UInt16.lt_of_le_of_ne (UInt16.not_lt.mp (hafter u hu)) ?_
    rintro rfl
    exact ht (List.mem_append_right _ hu)
  refine ⟨?_, ?_, fun u hu => ?_, ?_⟩
  · obtain ⟨rest, hrest⟩ := hl.cist
    obtain ⟨x, xs, rfl⟩ := List.exists_cons_of_ne_nil hne
    rw [List.cons_append] at hrest ⊢
    exact ⟨xs ++ t :: after, by rw [(List.cons.inj hrest).1]⟩
  · have hsorted := List.pairwise_append.mp hl.sorted
    refine List.pairwise_append.mpr ⟨hsorted.1, List.pairwise_cons.mpr ⟨hgt, hsorted.2.1⟩, ?_⟩
    intro x hx y hy
    rcases List.mem_cons.mp hy with rfl | hy
    · exact hbefore x hx
    · exact hsorted.2.2 x hx y hy
  · rcases mem_insertMstid h hu with rfl | hu
    · exact hbound
    · exact hl.bound u hu
  · simp only [List.length_append, List.length_cons] at hlen ⊢
    omega

theorem createMsti_configured {t : Mstid} (h : createMsti c t b = some b')
    (hb : Configured digest b) : Configured digest b' := by
  rcases createMsti_cases h with rfl | ⟨trees, ⟨ht, hpos, hbound, hins, hlen⟩, hr⟩
  · exact hb
  refine (tree_held hr).kept.configured ?_
  obtain ⟨htimes, hregion, htree⟩ := hb
  have htrees := insertMstid_treesOk hregion.trees ht hbound hlen hins
  have hmem : ∀ u ∈ b.conf.trees, u ∈ trees := by
    obtain ⟨before, after, -, heq, rfl⟩ := insertMstid_eq hins
    intro u hu
    rw [heq] at hu
    exact (List.mem_append.mp hu).elim (List.mem_append_left _)
      (fun hu => List.mem_append_right _ (List.mem_cons_of_mem _ hu))
  have hne : (0 : Mstid) ≠ t := by
    rintro rfl
    exact absurd hpos (by decide)
  have hzero : (newTree b t trees).tree 0 = b.tree 0 := if_neg hne
  refine ⟨{ htimes with }, ⟨htrees, fun fid hf => hmem _ (hregion.fids fid hf), hregion.vids,
    hregion.digest⟩, fun u hu => ?_⟩
  by_cases hut : u = t
  · have hnew : (newTree b t trees).tree u =
        createTree b.conf (b.tree 0).BridgeIdentifier.mac_address t := if_pos hut
    refine ⟨⟨?_, ?_, ?_⟩, ?_⟩
    · rw [hnew]
      rfl
    · rw [hnew, hzero]
      rfl
    · rw [hnew, hut]
      exact or_priority_low hbound
    · rw [hnew]
      rfl
  · have hold : (newTree b t trees).tree u = b.tree u := if_neg hut
    have hu' := htree u ((mem_insertMstid hins hu).resolve_left hut)
    exact ⟨⟨by rw [hold, hu'.own], by rw [hold, hzero, hu'.mac], by rw [hold, hu'.mstid]⟩,
      by rw [hold, hu'.times]; rfl⟩

theorem deleteMsti_configured {t : Mstid} (h : deleteMsti c t b = some b')
    (hb : Configured digest b) : Configured digest b' := by
  rw [deleteMsti] at h
  split at h
  · exact Option.some.inj h ▸ hb
  rename_i hcond
  push Not at hcond
  obtain ⟨hpos, -, hused, -⟩ := hcond
  refine (run_held h).kept.configured ?_
  obtain ⟨htimes, hregion, htree⟩ := hb
  have hsub : List.Sublist (b.conf.trees.erase t) b.conf.trees := List.erase_sublist
  refine ⟨{ htimes with }, ⟨⟨?_, ?_, fun u hu => ?_, ?_⟩, fun fid hf => ?_, hregion.vids,
    hregion.digest⟩, fun u hu => { htree u (hsub.subset hu) with }⟩
  · obtain ⟨l, hl⟩ := hregion.trees.cist
    refine ⟨l.erase t, ?_⟩
    have hne : ((0 : Mstid) == t) = false := by
      rw [beq_eq_false_iff_ne]
      rintro rfl
      exact absurd hpos (by decide)
    rw [hl, List.erase_cons, hne]
    rfl
  · exact hregion.trees.sorted.sublist hsub
  · exact hregion.trees.bound u (hsub.subset hu)
  · exact hsub.length_le.trans hregion.trees.few
  · -- no FID is mapped to the tree
    have hunused : ∀ fid < MAX_FID + 1, ¬ b.conf.fid2mstid fid = t := by simpa using hused
    exact (List.mem_erase_of_ne (hunused fid (Nat.lt_succ_of_le hf))).mpr (hregion.fids fid hf)

end Trees

/-! ## Requests for the region -/

section Region

theorem mem_vids {vid : Nat} : vid ∈ vids ↔ 1 ≤ vid ∧ vid ≤ MAX_VID := by
  rw [vids, List.range_succ_eq_map, List.tail_cons, List.mem_map]
  constructor
  · rintro ⟨n, hn, rfl⟩
    rw [List.mem_range] at hn
    omega
  · intro h
    exact ⟨vid - 1, List.mem_range.mpr (by omega), by omega⟩

/-- The digest depends on the trees of the VLANs only. -/
theorem digestTable_congr {conf conf' : BridgeConf}
    (h : ∀ vid ∈ vids, conf'.vid2mstid vid = conf.vid2mstid vid) :
    conf'.digestTable = conf.digestTable := by
  unfold BridgeConf.digestTable
  refine List.map_congr_left fun vid hvid => ?_
  split_ifs with hout
  · rfl
  · rw [List.mem_range] at hvid
    exact h vid (mem_vids.mpr (by omega))

/-- A new mapping, for which the digest is computed if a VLAN has another tree. -/
theorem remapped_configured {changed : Bool} {v : Nat → Nat} {f : Nat → Mstid}
    (h : remapped digest c changed
      { b with conf := { b.conf with vid2fid := v, fid2mstid := f } } = some b')
    (hf : ∀ fid ≤ MAX_FID, f fid ∈ b.conf.trees) (hv : ∀ vid ∈ vids, v vid ≤ MAX_FID)
    (hsame : changed = false → ∀ vid ∈ vids, f (v vid) = b.conf.vid2mstid vid)
    (hb : Configured digest b) : Configured digest b' := by
  obtain ⟨htimes, hregion, htree⟩ := hb
  rw [remapped] at h
  split at h
  · refine (br_held h).kept.configured ⟨{ htimes with }, ⟨hregion.trees, hf, hv, rfl⟩, fun t ht => ?_⟩
    exact { htree t ht with }
  · rename_i hchanged
    refine Option.some.inj h ▸ ⟨{ htimes with }, ⟨hregion.trees, hf, hv, ?_⟩, fun t ht => ?_⟩
    · have htable : BridgeConf.digestTable { b.conf with vid2fid := v, fid2mstid := f } =
          b.conf.digestTable :=
        digestTable_congr (hsame (by simpa using hchanged))
      exact hregion.digest.trans (congrArg digest htable.symm)
    · exact { htree t ht with }

theorem setVid2fid_configured {vid fid : Nat} (h : setVid2fid digest c vid fid b = some b')
    (hb : Configured digest b) : Configured digest b' := by
  rw [setVid2fid] at h
  split at h
  · exact Option.some.inj h ▸ hb
  rename_i hcond
  push Not at hcond
  refine remapped_configured h hb.region.fids (fun v hv => ?_) (fun hchanged v hv => ?_) hb
  · split
    · exact hcond.2.2
    · exact hb.region.vids v hv
  · rw [bne_eq_false_iff_eq] at hchanged
    split
    · rename_i hvid
      rw [hvid, hchanged]
    · rfl

theorem setAllVids2fids_configured {l : Nat → Nat}
    (h : setAllVids2fids digest c l b = some b') (hb : Configured digest b) :
    Configured digest b' := by
  rw [setAllVids2fids] at h
  refine remapped_configured h hb.region.fids (fun v hv => ?_) (fun hchanged v hv => ?_) hb
  · obtain ⟨hv1, hv2⟩ := mem_vids.mp hv
    split_ifs with h0 hset
    · omega
    · exact hset.2
    · exact hb.region.vids v hv
  · obtain ⟨hv1, hv2⟩ := mem_vids.mp hv
    split_ifs with h0 hset
    · omega
    · have hkeep := List.any_eq_false.mp hchanged v hv
      simpa [hset.2] using hkeep
    · rfl

theorem setFid2mstid_configured {fid : Nat} {mstid : Mstid}
    (h : setFid2mstid digest c fid mstid b = some b') (hb : Configured digest b) :
    Configured digest b' := by
  rw [setFid2mstid] at h
  split at h
  · exact Option.some.inj h ▸ hb
  rename_i hcond
  push Not at hcond
  split at h
  · exact Option.some.inj h ▸ hb
  refine remapped_configured h (fun f hf => ?_) hb.region.vids (fun hunused v hv => ?_) hb
  · split
    · exact hcond.2
    · exact hb.region.fids f hf
  · have hne : b.conf.vid2fid v ≠ fid := by
      simpa using List.any_eq_false.mp hunused v hv
    rw [if_neg hne]
    rfl

theorem setAllFids2mstids_configured {l : Nat → Mstid}
    (h : setAllFids2mstids digest c l b = some b') (hb : Configured digest b) :
    Configured digest b' := by
  rw [setAllFids2mstids] at h
  dsimp only at h
  split at h
  · exact Option.some.inj h ▸ hb
  rename_i hcond
  refine remapped_configured h (fun f hf => ?_) hb.region.vids (fun hchanged v hv => ?_) hb
  · have hall := List.any_eq_false.mp (by simpa only [Bool.not_eq_true] using hcond) f
      (List.mem_range.mpr (Nat.lt_succ_of_le hf))
    simpa using hall
  · have hkeep := List.any_eq_false.mp hchanged v hv
    exact (by simpa using hkeep : b.conf.vid2mstid v = _).symm

theorem setMstConfigId_configured {revision : UInt16} {name : Vector UInt8 32}
    (h : setMstConfigId c revision name b = some b') (hb : Configured digest b) :
    Configured digest b' := by
  have hid : ∀ id : MstConfigId,
      id.configuration_digest = b.conf.MstConfigId.configuration_digest →
      Configured digest { b with conf := { b.conf with MstConfigId := id } } := by
    intro id hdigest
    obtain ⟨htimes, hregion, htree⟩ := hb
    refine ⟨{ htimes with }, ⟨hregion.trees, hregion.fids, hregion.vids, ?_⟩, fun t ht => ?_⟩
    · exact hdigest.trans hregion.digest
    · exact { htree t ht with }
  rw [setMstConfigId] at h
  split at h
  · exact Option.some.inj h ▸ hb
  · exact (br_held h).kept.configured (hid _ rfl)

end Region

/-! ## Over all runs -/

section Runs

variable {mac : BitVec 48} {tr : List Output}
  {vs : List (Visit Bridge (Event × Budget) Output)}

theorem configured_bridgeCreate (mac : BitVec 48) :
    Configured digest (bridgeCreate digest mac) := by
  have htimes : (initConf mac).TimesOk := by
    constructor
    all_goals
      simp only [initConf]
      decide
  refine ⟨{ htimes with }, ⟨⟨⟨[], rfl⟩, List.pairwise_singleton _ _, ?_, Nat.le_add_left 1 _⟩,
    fun _ _ => List.mem_cons_self, fun _ _ => Nat.zero_le _, rfl⟩, fun t ht => ?_⟩
  · intro t ht
    obtain rfl := List.mem_singleton.mp ht
    decide
  · obtain rfl := List.mem_singleton.mp ht
    exact ⟨⟨rfl, rfl, or_priority_low (by decide)⟩, rfl⟩

/-- **Every event leaves the parameters consistent.** -/
theorem handle_configured {e : Event} (h : e.handle digest c b = some b')
    (hb : Configured digest b) : Configured digest b' := by
  cases e with
  | portCreate p name portno => exact (portCreate_kept h).configured hb
  | deletePort p => exact (deletePort_kept h).configured hb
  | setBridgeAddress mac => exact setBridgeAddress_configured h hb
  | setBridgeEnable up => exact (setBridgeEnable_kept h).configured hb
  | setPortEnable p up speed duplex => exact (setPortEnable_kept h).configured hb
  | oneSecond => exact (oneSecond_kept h).configured hb
  | frame p mem len => exact (bridgeBpduRcv_kept h).configured hb
  | setCistBridgeConfig cfg => exact setCistBridgeConfig_configured h hb
  | setMstiBridgeConfig t pri => exact Option.some.inj h ▸ setMstiBridgeConfig_configured hb
  | setCistPortConfig p cfg => exact (setCistPortConfig_kept h).configured hb
  | setMstiPortConfig p t cfg => exact (setMstiPortConfig_kept h).configured hb
  | portMcheck p => exact (portMcheck_kept h).configured hb
  | setVid2fid vid fid => exact setVid2fid_configured h hb
  | setAllVids2fids l =>
      rw [Event.handle] at h
      exact setAllVids2fids_configured h hb
  | setFid2mstid fid mstid => exact setFid2mstid_configured h hb
  | setAllFids2mstids l =>
      rw [Event.handle] at h
      exact setAllFids2mstids_configured h hb
  | setMstConfigId revision name => exact setMstConfigId_configured h hb
  | createMsti t => exact createMsti_configured h hb
  | deleteMsti t => exact deleteMsti_configured h hb

theorem reachable_configured (h : Exec (mstpd digest) (bridgeCreate digest mac) vs tr b) :
    Configured digest b := by
  refine h.inv (fun b _ => Configured digest b) (configured_bridgeCreate mac) ?_
  intro s _ a s' evs hs hstep
  obtain ⟨u, hu, heq⟩ := Option.map_eq_some_iff.mp hstep
  obtain ⟨rfl, -⟩ := Prod.mk.inj heq
  have hout : ∀ (b : Bridge) (l : List Output), Kept b { b with out := l } :=
    fun _ _ => ⟨rfl, fun _ => rfl⟩
  exact (hout u []).configured (handle_configured hu ((hout s []).configured hs))

/-- **The parameters of a bridge.** In every state of the daemon the times of the bridge are within
the bounds of the standard, a message does not age longer than two forward delays allow, and every
tree announces these times. -/
theorem bridge_parameters (h : Exec (mstpd digest) (bridgeCreate digest mac) vs tr b) :
    (6 ≤ b.conf.Max_Age ∧ b.conf.Max_Age ≤ 40) ∧
      (4 ≤ b.conf.Forward_Delay ∧ b.conf.Forward_Delay ≤ 30) ∧
      (b.conf.Max_Age.toNat : Int) ≤ 2 * ((b.conf.Forward_Delay.toNat : Int) - 1) ∧
      (6 ≤ b.conf.MaxHops ∧ b.conf.MaxHops ≤ 40) ∧
      (1 ≤ b.conf.Hello_Time ∧ b.conf.Hello_Time ≤ 10) ∧
      (1 ≤ b.conf.Transmit_Hold_Count ∧ b.conf.Transmit_Hold_Count ≤ 10) ∧
      ∀ t ∈ b.conf.trees, (b.tree t).BridgeTimes =
        ⟨b.conf.MaxHops, b.conf.Forward_Delay, b.conf.Max_Age, 0, b.conf.Hello_Time⟩ := by
  obtain ⟨htimes, -, htree⟩ := reachable_configured h
  exact ⟨htimes.maxAge, htimes.forwardDelay, htimes.fit, htimes.maxHops, htimes.helloTime,
    htimes.hold, fun t ht => (htree t ht).times⟩

/-- **The region of a bridge.** In every state of the daemon the list of trees begins with the CIST,
is ordered and has at most 63 MSTIs; every VLAN is mapped to one of these trees; and the
configuration digest the bridge announces is that of the mapping it uses. -/
theorem region_consistent (h : Exec (mstpd digest) (bridgeCreate digest mac) vs tr b) :
    (∃ mstis, b.conf.trees = 0 :: mstis ∧ mstis.length ≤ MAX_IMPLEMENTATION_MSTIS) ∧
      b.conf.trees.Pairwise (· < ·) ∧
      (∀ vid, 1 ≤ vid → vid ≤ MAX_VID → b.conf.vid2mstid vid ∈ b.conf.trees) ∧
      b.conf.MstConfigId.configuration_digest = digest b.conf.digestTable := by
  obtain ⟨-, ⟨htrees, hfids, hvids, hdigest⟩, -⟩ := reachable_configured h
  refine ⟨?_, htrees.sorted, fun vid h1 h2 => ?_, hdigest⟩
  · obtain ⟨l, hl⟩ := htrees.cist
    have hfew := htrees.few
    rw [hl, List.length_cons] at hfew
    exact ⟨l, hl, by omega⟩
  · exact hfids _ (hvids vid (mem_vids.mpr ⟨h1, h2⟩))

end Runs

/-! ## A run -/

/-- No region has been configured. -/
def noDigest : List Mstid → Vector UInt8 16 := fun _ => .replicate 16 0

/-- Two MSTIs are made, the second one before the first, and a VLAN is mapped to one of them. -/
def regionRun : List (Event × Budget) :=
  [.createMsti 7, .createMsti 5, .setVid2fid 10 1, Event.setFid2mstid 1 5].map
    (fun e => (e, ⟨9, 30⟩))

set_option maxRecDepth 100000 in
/-- The times of a new bridge are those of its MSTIs. -/
theorem bridge_parameters_regionRun : ∃ vs tr b,
    Exec (mstpd noDigest) (bridgeCreate noDigest 0x020000000001) vs tr b ∧
      vs.map Visit.act = regionRun ∧ (b.tree 5).BridgeTimes = ⟨20, 15, 20, 0, 2⟩ ∧
      (b.conf.Max_Age.toNat : Int) ≤ 2 * ((b.conf.Forward_Delay.toNat : Int) - 1) := by
  obtain ⟨vs, tr, b, hvs, hact, htimes⟩ :=
    Exec.replay_of (mstpd noDigest) (bridgeCreate noDigest 0x020000000001) regionRun
      (fun b => (b.tree 5).BridgeTimes = ⟨20, 15, 20, 0, 2⟩) (by decide +kernel)
  exact ⟨vs, tr, b, hvs, hact, htimes, (bridge_parameters hvs).2.2.1⟩

set_option maxRecDepth 100000 in
/-- The MSTIs are in order, and the VLAN belongs to one of them. -/
theorem region_consistent_regionRun : ∃ vs tr b,
    Exec (mstpd noDigest) (bridgeCreate noDigest 0x020000000001) vs tr b ∧
      vs.map Visit.act = regionRun ∧ b.conf.trees = [0, 5, 7] ∧ b.conf.vid2mstid 10 = 5 ∧
      b.conf.vid2mstid 10 ∈ b.conf.trees := by
  obtain ⟨vs, tr, b, hvs, hact, htrees, hvid⟩ :=
    Exec.replay_of (mstpd noDigest) (bridgeCreate noDigest 0x020000000001) regionRun
      (fun b => b.conf.trees = [0, 5, 7] ∧ b.conf.vid2mstid 10 = 5) (by decide +kernel)
  exact ⟨vs, tr, b, hvs, hact, htrees, hvid,
    (region_consistent hvs).2.2.1 10 (by decide) (by decide)⟩

end Mstpd
