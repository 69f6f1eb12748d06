import TfPack.Mstpd.Steps

set_option autoImplicit false

/-! # The spanning tree daemon: every event is a chain of small steps

One lemma for each event of the daemon, and the rule that what every small step keeps holds in every
state a run reaches (`reachable_keeps`).
-/

namespace Mstpd

open StepMachine

variable {b b' b'' : Bridge} {c : Budget}

section Events

variable {victim : Option PortRef} {p : PortRef} {t : Mstid}

theorem deletePort_steps (h : deletePort c p b = some b') : Steps c (some p) b b' := by
  rw [deletePort] at h
  split at h
  · exact steps_self h
  · obtain ⟨s, hs, hr⟩ := Option.bind_eq_some_iff.mp h
    have hmark : Input (some p) b
        (b.setPort p (fun prt => { prt with deleted := true, portEnabled := false })) :=
      (Input.refl b).changePort p (fun _ => .inr ⟨rfl, rfl⟩)
    have hstopped : Steps c (some p) b s := by
      split at hs
      · exact steps_input_run hmark hs
      · exact Option.some.inj hs ▸ steps_input hmark
    refine (hstopped.tail (.input ?_)).tail (.run hr)
    exact (Input.refl s).setConf rfl List.erase_sublist (.refl _)

theorem setBridgeAddress_steps {mac : BitVec 48} (h : setBridgeAddress c mac b = some b') :
    Steps c victim b b' := by
  refine steps_begin_if (Input.forTrees (fun b t => ?_) (.refl b) _) h
  refine (Input.refl b).setTree t (fun x => ?_)
  split <;> rfl

theorem setPortEnable_steps {up : Bool} {speed duplex : Int}
    (h : setPortEnable c p up speed duplex b = some b') : Steps c victim b b' := by
  rw [setPortEnable] at h
  split at h
  · exact steps_self h
  split at h
  · refine steps_run_if ?_ h
    refine (((Input.refl b).setPort p (by intros; rfl)).setPtps _ (by intros; rfl)).setPort p
      (fun x => ?_)
    unfold enablePort
    split <;> rfl
  · split at h
    · exact steps_input_run ((Input.refl b).setPort p (by intros; rfl)) h
    · exact steps_self h

theorem input_setUptime (b : Bridge) (n : Nat) : Input victim b { b with uptime := n } :=
  ⟨rfl, .refl _, .refl _, fun _ => .inl rfl, fun _ => rfl, fun _ _ => rfl,
    fun _ _ => asks_none _, rfl⟩

theorem input_checkTopologyChange (b : Bridge) (t : Mstid) :
    Input victim b (checkTopologyChange b t) := by
  unfold checkTopologyChange
  refine (Input.refl b).setTree t (fun x => ?_)
  split_ifs <;> rfl

theorem input_ptsmTick (b : Bridge) (p : PortRef) : Input victim b (ptsmTick b p) := by
  refine Input.forPlaces (fun b p t => ?_) ((Input.refl b).setPort p (by intros; rfl)) _
  have htick : Input victim b (b.setPtp p t tickPtp) :=
    (Input.refl b).setPtps _ (by intros; rfl)
  dsimp only
  split
  · exact htick.trans (input_checkTopologyChange _ t)
  · exact htick

theorem input_tickAgeing (b : Bridge) (p : PortRef) : Input victim b (tickAgeing b p) := by
  dsimp only [tickAgeing]
  split
  · exact ((Input.refl b).setPort p (by intros; rfl)).emit _ rfl
  · exact (Input.refl b).setPort p (by intros; rfl)

theorem oneSecond_steps (h : oneSecond c b = some b') : Steps c victim b b' := by
  have hup : Input victim b { b with uptime := b.uptime + 1 } := input_setUptime b _
  rw [oneSecond] at h
  split at h
  · exact Option.some.inj h ▸ steps_input hup
  · refine steps_input_run ?_ h
    refine Input.forPorts (fun b p => (input_ptsmTick b p).trans (input_tickAgeing _ p)) ?_ _
    refine Input.forTrees (fun b t => (Input.refl b).setTree t (fun x => ?_)) hup _
    split <;> rfl

theorem bridgeBpduRcv_steps {mem : Nat → UInt8} {len : Nat}
    (h : bridgeBpduRcv c p mem len b = some b') : Steps c victim b b' := by
  rw [bridgeBpduRcv] at h
  split at h
  · exact steps_self h
  split at h
  · exact steps_self h
  have hrx : Input victim b
      (b.setPort p (fun prt => { prt with num_rx_bpdu := prt.num_rx_bpdu + 1 })) :=
    (Input.refl b).setPort p (by intros; rfl)
  rw [rxBpdu] at h
  split at h
  · exact Option.some.inj h ▸ steps_input ((hrx.setPort p (by intros; rfl)).emit _ rfl)
  split at h
  · exact Option.some.inj h ▸ steps_input (hrx.setPort p (by intros; rfl))
  split at h
  · exact Option.some.inj h ▸ steps_input hrx
  split at h
  · exact Option.some.inj h ▸ steps_input hrx
  split at h
  · exact Option.some.inj h ▸ steps_input hrx
  · exact steps_input_run ((hrx.setPort p (by intros; rfl)).setPort p (by intros; rfl)) h

theorem input_setBridgeTimes (b : Bridge) (t : Mstid) : Input victim b (setBridgeTimes b t) := by
  unfold setBridgeTimes
  exact ((Input.refl b).setTree t (by intros; rfl)).askPtps _ (by intros; rfl)

theorem input_reselectTree (b : Bridge) (t : Mstid) : Input victim b (reselectTree b t) := by
  unfold reselectTree
  exact (Input.refl b).askPtps _ (by intros; rfl)

theorem setCistBridgeConfig_steps {cfg : CistBridgeConfig}
    (h : setCistBridgeConfig c cfg b = some b') : Steps c victim b b' := by
  rw [setCistBridgeConfig] at h
  split at h
  · exact steps_self h
  have hhold : ∀ {b : Bridge} {d : Bool}, Input victim b
      (if d then
        b.forPorts b.conf.ports (fun b p => b.setPort p (fun prt => { prt with txCount := 0 }))
      else b) := by
    intro b d
    split
    · exact Input.forPorts (fun b p => (Input.refl b).setPort p (by intros; rfl)) (.refl b) _
    · exact .refl b
  have htimes : ∀ {b : Bridge} {d : Bool},
      Input victim b (if d then b.forTrees b.conf.trees setBridgeTimes else b) := by
    intro b d
    split
    · exact Input.forTrees input_setBridgeTimes (.refl b) _
    · exact .refl b
  refine steps_any_if (Input.trans (Input.trans ?_ hhold) htimes) h
  exact (Input.refl b).setConf rfl (.refl _) (.refl _)

theorem input_setMstiBridgeConfig (t : Mstid) (pri : UInt8) (b : Bridge) :
    Input victim b (setMstiBridgeConfig t pri b) := by
  rw [setMstiBridgeConfig]
  split
  · exact .refl b
  dsimp only
  split
  · exact .refl b
  · exact Input.trans ((Input.refl b).setTree t (by intros; rfl)) (input_reselectTree _ t)

theorem setCistPortConfig_steps {cfg : CistPortConfig}
    (h : setCistPortConfig c p cfg b = some b') : Steps c victim b b' := by
  have hask : ∀ {b : Bridge} {d : Bool}, Input victim b
      (if d then b.setPtp p 0 (fun x => { x with selected := false, reselect := true }) else b) := by
    intro b d
    split
    · exact (Input.refl b).askPtps _ (by intros; rfl)
    · exact .refl b
  have hedge : ∀ {b : Bridge} {d : Bool}, Input victim b (if d then bdsmBegin b p else b) := by
    intro b d
    split
    · unfold bdsmBegin bdsmTo
      exact (Input.refl b).setPort p (by intros; rfl)
    · exact .refl b
  rw [setCistPortConfig] at h
  split at h
  · exact steps_self h
  · exact steps_run_if ((((Input.refl b).setPort p (by intros; rfl)).trans hask).trans hedge) h

theorem setMstiPortConfig_steps {cfg : MstiPortConfig}
    (h : setMstiPortConfig c p t cfg b = some b') : Steps c victim b b' := by
  have hset : ∀ {b : Bridge} {portId : UInt16} {admin cost : UInt32},
      Input victim b (b.setPtp p t (fun x =>
        { x with
          portId := portId
          AdminInternalPortPathCost := admin
          InternalPortPathCost := cost })) := by
    intro b portId admin cost
    exact (Input.refl b).setPtps _ (by intros; rfl)
  rw [setMstiPortConfig] at h
  split at h
  · exact steps_self h
  · exact steps_ask_if hset h

theorem portMcheck_steps (h : portMcheck c p b = some b') : Steps c victim b b' := by
  rw [portMcheck] at h
  split at h
  · exact steps_self h
  split at h
  · exact steps_input_run
      (((Input.refl b).setPort p (by intros; rfl)).setPtps _ (by intros; rfl)) h
  · exact steps_self h

end Events

section Region

variable {digest : List Mstid → Vector UInt8 16} {victim : Option PortRef}

theorem input_vid2fid (b : Bridge) (f : Nat → Nat) :
    Input victim b { b with conf := { b.conf with vid2fid := f } } :=
  (Input.refl b).setConf rfl (.refl _) (.refl _)

theorem input_fid2mstid (b : Bridge) (f : Nat → Mstid) :
    Input victim b { b with conf := { b.conf with fid2mstid := f } } :=
  (Input.refl b).setConf rfl (.refl _) (.refl _)

theorem input_setMstConfigId (b : Bridge) (id : MstConfigId) :
    Input victim b { b with conf := { b.conf with MstConfigId := id } } :=
  (Input.refl b).setConf rfl (.refl _) (.refl _)

theorem remapped_steps {changed : Bool} (hin : Input victim b b')
    (h : remapped digest c changed b' = some b'') : Steps c victim b b'' := by
  rw [remapped] at h
  split at h
  · exact steps_input_begin (hin.trans (input_setMstConfigId b' _)) h
  · exact Option.some.inj h ▸ steps_input hin

theorem setVid2fid_steps {vid fid : Nat} (h : setVid2fid digest c vid fid b = some b') :
    Steps c victim b b' := by
  rw [setVid2fid] at h
  split at h
  · exact steps_self h
  · exact remapped_steps (input_vid2fid b _) h

theorem setAllVids2fids_steps {l : Nat → Nat} (h : setAllVids2fids digest c l b = some b') :
    Steps c victim b b' := by
  rw [setAllVids2fids] at h
  exact remapped_steps (input_vid2fid b _) h

theorem setFid2mstid_steps {fid : Nat} {mstid : Mstid}
    (h : setFid2mstid digest c fid mstid b = some b') : Steps c victim b b' := by
  rw [setFid2mstid] at h
  split at h
  · exact steps_self h
  split at h
  · exact steps_self h
  · exact remapped_steps (input_fid2mstid b _) h

theorem setAllFids2mstids_steps {l : Nat → Mstid}
    (h : setAllFids2mstids digest c l b = some b') : Steps c victim b b' := by
  rw [setAllFids2mstids] at h
  dsimp only at h
  split at h
  · exact steps_self h
  · exact remapped_steps (input_fid2mstid b _) h

theorem setMstConfigId_steps {revision : UInt16} {name : Vector UInt8 32}
    (h : setMstConfigId c revision name b = some b') : Steps c victim b b' := by
  rw [setMstConfigId] at h
  split at h
  · exact steps_self h
  · exact steps_input_begin (input_setMstConfigId b _) h

theorem deleteMsti_steps {t : Mstid} (h : deleteMsti c t b = some b') : Steps c victim b b' := by
  rw [deleteMsti] at h
  split at h
  · exact steps_self h
  · have hin : Input victim b { b with conf := { b.conf with trees := b.conf.trees.erase t } } :=
      (Input.refl b).setConf rfl (.refl _) List.erase_sublist
    exact steps_input_run hin h

/-- **Every event is a chain of small steps.** -/
theorem handle_steps {e : Event} (h : e.handle digest c b = some b') :
    Steps c e.victim b b' := by
  cases e with
  | portCreate p name portno => exact .single (.portCreate p name portno h)
  | deletePort p => exact deletePort_steps h
  | setBridgeAddress mac => exact setBridgeAddress_steps h
  | setBridgeEnable up => exact .single (.enable up h)
  | setPortEnable p up speed duplex => exact setPortEnable_steps h
  | oneSecond => exact oneSecond_steps h
  | frame p mem len => exact bridgeBpduRcv_steps h
  | setCistBridgeConfig cfg => exact setCistBridgeConfig_steps h
  | setMstiBridgeConfig t pri =>
      exact Option.some.inj h ▸ steps_input (input_setMstiBridgeConfig t pri b)
  | setCistPortConfig p cfg => exact setCistPortConfig_steps h
  | setMstiPortConfig p t cfg => exact setMstiPortConfig_steps h
  | portMcheck p => exact portMcheck_steps h
  | setVid2fid vid fid => exact setVid2fid_steps h
  | setAllVids2fids l =>
      rw [Event.handle] at h
      exact setAllVids2fids_steps h
  | setFid2mstid fid mstid => exact setFid2mstid_steps h
  | setAllFids2mstids l =>
      rw [Event.handle] at h
      exact setAllFids2mstids_steps h
  | setMstConfigId revision name => exact setMstConfigId_steps h
  | createMsti t => exact .single (.createMsti t h)
  | deleteMsti t => exact deleteMsti_steps h

/-- What every small step keeps a chain of them keeps. -/
theorem Steps.keeps {I : Bridge → Prop}
    (hsmall : ∀ c victim b b', Small c victim b b' → I b → I b') (h : Steps c victim b b')
    (hb : I b) : I b' := by
  induction h with
  | refl => exact hb
  | tail _ hs ih => exact hsmall c victim _ _ hs ih

/-- **What every small step keeps holds in every state of a run.** -/
theorem reachable_keeps {I : Bridge → Prop} {mac : BitVec 48}
    (h0 : I (bridgeCreate digest mac)) (hout : ∀ b l, I b → I { b with out := l })
    (hsmall : ∀ c victim b b', Small c victim b b' → I b → I b')
    {vs : List (Visit Bridge (Event × Budget) Output)} {tr : List Output} {b : Bridge}
    (h : Exec (mstpd digest) (bridgeCreate digest mac) vs tr b) : I b := by
  refine h.inv (fun b _ => I b) h0 ?_
  intro s tr a s' evs hs hstep
  obtain ⟨u, hu, heq⟩ := Option.map_eq_some_iff.mp hstep
  obtain ⟨rfl, -⟩ := Prod.mk.inj heq
  exact hout _ _ ((handle_steps hu).keeps hsmall (hout s [] hs))

end Region

end Mstpd
