import TfPack.Mstpd.Invariants

set_option autoImplicit false

/-! # The spanning tree daemon: the steps an event consists of

Whatever happens to a bridge is a chain of small steps: what an event assigns before the machines
run (`Input`), a run of the machines, their beginning in the whole bridge, and the three events that
make new entries or reset all of them (`newPort`, `newTree`, `Reset`).
-/

namespace Mstpd

open Settling StepMachine

variable {b b' b'' : Bridge} {c : Budget}

/-! ## What the events assign to -/

/-- An entry without the fields that events assign to. -/
@[reducible] def PerTreePort.exceptInput (x : PerTreePort) : PerTreePort :=
  { x with
    fdWhile := 0, rrWhile := 0, rbWhile := 0, tcWhile := 0, rcvdInfoWhile := 0
    portId := 0, InternalPortPathCost := 0, AdminInternalPortPathCost := 0
    selected := false, reselect := false, portTimes := .zero, proposing := false }

/-- Nothing is done to the selection of a role, or it is asked for. -/
def Asks (x y : PerTreePort) : Prop :=
  (y.selected = x.selected ∧ y.reselect = x.reselect) ∨ (y.selected = false ∧ y.reselect = true)

theorem asks_none (x : PerTreePort) : Asks x x := .inl ⟨rfl, rfl⟩

theorem Asks.trans {x y z : PerTreePort} (h : Asks x y) (h' : Asks y z) : Asks x z := by
  rcases h' with ⟨hs, hr⟩ | h'
  · rcases h with h | h
    · exact .inl ⟨hs.trans h.1, hr.trans h.2⟩
    · exact .inr ⟨hs.trans h.1, hr.trans h.2⟩
  · exact .inr h'

/-- What an event does to a bridge that is on or off before and after it; `victim` is the port that
the event deletes. -/
structure Input (victim : Option PortRef) (b b' : Bridge) : Prop where
  enabled : b'.conf.bridgeEnabled = b.conf.bridgeEnabled
  ports : List.Sublist b'.conf.ports b.conf.ports
  trees : List.Sublist b'.conf.trees b.conf.trees
  deleted : ∀ p, (b'.port p).deleted = (b.port p).deleted ∨
    victim = some p ∧ (b'.port p).deleted = true
  prssm : ∀ t, (b'.tree t).PRSSM_state = (b.tree t).PRSSM_state
  same : ∀ p t, (b'.ptp p t).exceptInput = (b.ptp p t).exceptInput
  asks : ∀ p t, Asks (b.ptp p t) (b'.ptp p t)
  bpdus : b'.bpdus = b.bpdus

section Input

variable {victim : Option PortRef}

theorem Input.refl (b : Bridge) : Input victim b b :=
  ⟨rfl, .refl _, .refl _, fun _ => .inl rfl, fun _ => rfl, fun _ _ => rfl, fun _ _ => asks_none _,
    rfl⟩

theorem Input.trans (h : Input victim b b') (h' : Input victim b' b'') : Input victim b b'' :=
  ⟨h'.enabled.trans h.enabled, h'.ports.trans h.ports, h'.trees.trans h.trees,
    fun p => (h'.deleted p).elim (fun hd => (h.deleted p).imp hd.trans (And.imp_right hd.trans)) .inr,
    fun t => (h'.prssm t).trans (h.prssm t), fun p t => (h'.same p t).trans (h.same p t),
    fun p t => (h.asks p t).trans (h'.asks p t), h'.bpdus.trans h.bpdus⟩

/-- **What does not depend on the fields of the events is the same.** -/
theorem Input.view {α : Type} (h : Input victim b b') (v : PerTreePort → α)
    (hv : ∀ x, v x.exceptInput = v x) (p : PortRef) (t : Mstid) :
    v (b'.ptp p t) = v (b.ptp p t) := by
  rw [← hv, h.same p t, hv]

/-- Assignments to the port that the event deletes, or to any port but for its `deleted`. -/
theorem Input.changePort (h : Input victim b b') (p : PortRef) {f : Port → Port}
    (hf : ∀ x, (f x).deleted = x.deleted ∨ victim = some p ∧ (f x).deleted = true) :
    Input victim b (b'.setPort p f) := by
  refine h.trans ⟨rfl, .refl _, .refl _, fun p' => ?_, fun _ => rfl, fun _ _ => rfl,
    fun _ _ => asks_none _, rfl⟩
  rw [setPort_port]
  split
  · subst p'
    exact hf _
  · exact .inl rfl

theorem Input.setPort (h : Input victim b b') (p : PortRef) {f : Port → Port}
    (hf : ∀ x, (f x).deleted = x.deleted) : Input victim b (b'.setPort p f) :=
  h.changePort p (fun x => .inl (hf x))

theorem Input.emit (h : Input victim b b') (o : Output) (ho : o.isBpdu = false) :
    Input victim b (b'.emit o) :=
  ⟨h.enabled, h.ports, h.trees, h.deleted, h.prssm, h.same, h.asks,
    (emit_bpdus b' ho).trans h.bpdus⟩

theorem Input.setTree (h : Input victim b b') (t : Mstid) {f : Tree → Tree}
    (hf : ∀ x, (f x).PRSSM_state = x.PRSSM_state) : Input victim b (b'.setTree t f) := by
  refine h.trans ⟨rfl, .refl _, .refl _, fun _ => .inl rfl, fun t' => ?_, fun _ _ => rfl,
    fun _ _ => asks_none _, rfl⟩
  rw [setTree_tree]
  split
  · exact hf _
  · rfl

theorem Input.changePtps (h : Input victim b b') (sel : PortRef → Mstid → Bool)
    {f : PerTreePort → PerTreePort} (hf : ∀ x, (f x).exceptInput = x.exceptInput)
    (ha : ∀ x, Asks x (f x)) : Input victim b (b'.setPtps sel f) := by
  refine h.trans ⟨rfl, .refl _, .refl _, fun _ => .inl rfl, fun _ => rfl, fun p t => ?_,
    fun p t => ?_, rfl⟩
  · rw [setPtps_ptp]
    split
    · exact hf _
    · rfl
  · rw [setPtps_ptp]
    split
    · exact ha _
    · exact asks_none _

/-- The selection of roles stays as it is. -/
theorem Input.setPtps (h : Input victim b b') (sel : PortRef → Mstid → Bool)
    {f : PerTreePort → PerTreePort}
    (hf : ∀ x, ((f x).exceptInput, (f x).selected, (f x).reselect) =
      (x.exceptInput, x.selected, x.reselect)) : Input victim b (b'.setPtps sel f) := by
  simp only [Prod.mk.injEq] at hf
  exact h.changePtps sel (fun x => (hf x).1) (fun x => .inl (hf x).2)

/-- Some entries are to have their roles selected anew. -/
theorem Input.askPtps (h : Input victim b b') (sel : PortRef → Mstid → Bool)
    {f : PerTreePort → PerTreePort}
    (hf : ∀ x, ((f x).exceptInput, (f x).selected, (f x).reselect) =
      (x.exceptInput, false, true)) : Input victim b (b'.setPtps sel f) := by
  simp only [Prod.mk.injEq] at hf
  exact h.changePtps sel (fun x => (hf x).1) (fun x => .inr (hf x).2)

/-- New parameters of the bridge. -/
theorem Input.setConf (h : Input victim b b') {conf : BridgeConf}
    (he : conf.bridgeEnabled = b'.conf.bridgeEnabled)
    (hp : List.Sublist conf.ports b'.conf.ports) (ht : List.Sublist conf.trees b'.conf.trees) :
    Input victim b { b' with conf := conf } :=
  ⟨he.trans h.enabled, hp.trans h.ports, ht.trans h.trees, h.deleted, h.prssm, h.same, h.asks,
    h.bpdus⟩

theorem Input.forPlaces {f : Bridge → PortRef → Mstid → Bridge}
    (hf : ∀ b p t, Input victim b (f b p t)) (h : Input victim b b')
    (l : List (PortRef × Mstid)) : Input victim b (b'.forPlaces l f) :=
  forPlaces_keeps (I := Input victim b) (fun _ p t hs => hs.trans (hf _ p t)) l h

theorem Input.forPorts {f : Bridge → PortRef → Bridge} (hf : ∀ b p, Input victim b (f b p))
    (h : Input victim b b') (l : List PortRef) : Input victim b (b'.forPorts l f) :=
  forPorts_keeps (I := Input victim b) (fun _ p hs => hs.trans (hf _ p)) l h

theorem Input.forTrees {f : Bridge → Mstid → Bridge} (hf : ∀ b t, Input victim b (f b t))
    (h : Input victim b b') (l : List Mstid) : Input victim b (b'.forTrees l f) :=
  forTrees_keeps (I := Input victim b) (fun _ t hs => hs.trans (hf _ t)) l h

end Input

/-! ## Small steps -/

/-- The small steps of a bridge. -/
inductive Small (c : Budget) (victim : Option PortRef) : Bridge → Bridge → Prop
  | input {b b' : Bridge} : Input victim b b' → Small c victim b b'
  | run {b b' : Bridge} : brStateMachinesRun c b = some b' → Small c victim b b'
  | begin {b b' : Bridge} : brStateMachinesBegin c b = some b' → Small c victim b b'
  | enable {b b' : Bridge} (up : Bool) : setBridgeEnable c up b = some b' → Small c victim b b'
  | portCreate {b b' : Bridge} (p : PortRef) (name : String) (portno : UInt16) :
      portCreate c p name portno b = some b' → Small c victim b b'
  | createMsti {b b' : Bridge} (t : Mstid) : createMsti c t b = some b' → Small c victim b b'

/-- The port that an event deletes. -/
def Event.victim : Event → Option PortRef
  | .deletePort p => some p
  | _ => none

abbrev Steps (c : Budget) (victim : Option PortRef) : Bridge → Bridge → Prop :=
  Relation.ReflTransGen (Small c victim)

section Steps

variable {victim : Option PortRef}

theorem steps_input (h : Input victim b b') : Steps c victim b b' := .single (.input h)

theorem steps_input_run (h : Input victim b b') (hr : brStateMachinesRun c b' = some b'') :
    Steps c victim b b'' :=
  (steps_input h).tail (.run hr)

theorem steps_input_begin (h : Input victim b b') (hr : brStateMachinesBegin c b' = some b'') :
    Steps c victim b b'' :=
  (steps_input h).tail (.begin hr)

theorem steps_run_if {d : Prop} [Decidable d] (h : Input victim b b')
    (hr : (if d then brStateMachinesRun c b' else some b') = some b'') : Steps c victim b b'' := by
  split at hr
  · exact steps_input_run h hr
  · exact Option.some.inj hr ▸ steps_input h

theorem steps_begin_if {d : Prop} [Decidable d] (h : Input victim b b')
    (hr : (if d then brStateMachinesBegin c b' else some b') = some b'') : Steps c victim b b'' := by
  split at hr
  · exact steps_input_begin h hr
  · exact Option.some.inj hr ▸ steps_input h

theorem steps_any_if {d d' : Prop} [Decidable d] [Decidable d'] (h : Input victim b b')
    (hr : (if d then if d' then brStateMachinesBegin c b' else brStateMachinesRun c b'
      else some b') = some b'') : Steps c victim b b'' := by
  split at hr
  · split at hr
    · exact steps_input_begin h hr
    · exact steps_input_run h hr
  · exact Option.some.inj hr ▸ steps_input h

theorem steps_ask_if {d : Prop} [Decidable d] {p : PortRef} {t : Mstid} (h : Input victim b b')
    (hr : (if d then
        brStateMachinesRun c (b'.setPtp p t (fun x => { x with selected := false, reselect := true }))
      else some b') = some b'') : Steps c victim b b'' := by
  split at hr
  · exact steps_input_run (h.askPtps _ (by intros; rfl)) hr
  · exact Option.some.inj hr ▸ steps_input h

theorem steps_self (hr : some b = some b') : Steps c victim b b' := Option.some.inj hr ▸ .refl

end Steps

/-! ## Composite steps -/

/-- An entry without the fields that are reset when a bridge goes up or down. -/
@[reducible] def PerTreePort.exceptReset (x : PerTreePort) : PerTreePort :=
  { x with
    state := .DISABLED, rcvdTc := false, tcProp := false, updtInfo := false, master := false
    disputed := false, rcvdInfo := .OtherInfo, mastered := false, msgPriority := .zero
    msgTimes := .zero }

/-- A bridge before its machines are begun, after it went up or down. -/
structure Reset (up : Bool) (b b' : Bridge) : Prop where
  conf : b'.conf = { b.conf with bridgeEnabled := up }
  port : ∀ p, (b'.port p).held = (b.port p).held
  same : ∀ p t, (b'.ptp p t).exceptReset = (b.ptp p t).exceptReset
  state : ∀ x ∈ b.places, (b'.ptp x.1 x.2).state = .DISABLED
  bpdus : b'.bpdus = b.bpdus

theorem Reset.view {up : Bool} {α : Type} (h : Reset up b b') (v : PerTreePort → α)
    (hv : ∀ x, v x.exceptReset = v x) (p : PortRef) (t : Mstid) :
    v (b'.ptp p t) = v (b.ptp p t) := by
  rw [← hv, h.same p t, hv]

/-- The bridge with a new port. -/
def newPort (b : Bridge) (p : PortRef) (name : String) (portno : UInt16) : Bridge :=
  { b with
    port := fun p' => if p' = p then createPort name portno else b.port p'
    ptp := fun p' t => if p' = p then createPtp (b.tree t) (createPort name portno) else b.ptp p' t
    conf := { b.conf with ports := b.conf.ports ++ [p] } }

theorem newPort_ptp (b : Bridge) (p p' : PortRef) (name : String) (portno : UInt16) (t : Mstid) :
    (newPort b p name portno).ptp p' t =
      if p' = p then createPtp (b.tree t) (createPort name portno) else b.ptp p' t := rfl

theorem portCreate_cases {p : PortRef} {name : String} {portno : UInt16}
    (h : portCreate c p name portno b = some b') :
    b' = b ∨ p ∉ b.conf.ports ∧ prtStateMachinesBegin c (newPort b p name portno) p = some b' := by
  rw [portCreate] at h
  split at h
  · exact .inl (Option.some.inj h).symm
  · rename_i hp
    exact .inr ⟨fun hmem => hp (.inl hmem), h⟩

/-- The bridge with a new tree. -/
def newTree (b : Bridge) (t : Mstid) (trees : List Mstid) : Bridge :=
  let tree := createTree b.conf (b.tree 0).BridgeIdentifier.mac_address t
  { b with
    tree := fun t' => if t' = t then tree else b.tree t'
    ptp := fun p t' => if t' = t then createPtp tree (b.port p) else b.ptp p t'
    conf := { b.conf with trees := trees } }

theorem newTree_ptp (b : Bridge) (p : PortRef) (t t' : Mstid) (trees : List Mstid) :
    (newTree b t trees).ptp p t' =
      if t' = t then
        createPtp (createTree b.conf (b.tree 0).BridgeIdentifier.mac_address t) (b.port p)
      else b.ptp p t' := rfl

theorem insertMstid_eq {t : Mstid} {l l' : List Mstid} (h : insertMstid t l = some l') :
    ∃ before after, before ≠ [] ∧ l = before ++ after ∧ l' = before ++ t :: after := by
  simp only [insertMstid] at h
  split_ifs at h with hb
  refine ⟨_, _, hb, ?_, (Option.some.inj h).symm⟩
  rw [← List.reverse_append, List.takeWhile_append_dropWhile, List.reverse_reverse]

theorem mem_insertMstid {t u : Mstid} {l l' : List Mstid} (h : insertMstid t l = some l')
    (hu : u ∈ l') : u = t ∨ u ∈ l := by
  obtain ⟨before, after, -, rfl, rfl⟩ := insertMstid_eq h
  simp only [List.mem_append, List.mem_cons] at hu ⊢
  tauto

theorem createMsti_cases {t : Mstid} (h : createMsti c t b = some b') :
    b' = b ∨ ∃ trees,
      (t ∉ b.conf.trees ∧ 1 ≤ t.toNat ∧ t.toNat ≤ MAX_MSTID ∧ insertMstid t b.conf.trees = some trees ∧
        b.conf.trees.length ≤ MAX_IMPLEMENTATION_MSTIS) ∧
      treeStateMachinesBegin c (newTree b t trees) t = some b' := by
  rw [createMsti] at h
  split at h
  · exact .inl (Option.some.inj h).symm
  rename_i ht
  push Not at ht
  split at h
  · exact .inl (Option.some.inj h).symm
  rename_i trees htrees
  split at h
  · exact .inl (Option.some.inj h).symm
  · rename_i hlen
    exact .inr ⟨trees, ⟨ht.2.2, ht.1, ht.2.1, htrees, Nat.not_lt.mp hlen⟩, h⟩

theorem mstpOutSetState_ptp (b : Bridge) (p : PortRef) (t : Mstid) (s : BrState) :
    (mstpOutSetState b p t s).ptp = (b.setPtp p t (fun y => { y with state := s })).ptp := by
  rw [mstpOutSetState]
  split
  · rename_i hs
    funext p' t'
    rw [setPtp_ptp]
    split
    · rename_i h
      rw [h.1, h.2, ← hs]
    · rfl
  · rfl

/-- What does not touch more than a reset does. -/
structure Resets (b b' : Bridge) : Prop where
  conf : b'.conf = b.conf
  port : ∀ p, (b'.port p).held = (b.port p).held
  same : ∀ p t, (b'.ptp p t).exceptReset = (b.ptp p t).exceptReset
  bpdus : b'.bpdus = b.bpdus

theorem Resets.refl (b : Bridge) : Resets b b := ⟨rfl, fun _ => rfl, fun _ _ => rfl, rfl⟩

theorem Resets.trans (h : Resets b b') (h' : Resets b' b'') : Resets b b'' :=
  ⟨h'.conf.trans h.conf, fun p => (h'.port p).trans (h.port p),
    fun p t => (h'.same p t).trans (h.same p t), h'.bpdus.trans h.bpdus⟩

theorem Resets.setPort (h : Resets b b') (p : PortRef) {f : Port → Port}
    (hf : ∀ x, (f x).held = x.held) : Resets b (b'.setPort p f) := by
  refine h.trans ⟨rfl, fun p' => ?_, fun _ _ => rfl, rfl⟩
  rw [setPort_port]
  split
  · exact hf _
  · rfl

theorem Resets.setPtp (h : Resets b b') (p : PortRef) (t : Mstid) {f : PerTreePort → PerTreePort}
    (hf : ∀ x, (f x).exceptReset = x.exceptReset) : Resets b (b'.setPtp p t f) := by
  refine h.trans ⟨rfl, fun _ => rfl, fun p' t' => ?_, rfl⟩
  rw [setPtp_ptp]
  split
  · exact hf _
  · rfl

theorem Resets.of_eq (h : Resets b b') {s : Bridge} (hc : s.conf = b'.conf) (hp : s.port = b'.port)
    (hx : s.ptp = b'.ptp) (hs : s.bpdus = b'.bpdus) : Resets b s :=
  ⟨hc.trans h.conf, fun p => hp ▸ h.port p, fun p t => hx ▸ h.same p t, hs.trans h.bpdus⟩

theorem mstpOutSetState_resets (b : Bridge) (p : PortRef) (t : Mstid) (s : BrState) :
    Resets b (mstpOutSetState b p t s) := by
  have hset : Resets b (b.setPtp p t (fun y => { y with state := s })) :=
    (Resets.refl b).setPtp p t (fun _ => rfl)
  refine ⟨?_, fun p' => ?_, fun p' t' => ?_, ?_⟩
  · rw [mstpOutSetState]
    split <;> rfl
  · rw [mstpOutSetState]
    split
    · rfl
    · rw [emit_port, setPort_port]
      split
      · cases s <;> rfl
      · rfl
  · rw [mstpOutSetState_ptp]
    exact hset.same p' t'
  · rw [mstpOutSetState]
    split
    · rfl
    · exact emit_bpdus _ rfl

/-- What `MSTP_IN_set_bridge_enable` does to an entry. -/
def resetPlace (b : Bridge) (p : PortRef) (t : Mstid) : Bridge :=
  (if (b.ptp p t).state ≠ .DISABLED then mstpOutSetState b p t .DISABLED else b).setPtp p t
    ptpDefaultInternalVars

theorem resetPlace_resets (b : Bridge) (p : PortRef) (t : Mstid) :
    Resets b (resetPlace b p t) := by
  rw [resetPlace]
  split
  · exact (mstpOutSetState_resets b p t _).setPtp p t (fun _ => rfl)
  · exact (Resets.refl b).setPtp p t (fun _ => rfl)

theorem resetPlace_state (b : Bridge) (p p' : PortRef) (t t' : Mstid) :
    ((resetPlace b p t).ptp p' t').state =
      if p' = p ∧ t' = t then .DISABLED else (b.ptp p' t').state := by
  rw [resetPlace, setPtp_ptp]
  by_cases hd : (b.ptp p t).state = .DISABLED
  · rw [if_neg (not_not.mpr hd)]
    split
    · rename_i h
      rw [h.1, h.2]
      exact hd
    · rfl
  · rw [if_pos hd, mstpOutSetState_ptp, setPtp_ptp]
    split <;> rfl

theorem resetPort_eq (b : Bridge) (p : PortRef) :
    ∃ s, Resets b s ∧ s.ptp = b.ptp ∧
      resetPort b p = s.forPlaces (s.placesOfPort p) resetPlace := by
  refine ⟨_, ?_, ?_, rfl⟩
  · refine Resets.setPort ?_ p (fun _ => rfl)
    split
    · exact (Resets.refl b).of_eq rfl rfl rfl (emit_bpdus b rfl)
    · exact .refl b
  · rw [setPort_ptp]
    split <;> rfl

theorem resetPort_resets (b : Bridge) (p : PortRef) : Resets b (resetPort b p) := by
  obtain ⟨s, hs, -, heq⟩ := resetPort_eq b p
  rw [heq]
  exact forPlaces_keeps (I := Resets b) (fun _ p t h => h.trans (resetPlace_resets _ p t)) _ hs

/-- After the reset of a port its entries are disabled. -/
theorem resetPort_state (b : Bridge) (p : PortRef) {t : Mstid} (ht : t ∈ b.conf.trees) :
    ((resetPort b p).ptp p t).state = .DISABLED := by
  obtain ⟨s, hs, -, heq⟩ := resetPort_eq b p
  rw [heq]
  have hmem : (p, t) ∈ s.placesOfPort p := by
    rw [Bridge.placesOfPort, hs.conf]
    exact List.mem_map_of_mem ht
  refine foldl_establishes (I := fun _ => True) (Q := fun x b => (b.ptp x.1 x.2).state = .DISABLED)
    (fun _ _ _ => trivial) (fun b x _ => ?_) (fun b x y _ hq => ?_) _ trivial _ hmem
  · rw [resetPlace_state, if_pos ⟨rfl, rfl⟩]
  · rw [resetPlace_state]
    split
    · rfl
    · exact hq

theorem resetPort_keeps_state (b : Bridge) (p p' : PortRef) {t : Mstid}
    (h : (b.ptp p' t).state = .DISABLED) : ((resetPort b p).ptp p' t).state = .DISABLED := by
  obtain ⟨s, -, hptp, heq⟩ := resetPort_eq b p
  rw [heq]
  refine forPlaces_keeps (I := fun b => (b.ptp p' t).state = .DISABLED) (fun b q u hq => ?_) _
    (hptp ▸ h)
  rw [resetPlace_state]
  split
  · rfl
  · exact hq

theorem setBridgeEnable_cases {up : Bool} (h : setBridgeEnable c up b = some b') :
    b' = b ∨ ∃ s, Reset up b s ∧ brStateMachinesBegin c s = some b' := by
  rw [setBridgeEnable] at h
  split at h
  · exact .inl (Option.some.inj h).symm
  refine .inr ⟨_, ?_, h⟩
  set b₀ : Bridge := { b with conf := { b.conf with bridgeEnabled := up }, uptime := 0 }
  have htree : ∀ s t, Resets b₀ s → Resets b₀ (s.setTree t treeDefaultInternalVars) :=
    fun _ _ hs => hs.of_eq rfl rfl rfl rfl
  have htrees := forTrees_keeps htree b.conf.trees (.refl b₀)
  have hports := fun l => forPorts_keeps (I := Resets b₀)
    (fun s p hs => hs.trans (resetPort_resets s p)) l htrees
  refine ⟨(hports _).conf, (hports _).port, (hports _).same, ?_, (hports _).bpdus⟩
  rintro ⟨p, t⟩ hx
  obtain ⟨hp, ht⟩ := mem_places.mp hx
  rw [show b.conf.ports = b₀.conf.ports from rfl, ← htrees.conf] at hp
  refine foldl_establishes (I := Resets b₀) (Q := fun p b => (b.ptp p t).state = .DISABLED)
    (fun s p hs => hs.trans (resetPort_resets s p)) (fun s p hs => ?_)
    (fun s p q _ hq => resetPort_keeps_state s q p hq) _ htrees p hp
  exact resetPort_state s p (by rw [hs.conf]; exact ht)

end Mstpd
