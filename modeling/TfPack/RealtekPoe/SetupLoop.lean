import Mathlib.Data.List.OfFn
import TfPack.Lib.BoundedLoop
import TfPack.RealtekPoe.Daemon

set_option autoImplicit false

/-! # The port setup as the loops run it

`poet_setup` fills four arrays of four entries with the enabled ports, pads what is left of them and
queues a frame of each kind for the group. The inner loop is left by `break` or at the end of the
ports, and the outer one goes on behind the port the inner one stopped at. Here every iteration is
a step on the index, the count and the arrays as they stand in memory; the loops end
(`run_setupBody`) with the commands of `poetSetup`, and these cover every enabled port once in each
kind of frame (`setup_covers`).
-/

namespace RealtekPoe

open BoundedLoop

/-! ## The loops -/

/-- `uint8_t x[4]`. -/
abbrev Quad := Fin 4 → UInt8

/-- `x[k] = v`. -/
def Quad.store (a : Quad) (k : Nat) (v : UInt8) : Quad := fun j => if j.val = k then v else a j

/-- `memset(x + k, 0xff, 4 - k)`. -/
def Quad.pad (a : Quad) (k : Nat) : Quad := fun j => if k ≤ j.val then 0xff else a j

/-- The arrays of `poet_setup`; the first four are not initialised. -/
structure SetupArrays where
  port_ids : Quad
  priorities : Quad
  powerup_mode : Quad
  limit_type : Quad
  enable_all : Quad

/-- The assignments for the port `i`. -/
def SetupArrays.store (A : SetupArrays) (num_okay i : Nat) (p : PortConfig) : SetupArrays :=
  { A with
    port_ids := A.port_ids.store num_okay (UInt8.ofNat i)
    priorities := A.priorities.store num_okay p.priority
    powerup_mode := A.powerup_mode.store num_okay p.power_up_mode
    limit_type := A.limit_type.store num_okay (if p.power_budget ≠ 0 then 2 else 1) }

/-- The five `memset`s. -/
def SetupArrays.pad (A : SetupArrays) (num_okay : Nat) : SetupArrays :=
  ⟨A.port_ids.pad num_okay, A.priorities.pad num_okay, A.powerup_mode.pad num_okay,
    A.limit_type.pad num_okay, A.enable_all.pad num_okay⟩

/-- The commands queued from the arrays. -/
def SetupArrays.cmds (A : SetupArrays) : List Bytes :=
  [poeSetPortPriority (List.ofFn A.port_ids) (List.ofFn A.priorities),
    poeCmdPortClassification (List.ofFn A.port_ids) (List.ofFn A.enable_all),
    poeCmdPortPowerLimitType (List.ofFn A.port_ids) (List.ofFn A.limit_type)]

/-- Where the loops are: the variables, whether the inner loop is still running, and the commands
queued so far. -/
structure SetupState where
  i : Nat
  num_okay : Nat
  arrays : SetupArrays
  scanning : Bool
  queued : List Bytes

/-- An iteration of the inner loop of `poet_setup`, or the rest of an iteration of the outer one. -/
def setupBody (ports : Nat → PortConfig) (num_ports : Nat) (s : SetupState) :
    SetupState ⊕ List Bytes :=
  if s.scanning = true ∧ s.i < num_ports then
    if (ports s.i).enable = false then .inl { s with i := s.i + 1 }
    else
      let s' := { s with
        arrays := s.arrays.store s.num_okay s.i (ports s.i)
        num_okay := s.num_okay + 1 }
      if s'.num_okay = 4 then .inl { s' with scanning := false }
      else .inl { s' with i := s.i + 1 }
  else
    let arrays := s.arrays.pad s.num_okay
    let queued := s.queued ++ arrays.cmds
    if s.i + 1 < num_ports then .inl ⟨s.i + 1, 0, arrays, true, queued⟩ else .inr queued

/-- The variables when the loops are entered; `enable_all` is the only array with an initialiser. -/
def SetupState.start (port_ids priorities powerup_mode limit_type : Quad) : SetupState :=
  ⟨0, 0, ⟨port_ids, priorities, powerup_mode, limit_type, fun _ => 1⟩, true, []⟩

/-! ## The arrays -/

/-- The arrays hold a group: the numbers of its ports and what the frames say about them. -/
structure SetupArrays.Holds (A : SetupArrays) (ports : Nat → PortConfig) (group : List Nat) :
    Prop where
  port_ids : ∀ (j : Fin 4) (p : Nat), group[j.val]? = some p → A.port_ids j = UInt8.ofNat p
  priorities : ∀ (j : Fin 4) (p : Nat), group[j.val]? = some p →
    A.priorities j = (ports p).priority
  limit_type : ∀ (j : Fin 4) (p : Nat), group[j.val]? = some p →
    A.limit_type j = if (ports p).power_budget ≠ 0 then 2 else 1
  enable_all : A.enable_all = fun _ => 1

theorem Quad.store_snoc {a : Quad} {group : List Nat} {f : Nat → UInt8}
    (h : ∀ (j : Fin 4) (p : Nat), group[j.val]? = some p → a j = f p) (i : Nat) :
    ∀ (j : Fin 4) (p : Nat), (group ++ [i])[j.val]? = some p →
      a.store group.length (f i) j = f p := by
  intro j p hp
  rw [Quad.store]
  by_cases hj : j.val = group.length
  · rw [hj, List.getElem?_concat_length, Option.some.injEq] at hp
    rw [if_pos hj, hp]
  · rw [if_neg hj]
    rcases Nat.lt_or_ge j.val group.length with hlt | hge
    · rw [List.getElem?_append_left hlt] at hp
      exact h j p hp
    · rw [List.getElem?_append_right hge, List.getElem?_eq_none (by simp; omega)] at hp
      cases hp

theorem SetupArrays.Holds.store {A : SetupArrays} {ports : Nat → PortConfig} {group : List Nat}
    (h : A.Holds ports group) (i : Nat) :
    (A.store group.length i (ports i)).Holds ports (group ++ [i]) :=
  ⟨Quad.store_snoc h.port_ids i, Quad.store_snoc (f := fun i => (ports i).priority) h.priorities i,
    Quad.store_snoc (f := fun i => if (ports i).power_budget ≠ 0 then 2 else 1) h.limit_type i,
    h.enable_all⟩

/-- An array with its tail overwritten is the padded list of what it holds. -/
theorem Quad.ofFn_pad {a : Quad} {group : List Nat} {f : Nat → UInt8}
    (h : ∀ (j : Fin 4) (p : Nat), group[j.val]? = some p → a j = f p) (hle : group.length ≤ 4) :
    List.ofFn (a.pad group.length) = padded (group.map f) := by
  apply List.ext_getElem?
  intro j
  rw [padded, List.length_map]
  rcases Nat.lt_or_ge j 4 with hj | hj
  · rw [List.getElem?_ofFn, dif_pos hj, Quad.pad]
    -- within the group the array stands as stored, behind it `pad` has written 0xff
    rcases Nat.lt_or_ge j group.length with hlt | hge
    · rw [if_neg (Nat.not_le.mpr hlt), List.getElem?_append_left (by rwa [List.length_map]),
        List.getElem?_map, List.getElem?_eq_getElem hlt, Option.map_some,
        h ⟨j, hj⟩ _ (List.getElem?_eq_getElem hlt)]
    · rw [if_pos hge, List.getElem?_append_right (by rwa [List.length_map]),
        List.getElem?_replicate, List.length_map, if_pos (by omega)]
  · rw [List.getElem?_eq_none (by rw [List.length_ofFn]; exact hj),
      List.getElem?_eq_none (by simp; omega)]

theorem padded_padded (l : Bytes) : padded (padded l) = padded l := by
  have hlen : 4 - (padded l).length = 0 := by
    rw [padded, List.length_append, List.length_replicate]
    omega
  rw [padded, hlen, List.replicate_zero, List.append_nil]

/-- **The arrays of a group make its frames.** -/
theorem SetupArrays.Holds.cmds_pad {A : SetupArrays} {ports : Nat → PortConfig} {group : List Nat}
    (h : A.Holds ports group) (hle : group.length ≤ 4) :
    (A.pad group.length).cmds = groupSetup ports group := by
  have hones : ∀ (j : Fin 4) (p : Nat), group[j.val]? = some p → A.enable_all j = 1 := by
    intro j p _
    rw [h.enable_all]
  have hpad : ∀ (cmd_id : UInt8) (port data : Bytes),
      poetCmd4Port cmd_id (padded port) (padded data) = poetCmd4Port cmd_id port data := by
    intro cmd_id port data
    rw [poetCmd4Port, poetCmd4Port, padded_padded, padded_padded]
  simp only [SetupArrays.cmds, groupSetup, SetupArrays.pad, poeSetPortPriority,
    poeCmdPortClassification, poeCmdPortPowerLimitType]
  rw [Quad.ofFn_pad h.port_ids hle, Quad.ofFn_pad (f := fun i => (ports i).priority) h.priorities hle,
    Quad.ofFn_pad (f := fun _ => 1) hones hle,
    Quad.ofFn_pad (f := fun i => if (ports i).power_budget ≠ 0 then 2 else 1) h.limit_type hle,
    hpad, hpad, hpad]

/-! ## The loops end -/

section Run

variable {ports : Nat → PortConfig} {num_ports : Nat}

/-- A group is full, or the ports have run out. -/
theorem length_fillGroup (ports : Nat → PortConfig) (room left i : Nat) (hroom : 0 < room) :
    (fillGroup ports room left i).1.length ≤ room ∧
      ((fillGroup ports room left i).1.length = room ∨
        (fillGroup ports room left i).2 = i + left) := by
  -- by induction on the ports left, as the inner loop goes
  induction left generalizing room i with
  | zero => exact ⟨Nat.zero_le _, .inr rfl⟩
  | succ left ih =>
      rw [fillGroup]
      split
      · obtain ⟨hle, hfull⟩ := ih room (i + 1) hroom
        refine ⟨hle, ?_⟩
        omega
      · split
        case isTrue hone => exact ⟨by dsimp only; simp; omega, .inl hone.symm⟩
        case isFalse hmore =>
          obtain ⟨hle, hfull⟩ := ih (room - 1) (i + 1) (by omega)
          dsimp only
          rw [List.length_cons]
          omega

/-- The enabled ports from `i` on, `left` ports further. -/
def enabledFrom (ports : Nat → PortConfig) (i left : Nat) : List Nat :=
  (List.range' i left).filter (fun j => (ports j).enable)

/-- **A group takes the enabled ports it passes**, and leaves those behind its last one. -/
theorem fillGroup_enabled (ports : Nat → PortConfig) (room left i : Nat) (hroom : 0 < room) :
    (fillGroup ports room left i).2 ≤ i + left ∧
      enabledFrom ports i left = (fillGroup ports room left i).1 ++
        enabledFrom ports ((fillGroup ports room left i).2 + 1)
          (i + left - ((fillGroup ports room left i).2 + 1)) := by
  induction left generalizing room i with
  | zero =>
      refine ⟨Nat.le_refl _, ?_⟩
      rw [fillGroup, List.nil_append, Nat.sub_eq_zero_of_le (by simp)]
      rfl
  | succ left ih =>
      have hcount : i + (left + 1) = i + 1 + left := by omega
      rw [fillGroup, enabledFrom, List.range'_succ, List.filter_cons, hcount]
      cases hen : (ports i).enable with
      | false => exact ih room (i + 1) hroom
      | true =>
          by_cases hone : room = 1
          · simp only [Bool.not_true, Bool.false_eq_true, if_false, if_true, hone]
            exact ⟨by omega, by rw [Nat.add_sub_cancel_left]; rfl⟩
          · simp only [Bool.not_true, Bool.false_eq_true, if_false, if_true, hone]
            obtain ⟨hle, hrest⟩ := ih (room - 1) (i + 1) (by omega)
            exact ⟨hle, by rw [List.cons_append, ← hrest]; rfl⟩

/-- **The inner loop** goes on from a group that is not full to the end of it, and looks at every
port once. -/
theorem scan_leads (left : Nat) (s : SetupState) (group : List Nat) (hscan : s.scanning = true)
    (hleft : s.i + left = num_ports) (hcount : s.num_okay = group.length)
    (hroom : group.length < 4) (hold : s.arrays.Holds ports group) :
    ∃ k s', Leads (setupBody ports num_ports) k s s' ∧ s.i + k ≤ s'.i + 1 ∧
      s'.i = (fillGroup ports (4 - group.length) left s.i).2 ∧
      s'.num_okay = (group ++ (fillGroup ports (4 - group.length) left s.i).1).length ∧
      s'.arrays.Holds ports (group ++ (fillGroup ports (4 - group.length) left s.i).1) ∧
      s'.queued = s.queued ∧ ¬(s'.scanning = true ∧ s'.i < num_ports) := by
  -- on the ports left to look at; the arrays hold the group as it is so far
  induction left generalizing s group with
  | zero =>
      refine ⟨0, s, Leads.refl s, Nat.le_succ _, rfl, ?_, ?_, rfl, ?_⟩
      · rw [fillGroup, List.append_nil, hcount]
      · rwa [fillGroup, List.append_nil]
      · omega
  | succ left ih =>
      have hin : s.i < num_ports := by omega
      cases hen : (ports s.i).enable with
      | false =>
          -- a port that is not enabled is passed by `continue`
          have hstep : setupBody ports num_ports s = .inl { s with i := s.i + 1 } := by
            rw [setupBody, if_pos ⟨hscan, hin⟩, if_pos hen]
          have hfill : fillGroup ports (4 - group.length) (left + 1) s.i =
              fillGroup ports (4 - group.length) left (s.i + 1) := by
            rw [fillGroup, hen]
            rfl
          obtain ⟨k, s', hk, hle, hi, hn, hh, hq, hend⟩ :=
            ih { s with i := s.i + 1 } group hscan (by simp only; omega) hcount hroom hold
          simp only at hle hi hn hh hq
          rw [hfill]
          exact ⟨k + 1, s', (Leads.step hstep).trans hk, by omega, hi, hn, hh, hq, hend⟩
      | true =>
          have hstore := hold.store s.i
          rw [← hcount] at hstore
          have hon : ¬(ports s.i).enable = false := by rw [hen]; decide
          by_cases hlast : group.length + 1 = 4
          · -- the group is full, and the loop is left by `break`
            have hfill : fillGroup ports (4 - group.length) (left + 1) s.i = ([s.i], s.i) := by
              rw [fillGroup, hen, if_neg (by decide), if_pos (by omega)]
            have hstep : setupBody ports num_ports s = .inl { s with
                arrays := s.arrays.store s.num_okay s.i (ports s.i)
                num_okay := s.num_okay + 1
                scanning := false } := by
              rw [setupBody, if_pos ⟨hscan, hin⟩, if_neg hon]
              exact if_pos (show s.num_okay + 1 = 4 by omega)
            rw [hfill]
            refine ⟨1, _, Leads.step hstep, Nat.le_refl _, rfl, ?_, hstore, rfl, ?_⟩
            · rw [List.length_append, List.length_singleton, hcount]
            · rintro ⟨hno, -⟩
              cases hno
          · have hfill : fillGroup ports (4 - group.length) (left + 1) s.i =
                (s.i :: (fillGroup ports (4 - (group ++ [s.i]).length) left (s.i + 1)).1,
                  (fillGroup ports (4 - (group ++ [s.i]).length) left (s.i + 1)).2) := by
              have hnext : 4 - (group ++ [s.i]).length = 4 - group.length - 1 := by
                rw [List.length_append, List.length_singleton]
                omega
              rw [fillGroup, hen, if_neg (by decide), if_neg (by omega), hnext]
            have hstep : setupBody ports num_ports s = .inl { s with
                i := s.i + 1
                arrays := s.arrays.store s.num_okay s.i (ports s.i)
                num_okay := s.num_okay + 1 } := by
              rw [setupBody, if_pos ⟨hscan, hin⟩, if_neg hon]
              exact if_neg (show ¬s.num_okay + 1 = 4 by omega)
            obtain ⟨k, s', hk, hle, hi, hn, hh, hq, hend⟩ :=
              ih { s with
                i := s.i + 1
                arrays := s.arrays.store s.num_okay s.i (ports s.i)
                num_okay := s.num_okay + 1 } (group ++ [s.i]) hscan
                (by simp only; omega) (by simp [hcount]) (by simp; omega) hstore
            simp only at hle hi hn hh hq
            rw [List.append_assoc, List.singleton_append] at hn hh
            rw [hfill]
            exact ⟨k + 1, s', (Leads.step hstep).trans hk, by omega, hi, hn, hh, hq, hend⟩

/-- **The loops end**, with the commands of `poetSetup`. -/
theorem run_setupBody (ports : Nat → PortConfig) (num_ports i : Nat) {s : SetupState}
    (hscan : s.scanning = true) (hi : s.i = i) (hle : i ≤ num_ports) (hcount : s.num_okay = 0)
    (hold : s.arrays.Holds ports []) :
    ∃ k, k ≤ 2 * (num_ports - i) + 2 ∧ run (setupBody ports num_ports) k s =
      some (s.queued ++ poetSetup ports num_ports i) := by
  -- along the groups that the outer loop makes
  induction i using poetSetup.induct ports num_ports generalizing s with
  | case1 i r =>
      rename_i ih
      obtain ⟨k, s', hk, hsteps, hj, hn, hh, hq, hend⟩ := scan_leads (num_ports - i) s [] hscan
        (show s.i + (num_ports - i) = num_ports by omega) hcount (by decide) hold
      have hfull := length_fillGroup ports 4 (num_ports - i) i (by decide)
      have hgroup : fillGroup ports (4 - ([] : List Nat).length) (num_ports - i) i = r := rfl
      rw [hi] at hsteps hj hn hh
      rw [hgroup] at hj hn hh
      rw [List.nil_append] at hn hh
      have hcmds : (s'.arrays.pad s'.num_okay).cmds = groupSetup ports r.1 := by
        rw [hn]
        exact hh.cmds_pad hfull.1
      have hspec : poetSetup ports num_ports i = groupSetup ports r.1 ++
          if r.2 + 1 < num_ports then poetSetup ports num_ports (r.2 + 1) else [] := by
        rw [poetSetup]
        rfl
      by_cases hnext : r.2 + 1 < num_ports
      · -- another group follows, so this one is full and leaves `enable_all` as it was
        have hlen : s'.num_okay = 4 := by
          rcases hfull.2 with hfour | hend'
          · rw [hn]
            exact hfour
          · have hstop : r.2 = i + (num_ports - i) := hend'
            omega
        have hones : (s'.arrays.pad s'.num_okay).enable_all = fun _ => 1 := by
          have hkept := hh.enable_all
          rw [hlen]
          funext l
          have hl : ¬4 ≤ l.val := Nat.not_le.mpr l.isLt
          simp only [SetupArrays.pad, Quad.pad, if_neg hl, hkept]
        have hstep : setupBody ports num_ports s' = .inl ⟨r.2 + 1, 0, s'.arrays.pad s'.num_okay,
            true, s'.queued ++ (s'.arrays.pad s'.num_okay).cmds⟩ := by
          rw [setupBody, if_neg hend, hj]
          exact if_pos hnext
        obtain ⟨k', hk', hrun⟩ := ih hnext
          (s := ⟨r.2 + 1, 0, s'.arrays.pad s'.num_okay, true,
            s'.queued ++ (s'.arrays.pad s'.num_okay).cmds⟩) rfl rfl (by omega) rfl
          ⟨by simp, by simp, by simp, hones⟩
        have hge : i ≤ r.2 := le_fillGroup ports 4 (num_ports - i) i
        refine ⟨k' + 1 + k, by omega, ?_⟩
        rw [hk, run_next hstep, hrun, hspec, if_pos hnext, hq, hcmds, List.append_assoc]
      · have hstep : setupBody ports num_ports s' =
            .inr (s'.queued ++ (s'.arrays.pad s'.num_okay).cmds) := by
          rw [setupBody, if_neg hend, hj]
          exact if_neg hnext
        have hbound : r.2 ≤ i + (num_ports - i) :=
          (fillGroup_enabled ports 4 (num_ports - i) i (by decide)).1
        refine ⟨0 + 1 + k, by omega, ?_⟩
        rw [hk, run_done hstep, hspec, if_neg hnext, hq, hcmds, List.append_nil]

end Run

/-! ## What the frames say -/

/-- The four pairs of a frame of `poet_cmd_4_port`: a port and its data. -/
def Frame.slots (f : Frame) : List (UInt8 × UInt8) := [(f 2, f 3), (f 4, f 5), (f 6, f 7), (f 8, f 9)]

/-- The pairs that name a port. -/
def Frame.used (f : Frame) : List (UInt8 × UInt8) := f.slots.filter (fun s => s.1 != 0xff)

/-- The frames `poe_cmd_queue` builds of commands, behind the sequence number `seq`. -/
def framesFrom : UInt8 → List Bytes → List Frame
  | _, [] => []
  | seq, cmd :: cmds => buildFrame cmd (seq + 1) :: framesFrom (seq + 1) cmds

/-- What the frames of one kind say, one pair after the other. -/
def saidOf (cmd_id : UInt8) (fs : List Frame) : List (UInt8 × UInt8) :=
  (fs.filter (fun f => f 0 == cmd_id)).flatMap Frame.used

/-- The frames of each kind name the ports `l`, in this order, each with what the port table says
about it, and no other port; a pair that names no port is `0xff` throughout. -/
structure Covers (ports : Nat → PortConfig) (l : List Nat) (fs : List Frame) : Prop where
  kinds : ∀ f ∈ fs, f 0 = 0x15 ∨ f 0 = 0x11 ∨ f 0 = 0x12
  priority : saidOf 0x15 fs = l.map (fun i => (UInt8.ofNat i, (ports i).priority))
  classification : saidOf 0x11 fs = l.map (fun i => (UInt8.ofNat i, 1))
  limit_type : saidOf 0x12 fs =
    l.map (fun i => (UInt8.ofNat i, if (ports i).power_budget ≠ 0 then 2 else 1))
  four : ∀ f ∈ fs, f.used.length ≤ 4
  unused : ∀ f ∈ fs, ∀ s ∈ f.slots, s.1 = 0xff → s.2 = 0xff

theorem queueAll_frames (q : Queue) (cmds : List Bytes) :
    (queueAll q cmds).1.cmd_pending.map Cmd.cmd =
      q.cmd_pending.map Cmd.cmd ++ framesFrom q.cmd_seq cmds := by
  induction cmds generalizing q with
  | nil => rw [queueAll, framesFrom, List.append_nil]
  | cons cmd cmds ih =>
      rw [queueAll, ih, framesFrom]
      simp [poeCmdQueue]

/-- Behind the sequence number a frame has the bytes of its command. -/
theorem buildFrame_data (bytes : Bytes) (seq : UInt8) {i : Fin 12} (h : 2 ≤ i.val)
    (h' : i.val ≤ 10) : buildFrame bytes seq i = bytes.getD i 0xff := by
  have hzero : i ≠ 0 := by
    rintro rfl
    exact absurd h (by decide)
  have hone : i ≠ 1 := by
    rintro rfl
    exact absurd h (by decide)
  have hlast : i ≠ 11 := by
    rintro rfl
    exact absurd h' (by decide)
  rw [buildFrame, Function.update_of_ne hlast, layOut, if_neg hzero, if_neg hone, if_neg hlast]

theorem length_padded {l : Bytes} (h : l.length ≤ 4) : (padded l).length = 4 := by
  rw [padded, List.length_append, List.length_replicate]
  omega

/-- The pairs of a frame are those it was built of. -/
theorem slots_buildFrame (cmd_id seq : UInt8) (port data : Bytes) (hp : port.length ≤ 4)
    (hd : data.length = port.length) :
    (buildFrame (poetCmd4Port cmd_id port data) seq).slots =
      port.zip data ++ List.replicate (4 - port.length) (0xff, 0xff) := by
  have hzip : (padded port).zip (padded data) =
      port.zip data ++ List.replicate (4 - port.length) (0xff, 0xff) := by
    rw [padded, padded, List.zip_append hd.symm, hd, List.zip_replicate, Nat.min_self]
  rw [← hzip, poetCmd4Port]
  -- both arrays have four entries, so the eight bytes can be read off one by one
  obtain ⟨a, b, c, d, hport⟩ := List.length_eq_four.mp (length_padded hp)
  obtain ⟨x, y, z, w, hdata⟩ := List.length_eq_four.mp (length_padded (hd.trans_le hp))
  rw [hport, hdata, Frame.slots]
  simp only [buildFrame_data _ seq (i := 2) (by decide) (by decide),
    buildFrame_data _ seq (i := 3) (by decide) (by decide),
    buildFrame_data _ seq (i := 4) (by decide) (by decide),
    buildFrame_data _ seq (i := 5) (by decide) (by decide),
    buildFrame_data _ seq (i := 6) (by decide) (by decide),
    buildFrame_data _ seq (i := 7) (by decide) (by decide),
    buildFrame_data _ seq (i := 8) (by decide) (by decide),
    buildFrame_data _ seq (i := 9) (by decide) (by decide)]
  rfl

/-- The number of a port is not the mark of an unused pair. -/
theorem port_ne_ff {i : Nat} (h : i < MAX_PORT) : (UInt8.ofNat i != 0xff) = true := by
  rw [bne_iff_ne]
  intro heq
  have hnat : i % 256 = 255 := congrArg UInt8.toNat heq
  unfold MAX_PORT at h
  omega

/-- **A frame of a group** names the ports of the group. -/
theorem used_buildFrame (cmd_id seq : UInt8) {group : List Nat} (f : Nat → UInt8)
    (hlen : group.length ≤ 4) (hport : ∀ i ∈ group, i < MAX_PORT) :
    (buildFrame (poetCmd4Port cmd_id (group.map UInt8.ofNat) (group.map f)) seq).used =
      group.map (fun i => (UInt8.ofNat i, f i)) := by
  have hslots := slots_buildFrame cmd_id seq (group.map UInt8.ofNat) (group.map f)
    (by rwa [List.length_map]) (by rw [List.length_map, List.length_map])
  have hzip : (group.map UInt8.ofNat).zip (group.map f) =
      group.map (fun i => (UInt8.ofNat i, f i)) := List.zip_map' ..
  have hnamed : ∀ s ∈ group.map (fun i => (UInt8.ofNat i, f i)), (s.1 != 0xff) = true := by
    intro s hs
    obtain ⟨i, hi, rfl⟩ := List.mem_map.mp hs
    exact port_ne_ff (hport i hi)
  -- the pairs that fill up the frame name no port
  have hunused : ∀ n, (List.replicate n ((0xff : UInt8), (0xff : UInt8))).filter
      (fun s => s.1 != 0xff) = [] := by
    intro n
    rw [List.filter_replicate, if_neg (by decide)]
  rw [Frame.used, hslots, hzip, List.filter_append, List.filter_eq_self.mpr hnamed, hunused,
    List.append_nil]

theorem unused_buildFrame (cmd_id seq : UInt8) {group : List Nat} (f : Nat → UInt8)
    (hlen : group.length ≤ 4) (hport : ∀ i ∈ group, i < MAX_PORT) :
    ∀ s ∈ (buildFrame (poetCmd4Port cmd_id (group.map UInt8.ofNat) (group.map f)) seq).slots,
      s.1 = 0xff → s.2 = 0xff := by
  have hslots := slots_buildFrame cmd_id seq (group.map UInt8.ofNat) (group.map f)
    (by rwa [List.length_map]) (by rw [List.length_map, List.length_map])
  intro s hs hff
  rw [hslots, List.mem_append] at hs
  rcases hs with hs | hs
  · rw [List.zip_map', List.mem_map] at hs
    obtain ⟨i, hi, rfl⟩ := hs
    have hne := port_ne_ff (hport i hi)
    rw [bne_iff_ne] at hne
    exact absurd hff hne
  · rw [List.eq_of_mem_replicate hs]

section Cover

variable {ports : Nat → PortConfig} {l l' : List Nat} {fs fs' : List Frame}

theorem Covers.append (h : Covers ports l fs) (h' : Covers ports l' fs') :
    Covers ports (l ++ l') (fs ++ fs') := by
  have hsaid : ∀ cmd_id, saidOf cmd_id (fs ++ fs') = saidOf cmd_id fs ++ saidOf cmd_id fs' := by
    intro cmd_id
    rw [saidOf, List.filter_append, List.flatMap_append]
    rfl
  exact {
    kinds := List.forall_mem_append.mpr ⟨h.kinds, h'.kinds⟩
    priority := by rw [hsaid, h.priority, h'.priority, List.map_append]
    classification := by rw [hsaid, h.classification, h'.classification, List.map_append]
    limit_type := by rw [hsaid, h.limit_type, h'.limit_type, List.map_append]
    four := List.forall_mem_append.mpr ⟨h.four, h'.four⟩
    unused := List.forall_mem_append.mpr ⟨h.unused, h'.unused⟩ }

/-- **The three frames of a group** cover it. -/
theorem covers_groupSetup (ports : Nat → PortConfig) (seq : UInt8) {group : List Nat}
    (hlen : group.length ≤ 4) (hport : ∀ i ∈ group, i < MAX_PORT) :
    Covers ports group (framesFrom seq (groupSetup ports group)) := by
  have hframe : ∀ (cmd_id seq : UInt8) (f : Nat → UInt8), ∃ fr : Frame,
      fr = buildFrame (poetCmd4Port cmd_id (group.map UInt8.ofNat) (group.map f)) seq ∧
        fr 0 = cmd_id ∧ fr.used = group.map (fun i => (UInt8.ofNat i, f i)) ∧
          ∀ s ∈ fr.slots, s.1 = 0xff → s.2 = 0xff := fun cmd_id seq f =>
    ⟨_, rfl, buildFrame_zero _ _, used_buildFrame cmd_id seq f hlen hport,
      unused_buildFrame cmd_id seq f hlen hport⟩
  -- the three commands of a group take three sequence numbers
  obtain ⟨f₁, hf₁, hid₁, hused₁, hff₁⟩ := hframe 0x15 (seq + 1) (fun i => (ports i).priority)
  obtain ⟨f₂, hf₂, hid₂, hused₂, hff₂⟩ := hframe 0x11 (seq + 1 + 1) (fun _ => 1)
  obtain ⟨f₃, hf₃, hid₃, hused₃, hff₃⟩ := hframe 0x12 (seq + 1 + 1 + 1)
    (fun i => if (ports i).power_budget ≠ 0 then 2 else 1)
  have hframes : framesFrom seq (groupSetup ports group) = [f₁, f₂, f₃] := by
    rw [hf₁, hf₂, hf₃]
    rfl
  have hall : ∀ {P : Frame → Prop}, P f₁ → P f₂ → P f₃ → ∀ f ∈ [f₁, f₂, f₃], P f := by
    intro P h₁ h₂ h₃
    simp [h₁, h₂, h₃]
  rw [hframes]
  exact {
    kinds := hall (.inl hid₁) (.inr (.inl hid₂)) (.inr (.inr hid₃))
    priority := by simp [saidOf, hid₁, hid₂, hid₃, hused₁]
    classification := by simp [saidOf, hid₁, hid₂, hid₃, hused₂]
    limit_type := by simp [saidOf, hid₁, hid₂, hid₃, hused₃]
    four := hall (by simp [hused₁, hlen]) (by simp [hused₂, hlen]) (by simp [hused₃, hlen])
    unused := hall hff₁ hff₂ hff₃ }

/-- **The frames of `poet_setup`** from a port on cover the enabled ports behind it. -/
theorem covers_poetSetup (ports : Nat → PortConfig) {num_ports : Nat} (hn : num_ports ≤ MAX_PORT)
    (i : Nat) (seq : UInt8) :
    Covers ports (enabledFrom ports i (num_ports - i))
      (framesFrom seq (poetSetup ports num_ports i)) := by
  induction i using poetSetup.induct ports num_ports generalizing seq with
  | case1 i r =>
      rename_i ih
      obtain ⟨hstop, hports⟩ := fillGroup_enabled ports 4 (num_ports - i) i (by decide)
      have hlen := (length_fillGroup ports 4 (num_ports - i) i (by decide)).1
      have hmem : ∀ j ∈ r.1, j < MAX_PORT := by
        intro j hj
        have hin : j ∈ enabledFrom ports i (num_ports - i) := by
          rw [hports]
          exact List.mem_append_left _ hj
        rw [enabledFrom, List.mem_filter, List.mem_range'_1] at hin
        omega
      have hgroup := covers_groupSetup ports seq hlen hmem
      have hspec : poetSetup ports num_ports i = groupSetup ports r.1 ++
          if r.2 + 1 < num_ports then poetSetup ports num_ports (r.2 + 1) else [] := by
        rw [poetSetup]
        rfl
      have hge : i ≤ r.2 := le_fillGroup ports 4 (num_ports - i) i
      have hleft : i + (num_ports - i) - (r.2 + 1) = num_ports - (r.2 + 1) := by omega
      -- the group and the ports behind its last one are all the enabled ports there are
      have hsplit : enabledFrom ports i (num_ports - i) =
          r.1 ++ enabledFrom ports (r.2 + 1) (num_ports - (r.2 + 1)) := by
        rw [hports, ← hleft]
      rw [hsplit, hspec]
      by_cases hnext : r.2 + 1 < num_ports
      · rw [if_pos hnext]
        exact hgroup.append (ih hnext (seq + 1 + 1 + 1))
      · have hnone : enabledFrom ports (r.2 + 1) (num_ports - (r.2 + 1)) = [] := by
          rw [Nat.sub_eq_zero_of_le (by omega)]
          rfl
        rw [if_neg hnext, hnone, List.append_nil, List.append_nil]
        exact hgroup

/-- **The port setup ends, and its frames cover the enabled ports**, whatever stands in the arrays
when it begins and in the queue. -/
theorem setup_covers (ports : Nat → PortConfig) {num_ports : Nat} (hn : num_ports ≤ MAX_PORT)
    (port_ids priorities powerup_mode limit_type : Quad) (q : Queue) :
    ∃ cmds fs,
      (∀ k, 2 * num_ports + 2 ≤ k → run (setupBody ports num_ports) k
        (.start port_ids priorities powerup_mode limit_type) = some cmds) ∧
      (queueAll q cmds).1.cmd_pending.map Cmd.cmd = q.cmd_pending.map Cmd.cmd ++ fs ∧
      Covers ports ((List.range num_ports).filter (fun i => (ports i).enable)) fs := by
  obtain ⟨k, hk, hrun⟩ := run_setupBody ports num_ports 0
    (s := .start port_ids priorities powerup_mode limit_type) rfl rfl (Nat.zero_le _) rfl
    ⟨by simp, by simp, by simp, rfl⟩
  refine ⟨_, _, fun m hm => run_mono (by omega) hrun, queueAll_frames q _, ?_⟩
  rw [List.range_eq_range']
  exact covers_poetSetup ports hn 0 q.cmd_seq

/-- Six ports, of which the second is switched off. -/
theorem setup_covers_six : ∃ cmds fs,
    (∀ k, 2 * 6 + 2 ≤ k → run (setupBody (fun i => ⟨[], true, i != 1, 3, 0, 0⟩) 6) k
      (.start (fun _ => 0) (fun _ => 0) (fun _ => 0) (fun _ => 0)) = some cmds) ∧
    (queueAll initQueue cmds).1.cmd_pending.map Cmd.cmd =
      initQueue.cmd_pending.map Cmd.cmd ++ fs ∧
    Covers (fun i => ⟨[], true, i != 1, 3, 0, 0⟩)
      ((List.range 6).filter (fun i => i != 1)) fs :=
  setup_covers (fun i => ⟨[], true, i != 1, 3, 0, 0⟩) (by decide) _ _ _ _ initQueue

end Cover

end RealtekPoe
