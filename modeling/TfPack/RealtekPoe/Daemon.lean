import TfPack.Lib.Trace
import TfPack.RealtekPoe.Commands
import TfPack.RealtekPoe.Queue

set_option autoImplicit false

/-! # The PoE MCU daemon as a step machine

The daemon after its setup: bytes from the serial line, the poll every two seconds, the back-off
timer and ubus requests, in any order. Every step is a run of the command queue
(`daemon_refines`), so what holds of all runs of the queue holds of the daemon.

Nothing in the daemon notices that a reply does not come: the head of the queue leaves it only
when twelve bytes have arrived, and only `mcu_error_timeout`, started by a rejection, makes the
daemon write on its own. So the queue is not bounded by the number of ports and of ubus requests
(`cmdPending_unbounded`); what it holds is at most what the polls and requests since it was last
empty have added (`cmdPending_length_le`), and as long as no frame arrives the poll only adds to
it.
-/

namespace RealtekPoe

open StepMachine EventTrace

/-! ## The daemon -/

/-- The configuration, the command queue and the bytes in the read buffer of the stream. -/
structure Daemon where
  config : Config
  queue : Queue
  rx : Bytes

/-- `poe_cmd_queue` for one command after the other. -/
def queueAll (q : Queue) : List Bytes → Queue × List LineEvent
  | [] => (q, [])
  | cmd :: cmds =>
      let r := poeCmdQueue q cmd
      let r' := queueAll r.1 cmds
      (r'.1, r.2 ++ r'.2)

/-- The daemon with the commands `cmds` queued. -/
def Daemon.queueCmds (d : Daemon) (cmds : List Bytes) : Daemon × List LineEvent :=
  let r := queueAll d.queue cmds
  ({ d with queue := r.1 }, r.2)

/-- The first twelve bytes of the read buffer. -/
def frameOf (buf : Bytes) : Frame := fun i => buf.getD i 0

/-- `poe_stream_msg_cb`, called when `bytes` have been read: one frame at most is consumed. -/
def poeStreamMsgCb (d : Daemon) (bytes : Bytes) : Daemon × List LineEvent :=
  let buf := d.rx ++ bytes
  if buf.length < 12 then ({ d with rx := buf }, [])
  else
    let r := poeStreamMsg d.queue (frameOf buf)
    ({ d with queue := r.1, rx := buf.drop 12 }, r.2)

/-- The methods of the ubus object `poe`, with what `blobmsg_parse` finds for them; `reload`
reads the packages `poe` and `port`. -/
inductive UbusRequest
  | info
  | reload (poe port : List UciSection)
  | sendframe (frame : Option (List Char))
  | manage (port : Option (List Char)) (enable : Option Bool)

/-- The ubus callbacks. -/
def ubusRequest (strtof : List Char → Float32) (d : Daemon) :
    UbusRequest → Daemon × List LineEvent
  | .info => (d, [])
  | .reload poe port =>
      let d := { d with config := configLoad strtof false poe port d.config }
      d.queueCmds (poePortSetup d.config)
  | .sendframe frame => d.queueCmds (ubusPoeSendframeCb frame)
  | .manage port enable => d.queueCmds (ubusPoeManageCb d.config port enable)

/-- What `uloop_run` calls: the stream when bytes have arrived, `state_timeout`, the back-off
timer, ubus. -/
inductive DaemonAction
  | rx (bytes : Bytes)
  | stateTimeout
  | mcuTimeout
  | request (r : UbusRequest)

/-- The daemon as a step machine; the back-off timer expires only while it is pending. -/
def daemonMachine (strtof : List Char → Float32) : Machine Daemon DaemonAction LineEvent where
  step d
    | .rx bytes => if bytes = [] then none else some (poeStreamMsgCb d bytes)
    | .stateTimeout => some (d.queueCmds (stateTimeoutCb d.config))
    | .mcuTimeout =>
        if d.queue.mcu_error_timeout then
          let r := mcuClearTimeout d.queue
          some ({ d with queue := r.1 }, r.2)
        else none
    | .request r => some (ubusRequest strtof d r)

/-- What the daemon reads when it starts: the two packages and the device tree. -/
structure Boot where
  poe : List UciSection
  port : List UciSection
  compatible : Option String

/-- The configuration with which `main` enters the setup. -/
def Boot.config (b : Boot) (strtof : List Char → Float32) : Config :=
  configApplyQuirks b.compatible (configLoad strtof true b.poe b.port .initial)

/-- `main` up to `uloop_run`. -/
def Boot.start (b : Boot) (strtof : List Char → Float32) : Daemon × List LineEvent :=
  Daemon.queueCmds ⟨b.config strtof, initQueue, []⟩ (poeInitialSetup (b.config strtof))

/-! ## What a step can do -/

/-- The most commands a step queues when there are `n` ports. -/
def DaemonAction.cmds (n : Nat) : DaemonAction → Nat
  | .stateTimeout => pollCmds n
  | .request _ => portSetupCmds n
  | _ => 0

/-- **The four things a step can do.** -/
inductive DaemonStep (d : Daemon) : DaemonAction → Daemon → List LineEvent → Prop
  | queue (a : DaemonAction) (c : Config) (cmds : List Bytes)
      (grows : d.config.port_count ≤ c.port_count) (few : cmds.length ≤ a.cmds c.port_count)
      (poll : a = .stateTimeout → cmds.length = pollCmds d.config.port_count) :
      DaemonStep d a ⟨c, (queueAll d.queue cmds).1, d.rx⟩ (queueAll d.queue cmds).2
  | frame (bytes rest : Bytes) (reply : Frame) :
      DaemonStep d (.rx bytes) ⟨d.config, (poeStreamMsg d.queue reply).1, rest⟩
        (poeStreamMsg d.queue reply).2
  | short (bytes : Bytes) : DaemonStep d (.rx bytes) { d with rx := d.rx ++ bytes } []
  | expire (timer : d.queue.mcu_error_timeout = true) :
      DaemonStep d .mcuTimeout { d with queue := (mcuClearTimeout d.queue).1 }
        (mcuClearTimeout d.queue).2

/-- A request that queues one command at most. -/
theorem DaemonStep.of_one {d : Daemon} (r : UbusRequest) (cmds : List Bytes)
    (h : cmds.length ≤ 1) :
    DaemonStep d (.request r) (d.queueCmds cmds).1 (d.queueCmds cmds).2 := by
  refine .queue _ d.config cmds (Nat.le_refl _) ?_ (fun h => by cases h)
  show _ ≤ portSetupCmds d.config.port_count
  unfold portSetupCmds
  omega

theorem ubusRequest_step (strtof : List Char → Float32) (d : Daemon) (r : UbusRequest) :
    DaemonStep d (.request r) (ubusRequest strtof d r).1 (ubusRequest strtof d r).2 := by
  cases r with
  | info => exact DaemonStep.of_one _ [] (by simp)
  | reload poe port =>
      have hloaded := configLoad_loaded strtof false poe port d.config
      exact .queue _ _ _ hloaded.port_count (length_poePortSetup hloaded) (fun h => by cases h)
  | sendframe frame => exact DaemonStep.of_one _ _ (length_ubusPoeSendframeCb frame)
  | manage port enable => exact DaemonStep.of_one _ _ (length_ubusPoeManageCb d.config port enable)

theorem daemonMachine_step {strtof : List Char → Float32} {d d' : Daemon} {a : DaemonAction}
    {evs : List LineEvent} (h : (daemonMachine strtof).step d a = some (d', evs)) :
    DaemonStep d a d' evs := by
  cases a with
  | rx bytes =>
      simp only [daemonMachine, Option.ite_none_left_eq_some, Option.some.injEq] at h
      obtain ⟨-, h⟩ := h
      unfold poeStreamMsgCb at h
      dsimp only at h
      split at h
      · obtain ⟨rfl, rfl⟩ := Prod.mk.injEq .. ▸ h
        exact .short bytes
      · obtain ⟨rfl, rfl⟩ := Prod.mk.injEq .. ▸ h
        exact .frame bytes _ _
  | stateTimeout =>
      simp only [daemonMachine, Option.some.injEq] at h
      obtain ⟨rfl, rfl⟩ := Prod.mk.injEq .. ▸ h
      have hlen := length_stateTimeoutCb d.config
      exact .queue _ d.config _ (Nat.le_refl _) hlen.le (fun _ => hlen)
  | mcuTimeout =>
      simp only [daemonMachine, Option.ite_none_right_eq_some, Option.some.injEq] at h
      obtain ⟨htimer, h⟩ := h
      obtain ⟨rfl, rfl⟩ := Prod.mk.injEq .. ▸ h
      exact .expire htimer
  | request r =>
      simp only [daemonMachine, Option.some.injEq] at h
      have hstep := ubusRequest_step strtof d r
      rwa [h] at hstep

/-! ## The daemon refines the queue -/

/-- Queueing commands is a run of the queue. -/
theorem queueAll_exec (q : Queue) (cmds : List Bytes) :
    ∃ ws, Exec queueMachine q ws (queueAll q cmds).2 (queueAll q cmds).1 := by
  induction cmds generalizing q with
  | nil => exact ⟨[], .nil⟩
  | cons cmd cmds ih =>
      obtain ⟨ws, hws⟩ := ih (poeCmdQueue q cmd).1
      have hfirst : queueMachine.step q (.queue cmd) =
          some ((poeCmdQueue q cmd).1, (poeCmdQueue q cmd).2) := rfl
      exact ⟨_, (Exec.single hfirst).trans hws⟩

/-- A step of the daemon is a run of the queue with the same events. -/
theorem DaemonStep.refines {d d' : Daemon} {a : DaemonAction} {evs : List LineEvent}
    (h : DaemonStep d a d' evs) : ∃ ws, Exec queueMachine d.queue ws evs d'.queue := by
  cases h with
  | queue _ c cmds _ _ _ => exact queueAll_exec d.queue cmds
  | frame bytes rest reply =>
      have hstep : queueMachine.step d.queue (.frame reply) =
          some ((poeStreamMsg d.queue reply).1, (poeStreamMsg d.queue reply).2) := rfl
      exact ⟨_, Exec.single hstep⟩
  | short bytes => exact ⟨[], .nil⟩
  | expire timer =>
      have hstep : queueMachine.step d.queue .expire =
          some ((mcuClearTimeout d.queue).1, (mcuClearTimeout d.queue).2) := by
        simp only [queueMachine, timer, if_true]
      exact ⟨_, Exec.single hstep⟩

variable {strtof : List Char → Float32} {b : Boot}

/-- **Every run of the daemon, its setup included, is a run of the command queue.** -/
theorem daemon_refines {vs : List (Visit Daemon DaemonAction LineEvent)} {tr : List LineEvent}
    {d : Daemon} (h : Exec (daemonMachine strtof) (b.start strtof).1 vs tr d) :
    ∃ ws, Exec queueMachine initQueue ws ((b.start strtof).2 ++ tr) d.queue := by
  obtain ⟨us, hus⟩ := queueAll_exec initQueue (poeInitialSetup (b.config strtof))
  obtain ⟨ws, hws⟩ := h.simulate Daemon.queue (N := queueMachine)
    (fun _ _ _ _ hs => (daemonMachine_step hs).refines)
  exact ⟨_, hus.trans hws⟩

end RealtekPoe
