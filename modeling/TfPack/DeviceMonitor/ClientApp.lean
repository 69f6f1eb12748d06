import TfPack.DeviceMonitor.Settings
import TfPack.Lib.BoundedLoop

set_option autoImplicit false

/-! # The main loop of the client

`client_app` calls `client_handler` until a result is fatal. Its loop test changes the code it
tests: it takes `ERR_CONFIGURATION` out of it by an exclusive or, then `ERR_NETWORK`. So the loop
is left after the results 2 and 7, always with 0 (`appRound_eq`), and not after 5.
-/

namespace DeviceMonitor

open BoundedLoop

/-! ## The loop -/

/-- What `client_app` holds: its `errorCode`, and how often it has called `client_handler`. -/
structure AppState where
  errorCode : UInt8
  calls : Nat

/-- `client_app` before its first test. -/
def appStart : AppState := ⟨ErrorCode.ERR_OK.val, 0⟩

/-- One round of `client_app`, where call `i` of `client_handler` has the result `results i`. -/
def appRound (results : Nat → UInt8) (s : AppState) : AppState ⊕ AppState :=
  -- the second part of the test is evaluated, and assigned, only where the first one is not zero
  let errorCode := s.errorCode ^^^ ErrorCode.ERR_CONFIGURATION.val
  if errorCode = 0 then .inr ⟨errorCode, s.calls⟩
  else
    let errorCode := errorCode ^^^ ErrorCode.ERR_NETWORK.val
    if errorCode = 0 then .inr ⟨errorCode, s.calls⟩
    else .inl ⟨results s.calls, s.calls + 1⟩

/-- `client_app` makes call `n` of `client_handler`. -/
def AppCalls (results : Nat → UInt8) (n : Nat) : Prop :=
  run (appRound results) (n + 1) appStart = none

/-- `client_app` returns, in the state `s`. -/
def AppReturns (results : Nat → UInt8) (s : AppState) : Prop :=
  ∃ n, run (appRound results) n appStart = some s

/-- The codes after which the loop is left. -/
def Stops (errorCode : UInt8) : Prop := errorCode = 2 ∨ errorCode = 7

section Loop

variable {results : Nat → UInt8}

variable (results) in
/-- **A round of the loop.** -/
theorem appRound_eq (s : AppState) :
    (Stops s.errorCode ∧ appRound results s = .inr ⟨0, s.calls⟩) ∨
      (¬Stops s.errorCode ∧ appRound results s = .inl ⟨results s.calls, s.calls + 1⟩) := by
  have hconf : s.errorCode ^^^ ErrorCode.ERR_CONFIGURATION.val = 0 ↔ s.errorCode = 2 :=
    UInt8.xor_eq_zero_iff
  have hnet : s.errorCode ^^^ ErrorCode.ERR_CONFIGURATION.val ^^^ ErrorCode.ERR_NETWORK.val = 0 ↔
      s.errorCode = 7 := by
    rw [UInt8.xor_assoc]
    exact UInt8.xor_eq_zero_iff
  by_cases h2 : s.errorCode = 2
  · refine .inl ⟨.inl h2, ?_⟩
    rw [appRound, if_pos (hconf.mpr h2), hconf.mpr h2]
  · by_cases h7 : s.errorCode = 7
    · refine .inl ⟨.inr h7, ?_⟩
      rw [appRound, if_neg (fun h => h2 (hconf.mp h)), if_pos (hnet.mpr h7), hnet.mpr h7]
    · refine .inr ⟨fun h => h.elim h2 h7, ?_⟩
      rw [appRound, if_neg (fun h => h2 (hconf.mp h)), if_neg (fun h => h7 (hnet.mp h))]

/-- What the loop does after a call, by its result. -/
theorem run_after (s : AppState) (n : Nat) :
    run (appRound results) (n + 1) s = none ↔
      ¬Stops s.errorCode ∧ ∀ i < n, ¬Stops (results (s.calls + i)) := by
  induction n generalizing s with
  | zero =>
      rcases appRound_eq results s with ⟨hstop, heq⟩ | ⟨hgo, heq⟩
      · rw [run_done heq]
        simp [hstop]
      · rw [run_next heq]
        simp [hgo, run]
  | succ n ih =>
      rcases appRound_eq results s with ⟨hstop, heq⟩ | ⟨hgo, heq⟩
      · rw [run_done heq]
        simp [hstop]
      · rw [run_next heq, ih]
        constructor
        · rintro ⟨hfirst, hrest⟩
          refine ⟨hgo, ?_⟩
          intro i hi
          cases i with
          | zero => exact hfirst
          | succ i =>
              have hnext := hrest i (by omega)
              rwa [show s.calls + 1 + i = s.calls + (i + 1) by omega] at hnext
        · rintro ⟨-, hall⟩
          refine ⟨hall 0 (by omega), ?_⟩
          intro i hi
          have hnext := hall (i + 1) (by omega)
          rwa [show s.calls + (i + 1) = s.calls + 1 + i by omega] at hnext

/-- **The calls that are made**: those without a result 2 or 7 in front of them. -/
theorem appCalls_iff (n : Nat) : AppCalls results n ↔ ∀ i < n, ¬Stops (results i) := by
  rw [AppCalls, run_after]
  simp [appStart, Stops, ErrorCode.val]

/-- **What is returned** is always 0. -/
theorem AppReturns.errorCode_eq {s : AppState} (h : AppReturns results s) : s.errorCode = 0 := by
  obtain ⟨n, hn⟩ := h
  have hdone : ∀ s r : AppState, True → appRound results s = .inr r → r.errorCode = 0 := by
    intro s r _ hr
    rcases appRound_eq results s with ⟨-, heq⟩ | ⟨-, heq⟩
    · rw [heq] at hr
      cases hr
      rfl
    · rw [heq] at hr
      cases hr
  exact run_inv (fun _ _ _ _ => trivial) hdone trivial hn

/-- A loop that makes every call never returns. -/
theorem AppReturns.not_of_calls {s : AppState} (h : AppReturns results s) :
    ∃ n, ¬AppCalls results n := by
  obtain ⟨n, hn⟩ := h
  refine ⟨n, ?_⟩
  rw [AppCalls, run_mono (Nat.le_succ n) hn]
  exact Option.some_ne_none s

end Loop

/-! ## Fatal results -/

/-- A result of `client_handler`: the codes that have been put together by `|`. -/
abbrev Result := List ErrorCode

/-- The value of a result. -/
def Result.value (r : Result) : UInt8 := r.foldr (fun e v => e.val ||| v) 0

/-- The result is, or contains, a code that ends the client. -/
def Result.Fatal (r : Result) : Prop := .ERR_CONFIGURATION ∈ r ∨ .ERR_NETWORK ∈ r

/-- The client runs exactly as long as no result is fatal, and returns the fatal one. -/
structure AppRight (results : Nat → Result) : Prop where
  calls : ∀ n, AppCalls (fun i => (results i).value) n ↔ ∀ i < n, ¬(results i).Fatal
  returns : ∀ s, AppReturns (fun i => (results i).value) s →
    ∃ i, s.calls = i + 1 ∧ (results i).Fatal ∧ s.errorCode = (results i).value

theorem Result.value_ne_zero {r : Result} {e : ErrorCode} (he : e ∈ r) (h0 : e ≠ .ERR_OK) :
    r.value ≠ 0 := by
  induction r with
  | nil => cases he
  | cons d r ih =>
      intro hzero
      obtain ⟨hd, hr⟩ := UInt8.or_eq_zero_iff.mp hzero
      rcases List.mem_cons.mp he with rfl | hmem
      · cases e <;> first | exact h0 rfl | cases hd
      · exact ih hmem hr

theorem Result.Fatal.value_ne_zero {r : Result} (h : r.Fatal) : r.value ≠ 0 := by
  rcases h with hconf | hnet
  · exact Result.value_ne_zero hconf (by decide)
  · exact Result.value_ne_zero hnet (by decide)

/-- Another code of a result with the value 2 adds nothing to it. -/
theorem or_eq_two {e : ErrorCode} {v : UInt8} (h : e.val ||| v = 2)
    (he : e ≠ .ERR_CONFIGURATION) : v = 2 := by
  have hle : e.val ||| 2 = 2 := by
    calc e.val ||| 2 = e.val ||| (e.val ||| v) := by rw [h]
      _ = e.val ||| v := by rw [← UInt8.or_assoc, UInt8.or_self]
      _ = 2 := h
  have hok : e.val = 0 := by
    cases e <;> first | rfl | exact absurd rfl he | exact absurd hle (by decide)
  rwa [hok, UInt8.zero_or] at h

/-- The value 2 is that of `ERR_CONFIGURATION` only. -/
theorem Result.fatal_of_value {r : Result} (h : r.value = 2) : r.Fatal := by
  induction r with
  | nil => cases h
  | cons e r ih =>
      by_cases he : e = .ERR_CONFIGURATION
      · exact .inl (he ▸ List.mem_cons_self)
      · rcases ih (or_eq_two h he) with hconf | hnet
        · exact .inl (List.mem_cons_of_mem _ hconf)
        · exact .inr (List.mem_cons_of_mem _ hnet)

/-- A loop that returns is wrong: it returns 0, which is no fatal result. -/
theorem AppRight.not_fatal {results : Nat → Result} (h : AppRight results) (i : Nat) :
    ¬(results i).Fatal ∧ (results i).value ≠ 7 := by
  have hforever : ∀ n, AppCalls (fun i => (results i).value) n := by
    intro n
    by_contra hstop
    obtain ⟨s, hs⟩ := Option.ne_none_iff_exists'.mp hstop
    have hret : AppReturns (fun i => (results i).value) s := ⟨n + 1, hs⟩
    obtain ⟨i, -, hfatal, hcode⟩ := h.returns s hret
    exact hfatal.value_ne_zero (hcode.symm.trans hret.errorCode_eq)
  have hcalls := hforever (i + 1)
  have hgo := (appCalls_iff (i + 1)).mp hcalls i (Nat.lt_succ_self i)
  exact ⟨(h.calls (i + 1)).mp hcalls i (Nat.lt_succ_self i), fun h7 => hgo (.inr h7)⟩

theorem AppRight.of_not_fatal {results : Nat → Result}
    (h : ∀ i, ¬(results i).Fatal ∧ (results i).value ≠ 7) : AppRight results := by
  have hgo : ∀ i, ¬Stops (results i).value := by
    rintro i (h2 | h7)
    · exact (h i).1 (Result.fatal_of_value h2)
    · exact (h i).2 h7
  have hforever : ∀ n, AppCalls (fun i => (results i).value) n :=
    fun n => (appCalls_iff n).mpr (fun i _ => hgo i)
  refine ⟨fun n => iff_of_true (hforever n) (fun i _ => (h i).1), ?_⟩
  intro s hs
  obtain ⟨n, hn⟩ := hs.not_of_calls
  exact absurd (hforever n) hn

/-- **When the loop is right**: as long as it has nothing to stop for, and no other result has the
value 7. -/
theorem appRight_iff (results : Nat → Result) :
    AppRight results ↔ ∀ i, ¬(results i).Fatal ∧ (results i).value ≠ 7 :=
  ⟨AppRight.not_fatal, AppRight.of_not_fatal⟩

/-- After the network error of the first call there is a second one. -/
theorem network_error_passed : ¬∀ results : Nat → Result, AppRight results := by
  intro h
  have hcalls : AppCalls (fun _ => Result.value [.ERR_NETWORK]) 1 := rfl
  exact ((h (fun _ => [.ERR_NETWORK])).calls 1).mp hcalls 0 Nat.one_pos (.inr (by simp))

/-! ## The client's results -/

/-- The result of `client_handler`, as the codes it is put together from. -/
def handlerResult (env : CallEnv) (c : Client) : Result :=
  match c.state with
  | .CLIENT_SATE_INIT => [env.socketInit]
  | .CLIENT_STATE_SEND =>
      if c.eventSendMsg c.msgType = none then [.ERR_OBJ_NOT_FOUND, .ERR_OBJ_NOT_FOUND]
      else [.ERR_OK]
  | .CLIENT_STATE_SETTINGS => [(clientStateSettings env c).2.1]
  | _ => [.ERR_OK]

/-- The client before call `n`, where call `i` reads `env i` and has room for what it copies. -/
def clientBefore (env : Nat → CallEnv) : Nat → Client
  | 0 => initClient
  | n + 1 => (clientHandler (env n) (clientBefore env n)).1

/-- The results of the calls of `client_app`. -/
def clientResults (env : Nat → CallEnv) (n : Nat) : Result :=
  handlerResult (env n) (clientBefore env n)

section Client

variable (env : CallEnv) (c : Client)

theorem Result.value_singleton (e : ErrorCode) : Result.value [e] = e.val := UInt8.or_zero

/-- The codes are those of the byte `client_handler` returns. -/
theorem handlerResult_value : (handlerResult env c).value = (clientHandler env c).2.1 := by
  cases hs : c.state with
  | CLIENT_STATE_SEND =>
      cases hf : c.eventSendMsg c.msgType <;>
        simp [handlerResult, clientHandler, clientStateSend, hs, hf, Result.value]
  | _ => simp [handlerResult, clientHandler, hs, Result.value]

theorem clientStateWait_state (hs : c.state = .CLIENT_STATE_WAIT) :
    (clientStateWait env c).state ≠ .CLIENT_SATE_INIT := by
  have hget : (netGetCommand env.received c).1.state = .CLIENT_STATE_WAIT := by
    unfold netGetCommand
    cases env.received <;> exact hs
  unfold clientStateWait
  dsimp only
  cases clientWaitCommand (netGetCommand env.received c).2 <;>
    (dsimp only; split_ifs <;> simp [hget])

theorem clientStateFillMsg_state (hs : c.state = .CLIENT_STATE_FILL_MSG) :
    (clientStateFillMsg env c).state ≠ .CLIENT_SATE_INIT := by
  have hemit : (clientEmitFill env c).state = .CLIENT_STATE_FILL_MSG := by
    unfold clientEmitFill
    split <;> exact hs
  unfold clientStateFillMsg
  dsimp only
  split
  · exact ClientState.noConfusion
  · simp [hemit]

theorem clientStateSettings_code : (clientStateSettings env c).2.1 = .ERR_AUTHENTICATION ∨
    (clientStateSettings env c).2.1 = .INFO_MAC_NOT_IDENTICAL := by
  have hcode : (clientStateSettings env c).2.1 = (clientSettings env c).2.1 := rfl
  rw [hcode, clientSettings_result]
  split
  · exact .inl rfl
  · exact .inr rfl

/-- No call comes back to the initial state. -/
theorem clientHandler_state : (clientHandler env c).1.state ≠ .CLIENT_SATE_INIT := by
  unfold clientHandler
  cases hs : c.state with
  | CLIENT_SATE_IDLE => simp [hs]
  | CLIENT_SATE_INIT => exact ClientState.noConfusion
  | CLIENT_STATE_WAIT => exact clientStateWait_state env c hs
  | CLIENT_STATE_FILL_MSG => exact clientStateFillMsg_state env c hs
  | CLIENT_STATE_SEND =>
      show (clientStateSend c).1.state ≠ _
      unfold clientStateSend
      dsimp only
      split <;> exact ClientState.noConfusion
  | CLIENT_STATE_SETTINGS =>
      by_cases hmac : c.searchOutMsg.mac.bytes = (getBuffer c).mac.bytes
      · obtain ⟨w, hw⟩ := clientStateSettings_refused env hmac
        simp [hw]
      · obtain ⟨w, hw⟩ := clientStateSettings_ignored env hmac
        simp [hw]
  | CLIENT_STATE_RELOAD => exact ClientState.noConfusion

/-- Only the first call has a fatal result. -/
theorem handlerResult_goes_on (h : c.state ≠ .CLIENT_SATE_INIT) :
    ¬(handlerResult env c).Fatal ∧ (handlerResult env c).value ≠ 7 := by
  cases hs : c.state with
  | CLIENT_SATE_INIT => exact absurd hs h
  | CLIENT_STATE_SEND =>
      cases hf : c.eventSendMsg c.msgType <;>
        simp [handlerResult, hs, hf, Result.Fatal, Result.value, ErrorCode.val]
  | CLIENT_STATE_SETTINGS =>
      rcases clientStateSettings_code env c with hcode | hcode <;>
        simp [handlerResult, hs, hcode, Result.Fatal, Result.value, ErrorCode.val]
  | _ => simp [handlerResult, hs, Result.Fatal, Result.value, ErrorCode.val]

end Client

/-- **When the client's loop is right**: when `net_socketInit` has no fatal result. -/
theorem client_appRight_iff (env : Nat → CallEnv) :
    AppRight (clientResults env) ↔
      (env 0).socketInit ≠ .ERR_CONFIGURATION ∧ (env 0).socketInit ≠ .ERR_NETWORK := by
  have hfirst : clientResults env 0 = [(env 0).socketInit] := rfl
  constructor
  · intro h
    have hfatal := (h.not_fatal 0).1
    rw [hfirst] at hfatal
    exact ⟨fun hconf => hfatal (.inl (by simp [hconf])), fun hnet => hfatal (.inr (by simp [hnet]))⟩
  · rintro ⟨hconf, hnet⟩
    refine AppRight.of_not_fatal ?_
    intro i
    cases i with
    | zero =>
        rw [hfirst, Result.value_singleton]
        refine ⟨?_, by cases (env 0).socketInit <;> decide⟩
        rintro (h | h)
        · exact hconf (List.mem_singleton.mp h).symm
        · exact hnet (List.mem_singleton.mp h).symm
    | succ i => exact handlerResult_goes_on _ _ (clientHandler_state _ _)

/-- **The socket is read after it could not be opened.** -/
theorem client_receives_without_socket {env : Nat → CallEnv}
    (h : (env 0).socketInit = .ERR_NETWORK) :
    AppCalls (fun n => (clientHandler (env n) (clientBefore env n)).2.1) 1 ∧
      (clientBefore env 1).state = .CLIENT_STATE_WAIT := by
  have hvalue : (fun n => (clientHandler (env n) (clientBefore env n)).2.1) =
      fun n => (clientResults env n).value := funext fun n => (handlerResult_value _ _).symm
  rw [hvalue]
  refine ⟨(appCalls_iff 1).mpr ?_, rfl⟩
  intro i hi
  obtain rfl : i = 0 := by omega
  show ¬Stops (Result.value [(env 0).socketInit])
  rw [h, Result.value_singleton]
  rintro (h2 | h7)
  · cases h2
  · cases h7

end DeviceMonitor
