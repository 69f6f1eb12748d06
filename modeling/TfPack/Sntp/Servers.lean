import TfPack.DeviceMonitor.Types
import TfPack.Lib.ShellLex

set_option autoImplicit false

/-! # Time servers: `config_sntp.lua`

The time servers are a list option of the section `ntp`. Both commands read the list, delete the
option and add the servers one by one, each with a command line of its own. `delete` deletes the
option anew for each server of the list, so that the last server is all it can leave
(`deleteServer_server`).
-/

namespace Sntp

open DeviceMonitor (ascii)
open ShellLex

/-! ## The configuration -/

/-- The option `system.ntp.server`; `[]` when it is not set. -/
abbrev Servers := List Word

/-- The section `ntp`. -/
structure Ntp where
  enabled : Option Word
  server : Servers

/-- The service runs unless it is switched off. -/
def Ntp.Enabled (ntp : Ntp) : Prop := ntp.enabled = none ∨ ntp.enabled = some (ascii "1")

instance (ntp : Ntp) : Decidable ntp.Enabled := by
  unfold Ntp.Enabled
  infer_instance

/-- What is printed. -/
inductive Msg
  | disabled | presented | notFound
  | deleted (value : Word)

def Msg.text : Msg → Word
  | .disabled => ascii "error: SNTP serves is disabled"
  | .presented => ascii "error: This TIME server is presented in the list"
  | .notFound => ascii "error: this TIME server not be found"
  | .deleted value => ascii "info: The time server " ++ value ++ ascii " was deleted"

/-! ## Command lines -/

/-- What a command line does to the servers that is no simple `uci` command. -/
abbrev Shell := List Byte → Servers → Servers

def serverOption : Word := ascii "system.ntp.server"

/-- `system.ntp.server=`, in front of a value. -/
def serverValue : Word := ascii "system.ntp.server="

/-- `uci` and its arguments. It wants one argument behind the command. -/
def uci (args : List Word) (servers : Servers) : Servers :=
  match args with
  | [cmd, arg] =>
      if cmd = ascii "del" ∧ arg = serverOption then []
      else if cmd = ascii "add_list" ∧ serverValue <+: arg then
        servers ++ [arg.drop serverValue.length]
      else servers
  | _ => servers

/-- `executeCommand`. -/
def executeCommand (sh : Shell) (cmd : List Byte) (servers : Servers) : Servers :=
  match words cmd with
  | some (program :: args) => if program = ascii "uci" then uci args servers else sh cmd servers
  | _ => sh cmd servers

def cmdDel : List Byte := ascii "uci del system.ntp.server"

def cmdAddList (value : Word) : List Byte := ascii "uci add_list system.ntp.server=" ++ value

/-! ## The commands -/

/-- `add_server`. -/
def addServer (sh : Shell) (value : Word) (ntp : Ntp) : Ntp × List Msg :=
  if ntp.enabled = some (ascii "0") then (ntp, [.disabled])
  else if ntp.Enabled then
    match ntp.server with
    | [] => ({ ntp with server := executeCommand sh (cmdAddList value) ntp.server }, [])
    | _ =>
        let equal := ntp.server.filter (fun host => host == value)
        if equal = [] then
          let servers := ntp.server.foldl (fun cur host => executeCommand sh (cmdAddList host) cur)
            (executeCommand sh cmdDel ntp.server)
          ({ ntp with server := executeCommand sh (cmdAddList value) servers }, [])
        else (ntp, equal.map (fun _ => .presented))
  else (ntp, [])

/-- One round of the loop of `delete_server`: the option is deleted, and the server added unless it
is the one to go. -/
def deleteRound (sh : Shell) (value : Word) (r : Servers × List Msg) (host : Word) :
    Servers × List Msg :=
  let cur := executeCommand sh cmdDel r.1
  if value ≠ host then (executeCommand sh (cmdAddList host) cur, r.2)
  else (cur, r.2 ++ [.deleted value])

/-- `delete_server`. -/
def deleteServer (sh : Shell) (value : Word) (ntp : Ntp) : Ntp × List Msg :=
  if ntp.enabled = some (ascii "0") then (ntp, [.disabled])
  else if ntp.Enabled then
    match ntp.server with
    | [] => (ntp, [.notFound])
    | _ =>
        let r := ntp.server.foldl (deleteRound sh value) (ntp.server, [])
        ({ ntp with server := r.1 }, r.2)
  else (ntp, [])

/-! ## What a command line does -/

section Commands

variable {sh : Shell} {v : Word} {ntp : Ntp}

/-- The shell takes the server as it is. -/
def Passes (v : Word) : Prop := ∀ c ∈ v, isBare c = true

theorem bare_literal {t : String} (hne : ascii t ≠ [])
    (hhead : (ascii t).head?.map kind ≠ some .comment)
    (h : (ascii t).all isBare = true) : Bare (ascii t) :=
  ⟨hne, hhead, List.all_eq_true.mp h⟩

/-- The option is deleted. -/
theorem executeCommand_del (servers : Servers) : executeCommand sh cmdDel servers = [] := by
  have hwords : words cmdDel = some [ascii "uci", ascii "del", serverOption] := by decide +kernel
  rw [executeCommand, hwords]
  rfl

theorem words_cmdAddList (v : Word) :
    words (cmdAddList v) =
      (words (serverValue ++ v)).map (fun ws => ascii "uci" :: ascii "add_list" :: ws) := by
  have hline : cmdAddList v =
      ascii "uci" ++ 32 :: (ascii "add_list" ++ 32 :: (serverValue ++ v)) := rfl
  have huci : Bare (ascii "uci") := bare_literal (by decide) (by decide) (by decide)
  have hadd : Bare (ascii "add_list") := bare_literal (by decide) (by decide) (by decide)
  rw [hline, words_bare_blank huci, words_bare_blank hadd, Option.map_map]
  rfl

theorem words_serverValue_iff :
    words (serverValue ++ v) = some [serverValue ++ v] ↔ Passes v :=
  words_glued_iff (bare_literal (by decide) (by decide) (by decide)) v

/-- A server that passes the shell is added. -/
theorem executeCommand_add (h : Passes v) (servers : Servers) :
    executeCommand sh (cmdAddList v) servers = servers ++ [v] := by
  rw [executeCommand, words_cmdAddList, words_serverValue_iff.mpr h]
  have hadd : ¬(ascii "add_list" = ascii "del" ∧ serverValue ++ v = serverOption) :=
    fun h => absurd h.1 (by decide)
  simp [uci, hadd]

/-- A shell that leaves no servers. -/
def quiet : Shell := fun _ _ => []

/-- `uci add_list` adds what stands behind the name of the option in its one argument. -/
theorem eq_of_uci_add {ws : List Word} (h : uci (ascii "add_list" :: ws) [] = [v]) :
    ws = [serverValue ++ v] := by
  match ws with
  | [] => cases h
  | _ :: _ :: _ => cases h
  | [arg] =>
      have hdel : ¬(ascii "add_list" = ascii "del" ∧ arg = serverOption) :=
        fun h => absurd h.1 (by decide)
      rw [uci, if_neg hdel] at h
      split at h
      · rename_i hadd
        obtain ⟨t, rfl⟩ := hadd.2
        rw [List.drop_left, List.nil_append, List.singleton_inj] at h
        rw [h]
      · cases h

/-- **Only a server that passes the shell is added for certain.** -/
theorem passes_of_add (h : executeCommand quiet (cmdAddList v) [] = [v]) : Passes v := by
  rw [executeCommand, words_cmdAddList] at h
  cases hwords : words (serverValue ++ v) with
  | none => simp [hwords, quiet] at h
  | some ws =>
      simp only [hwords, Option.map_some, if_true] at h
      rw [eq_of_uci_add h] at hwords
      exact words_serverValue_iff.mp hwords

/-- A command line adds at most one server. -/
theorem length_add_le (cmd : List Byte) : (executeCommand quiet cmd []).length ≤ 1 := by
  unfold executeCommand uci
  split
  · split_ifs
    · split
      · split_ifs <;> simp
      · simp
    · simp [quiet]
  · simp [quiet]

/-! ## What the commands do -/

/-- The server that the last round of `delete` leaves. -/
def leftOf (sh : Shell) (v : Word) (l : Servers) : Servers :=
  match l.getLast? with
  | none => []
  | some host => if v ≠ host then executeCommand sh (cmdAddList host) [] else []

theorem Ntp.Enabled.ne_zero (h : ntp.Enabled) : ntp.enabled ≠ some (ascii "0") := by
  rcases h with h | h <;> rw [h]
  · exact nofun
  · decide

/-- **What `delete` leaves** is what its last round adds. -/
theorem deleteServer_server (h : ntp.Enabled) :
    (deleteServer sh v ntp).1.server = leftOf sh v ntp.server := by
  rw [deleteServer, if_neg h.ne_zero, if_pos h, leftOf]
  rcases List.eq_nil_or_concat ntp.server with hnil | ⟨pre, host, heq⟩
  · simp [hnil]
  · rw [List.concat_eq_append] at heq
    rw [heq, List.getLast?_concat]
    split
    · rename_i hnil
      simp at hnil
    · show (List.foldl (deleteRound sh v) _ (pre ++ [host])).1 = _
      rw [List.foldl_append, List.foldl_cons, List.foldl_nil, deleteRound, executeCommand_del]
      by_cases hv : v ≠ host
      · simp only [if_pos hv]
      · simp only [if_neg hv]

/-- The enabling is as before. -/
theorem addServer_enabled (ntp : Ntp) : (addServer sh v ntp).1.enabled = ntp.enabled := by
  unfold addServer
  split_ifs
  · rfl
  · split
    · rfl
    · dsimp only
      split_ifs <;> rfl
  · rfl

/-- A server that is there is not added. -/
theorem addServer_of_mem (h : ntp.Enabled) (hv : v ∈ ntp.server) :
    (addServer sh v ntp).1 = ntp := by
  rw [addServer, if_neg h.ne_zero, if_pos h]
  split
  · rename_i hnil
    rw [hnil] at hv
    cases hv
  · have hequal : ntp.server.filter (fun host => host == v) ≠ [] := by
      intro hnil
      have hnone := List.filter_eq_nil_iff.mp hnil v hv
      simp at hnone
    rw [if_neg hequal]

/-- The first server. -/
theorem addServer_of_nil (h : ntp.Enabled) (hnil : ntp.server = []) :
    (addServer sh v ntp).1.server = executeCommand sh (cmdAddList v) [] := by
  rw [addServer, if_neg h.ne_zero, if_pos h, hnil]

end Commands

/-! ## When the commands are right -/

/-- **The commands do what they should** with a list of servers and a server. -/
structure Changes (sh : Shell) (v : Word) (ntp : Ntp) : Prop where
  deletes : (deleteServer sh v ntp).1.server = ntp.server.filter (fun host => host != v)
  adds : (addServer sh v ntp).1.server =
    if v ∈ ntp.server then ntp.server else ntp.server ++ [v]
  restores : v ∉ ntp.server → (deleteServer sh v (addServer sh v ntp).1).1.server = ntp.server

/-- **They do so whatever the shell makes of other command lines.** -/
def ServersRight (l : Servers) (v : Word) : Prop :=
  ∀ (sh : Shell) (ntp : Ntp), ntp.Enabled → ntp.server = l → Changes sh v ntp

/-- The servers before the last one are all the one to go, and the last one passes the shell. -/
def LastLeft (l : Servers) (v : Word) : Prop :=
  (∀ host ∈ l.dropLast, host = v) ∧ ∀ host, l.getLast? = some host → host ≠ v → Passes host

/-- What is left is what should be exactly when only the last server can be left. -/
theorem leftOf_eq_filter_iff (l : Servers) (v : Word) :
    (∀ sh, leftOf sh v l = l.filter (fun host => host != v)) ↔ LastLeft l v := by
  rcases List.eq_nil_or_concat l with rfl | ⟨pre, host, rfl⟩
  · exact iff_of_true (fun _ => rfl) ⟨by simp, by simp⟩
  rw [List.concat_eq_append, LastLeft, List.dropLast_concat, List.getLast?_concat,
    List.filter_append]
  have hpre : pre.filter (fun h => h != v) = [] ↔ ∀ h ∈ pre, h = v := by
    simp [List.filter_eq_nil_iff]
  by_cases hhost : host = v
  · subst hhost
    have hleft : ∀ sh, leftOf sh host (pre ++ [host]) = [] := by
      intro sh
      rw [leftOf, List.getLast?_concat]
      exact if_neg (fun h => h rfl)
    simp only [hleft, bne_self_eq_false, Bool.false_eq_true, not_false_eq_true,
      List.filter_cons_of_neg, List.filter_nil, List.append_nil, forall_const]
    rw [eq_comm, hpre]
    refine ⟨fun h => ⟨h, ?_⟩, And.left⟩
    intro h heq hne
    exact absurd (Option.some.inj heq).symm hne
  · have hleft : ∀ sh, leftOf sh v (pre ++ [host]) = executeCommand sh (cmdAddList host) [] := by
      intro sh
      rw [leftOf, List.getLast?_concat]
      exact if_pos (Ne.symm hhost)
    have hkept : [host].filter (fun h => h != v) = [host] := by simp [hhost]
    simp only [hleft, hkept]
    constructor
    · intro h
      have hlen := length_add_le (cmdAddList host)
      rw [h quiet, List.length_append, List.length_singleton] at hlen
      have hnil : pre.filter (fun h => h != v) = [] :=
        List.eq_nil_of_length_eq_zero (by omega)
      have hquiet := h quiet
      rw [hnil, List.nil_append] at hquiet
      refine ⟨hpre.mp hnil, ?_⟩
      rintro h heq -
      rw [← Option.some.inj heq]
      exact passes_of_add hquiet
    · rintro ⟨hall, hpasses⟩ sh
      rw [hpre.mpr hall, executeCommand_add (hpasses host rfl hhost)]

/-- **When the commands are right**: there is no server yet and the new one passes the shell, or the
server is there and `delete` leaves the last one only. -/
theorem serversRight_iff (l : Servers) (v : Word) :
    ServersRight l v ↔ (l = [] ∧ Passes v) ∨ (v ∈ l ∧ LastLeft l v) := by
  have henabled : Ntp.Enabled ⟨none, l⟩ := .inl rfl
  constructor
  · intro h
    by_cases hv : v ∈ l
    · refine .inr ⟨hv, (leftOf_eq_filter_iff l v).mp (fun sh => ?_)⟩
      have hdeletes := (h sh ⟨none, l⟩ henabled rfl).deletes
      rwa [deleteServer_server henabled] at hdeletes
    · have hnil : l = [] := by
        have hright := h quiet ⟨none, l⟩ henabled rfl
        have hadds := hright.adds
        have hrestores := hright.restores hv
        rw [if_neg hv] at hadds
        have hstill : (addServer quiet v ⟨none, l⟩).1.Enabled := .inl (addServer_enabled _)
        rw [deleteServer_server hstill, hadds, leftOf, List.getLast?_concat] at hrestores
        simpa using hrestores.symm
      subst hnil
      refine .inl ⟨rfl, passes_of_add ?_⟩
      have hadds := (h quiet ⟨none, []⟩ henabled rfl).adds
      rwa [addServer_of_nil henabled rfl] at hadds
  · rintro (⟨rfl, hpasses⟩ | ⟨hv, hlast⟩) sh ntp hntp hl
    · have hadds : (addServer sh v ntp).1.server = [v] := by
        rw [addServer_of_nil hntp hl, executeCommand_add hpasses, List.nil_append]
      have hstill : (addServer sh v ntp).1.Enabled := by
        rw [Ntp.Enabled, addServer_enabled]
        exact hntp
      refine ⟨?_, ?_, ?_⟩
      · rw [deleteServer_server hntp, hl]
        rfl
      · rw [hadds, hl]
        simp
      · intro _
        rw [deleteServer_server hstill, hadds, hl]
        exact if_neg (fun h => h rfl)
    · subst hl
      refine ⟨?_, ?_, fun hnew => absurd hv hnew⟩
      · rw [deleteServer_server hntp]
        exact (leftOf_eq_filter_iff _ v).mpr hlast sh
      · rw [addServer_of_mem hntp hv, if_pos hv]

/-- **Of two servers one is lost when a third one is deleted.** -/
theorem first_server_lost : ¬ServersRight [ascii "a", ascii "b"] (ascii "c") := by
  intro h
  have hdeletes := (h quiet ⟨none, [ascii "a", ascii "b"]⟩ (.inl rfl) rfl).deletes
  have hleft : (deleteServer quiet (ascii "c") ⟨none, [ascii "a", ascii "b"]⟩).1.server =
      [ascii "b"] := by decide +kernel
  rw [hleft] at hdeletes
  exact absurd hdeletes (by decide)

end Sntp
