import TfPack.Lib.Machine
import TfPack.Lib.SectionStore

set_option autoImplicit false

/-! # Users: `config_user.lua`

A user is a section `login` of the configuration `rpcd` and an account of the system. `add_user`
makes the section first and fills it last; between the two it creates the account and, for an
administrator, a hash. Nothing is taken back when one of these calls fails, or when the level is
unknown (`usersRight_iff`).

The names and passwords are pasted into JSON in a command of the shell. They are taken to have no
quotes and no backslashes in them, so that each call is given the values the script means.
-/

namespace Users

open SectionStore StepMachine

/-! ## The state -/

/-- The value of an option: a text, or a list. -/
inductive Value
  | text (t : String)
  | list (l : List String)
  deriving DecidableEq, Repr

/-- The configuration `rpcd`. -/
abbrev Config := Store String Value

/-- An account of the system. Its shell is the one of the level it was made for. -/
structure Account where
  level : String
  password : String
  deriving DecidableEq, Repr

/-- The configuration, whose sections have names of their own, and the accounts by name. A name or a
password is what a call was given: one with quotes or backslashes in it is outside the model. -/
structure State where
  config : Config
  accounts : String → Option Account
  named : config.Named

/-- The section is a login of the user. -/
def isLogin (username : String) (sec : Section String Value) : Bool :=
  sec.type == "login" && sec.options "username" == some (.text username)

/-- `ubus call uci add`, which gives the section a name. -/
def State.addSection (id : String) (s : State) : State where
  config := SectionStore.add "login" id s.config
  accounts := s.accounts
  named := named_add s.named

/-- `ubus call uci set`. -/
def State.setOptions (id : String) (values : List (String × Value)) (s : State) : State where
  config := setAll id values s.config
  accounts := s.accounts
  named := named_setAll s.named

/-- `ubus call uci delete`. -/
def State.deleteSection (id : String) (s : State) : State where
  config := SectionStore.delete id s.config
  accounts := s.accounts
  named := named_delete s.named

/-- `ubus call tf_system createUser`: an account that is there gets the password. -/
def State.createAccount (username level password : String) (s : State) : State :=
  { s with
    accounts := Function.update s.accounts username
      (some ⟨(s.accounts username).elim level Account.level, password⟩) }

/-- `ubus call tf_system deleteUser`. -/
def State.deleteAccount (username : String) (s : State) : State :=
  { s with accounts := Function.update s.accounts username none }

/-! ## The commands -/

/-- `add_user`, with what comes of its calls: the name of the new section, the result of
`generateHash`, and whether the others succeed. -/
structure Add where
  username : String
  password : String
  level : String
  newSection : Option String
  createUser : Bool
  generateHash : Option String
  uciSet : Bool

/-- `adminRule`. -/
def adminRule (level : String) : List (String × Value) :=
  if level = "full" then [("read", .list ["*"]), ("write", .list ["*"])]
  else [("read", .list ["*"])]

/-- The options of a login, as they stand in the call. An empty text sets nothing. -/
def Add.values (c : Add) (hash : String) : List (String × Value) :=
  [("username", .text c.username), ("password", .text ("$p$" ++ c.username))] ++
    ((if hash = "" then [] else [("hash", .text hash)]) ++ adminRule c.level)

/-- `createUser`. The name `root` is refused. -/
def Add.creates (c : Add) : Bool := c.createUser && c.username != "root"

def Add.create (c : Add) (s : State) : State :=
  if c.creates then s.createAccount c.username c.level c.password else s

def Add.set (c : Add) (id hash : String) (s : State) : State :=
  if c.uciSet then s.setOptions id (c.values hash) else s

/-- There is a login of the user. -/
def Present (username : String) (s : State) : Prop := s.config.any (isLogin username) = true

instance (username : String) (s : State) : Decidable (Present username s) := by
  unfold Present
  infer_instance

/-- `add_user`, and what it prints. Without a section or a hash it ends with an error of Lua. -/
def addUser (c : Add) (s : State) : State × List String :=
  if Present c.username s then (s, ["error: User *" ++ c.username ++ "* is present"])
  else
    match c.newSection with
    | none => (s, [])
    | some id =>
        let s := s.addSection id
        if c.level = "full" then
          let s := c.create s
          match c.generateHash with
          | none => (s, [])
          | some hash => (c.set id hash s, [])
        else if c.level = "user" then (c.set id "" (c.create s), [])
        else (s, [])

/-- `delete_user`, with what comes of the two calls for a section. -/
structure Delete where
  username : String
  uciDelete : String → Bool
  deleteUser : String → Bool

/-- The two calls for a section. -/
def Delete.remove (c : Delete) (id : String) (s : State) : State :=
  let s := if c.uciDelete id then s.deleteSection id else s
  if c.deleteUser id then s.deleteAccount c.username else s

/-- The loop of `delete_user`: the state, what is printed, and `count`. -/
structure Loop where
  state : State
  printed : List String
  count : Nat

/-- One section of the loop. -/
def Delete.round (c : Delete) (r : Loop) (sec : Section String Value) : Loop :=
  let r := if isLogin c.username sec then
      ⟨c.remove sec.name r.state, r.printed ++ ["info: User *" ++ c.username ++ "* was deleted"],
        r.count + 1⟩
    else r
  if 1 < r.count then
    { r with printed := r.printed ++ ["error: user *" ++ c.username ++ "* more then 1"] }
  else r

/-- `delete_user`, and what it prints. -/
def deleteUser (c : Delete) (s : State) : State × List String :=
  let r := s.config.foldl c.round ⟨s, [], 0⟩
  (r.state, if r.count = 0 then r.printed ++ ["error: user *" ++ c.username ++ "* not found"]
    else r.printed)

/-! ## Runs -/

inductive Command
  | add (c : Add)
  | delete (c : Delete)

def Command.run : Command → State → State
  | .add c, s => (addUser c s).1
  | .delete c, s => (deleteUser c s).1

/-- The section that a command makes. -/
def Command.made : Command → State → List String
  | .add c, s => if Present c.username s then [] else c.newSection.toList
  | .delete _, _ => []

/-- The commands one after the other; the events are the sections that are made. The name of a new
section is not taken. -/
def userMachine : Machine State Command String where
  step s c :=
    if (c.made s).all (fun id => (find id s.config).isNone) then some (c.run s, c.made s) else none

/-! ## What should hold -/

/-- **Each user has at most one login.** -/
def AtMostOne (s : State) : Prop :=
  ∀ username, ∀ sec ∈ s.config, ∀ sec' ∈ s.config,
    isLogin username sec = true → isLogin username sec' = true → sec = sec'

/-- The login of a user with its rules, and a hash where it may write. -/
structure Complete (sec : Section String Value) : Prop where
  login : ∃ username, isLogin username sec = true ∧
    sec.options "password" = some (.text ("$p$" ++ username))
  read : sec.options "read" = some (.list ["*"])
  write : sec.options "write" = none ∨
    (sec.options "write" = some (.list ["*"]) ∧ ∃ hash ≠ "", sec.options "hash" = some (.text hash))

/-- Each login that was made is complete. -/
def MadeComplete (s : State) (made : List String) : Prop :=
  ∀ sec ∈ s.config, sec.name ∈ made → Complete sec

/-- The user has a login already, the level is unknown, or a call fails. -/
def Fails (c : Add) (s : State) : Prop :=
  Present c.username s ∨ c.newSection = none ∨ (c.level ≠ "full" ∧ c.level ≠ "user") ∨
    c.creates = false ∨ (c.level = "full" ∧ ∀ hash, c.generateHash = some hash → hash = "") ∨
    c.uciSet = false

/-- A login is added, and the account is there. -/
def Added (c : Add) (s s' : State) : Prop :=
  (∃ sec, s'.config = s.config ++ [sec] ∧ isLogin c.username sec = true ∧ Complete sec) ∧
    (∀ u, u ≠ c.username → s'.accounts u = s.accounts u) ∧
      ∃ account, s'.accounts c.username = some account ∧ account.password = c.password

/-- An add that fails changes nothing, and another one adds the user. -/
structure AddRight (c : Add) (s : State) : Prop where
  failed : Fails c s → (addUser c s).1 = s
  added : ¬Fails c s → Added c s (addUser c s).1

/-- All calls of a delete succeed, and there is one. -/
def Succeeds (c : Delete) (s : State) : Prop :=
  Present c.username s ∧
    ∀ sec ∈ s.config, isLogin c.username sec = true →
      c.uciDelete sec.name = true ∧ c.deleteUser sec.name = true

/-- A successful delete removes the logins of the user and the account, and nothing else. -/
def DeleteRight (c : Delete) (s : State) : Prop :=
  Succeeds c s →
    (deleteUser c s).1.config = s.config.filter (fun sec => !isLogin c.username sec) ∧
      (deleteUser c s).1.accounts = Function.update s.accounts c.username none

def CommandRight : Command → State → Prop
  | .add c, s => AddRight c s
  | .delete c, s => DeleteRight c s

/-- An add stops before its section is made, or succeeds. -/
def Undivided : Command → State → Prop
  | .add c, s => Present c.username s ∨ c.newSection = none ∨ ¬Fails c s
  | .delete _, _ => True

/-! ## What an add does -/

/-- The hash that goes into the section. -/
def Add.hashValue (c : Add) : String := if c.level = "full" then c.generateHash.getD "" else ""

section AddUser

variable {c : Add} {s : State} {id : String}

theorem create_config (c : Add) (s : State) : (c.create s).config = s.config := by
  rw [Add.create]
  split <;> rfl

theorem addUser_of_present (h : Present c.username s) : (addUser c s).1 = s := by
  rw [addUser, if_pos h]

theorem addUser_of_none (h : c.newSection = none) : (addUser c s).1 = s := by
  rw [addUser, h]
  split <;> rfl

/-- The section that is made stays, whatever fails. -/
theorem find_addUser (hpresent : ¬Present c.username s) (hid : c.newSection = some id) :
    (find id (addUser c s).1.config).isSome := by
  have hadd : ∀ t : State, t.config = (s.addSection id).config → (find id t.config).isSome := by
    intro t ht
    rw [ht, State.addSection, find_add, if_pos rfl]
    rfl
  have hset : ∀ (t : State) (hash : String), t.config = (s.addSection id).config →
      (find id (c.set id hash t).config).isSome := by
    intro t hash ht
    rw [Add.set]
    split
    · rw [State.setOptions, find_setAll, if_pos rfl, Option.isSome_map]
      exact hadd t ht
    · exact hadd t ht
  rw [addUser, if_neg hpresent, hid]
  dsimp only
  split
  · split
    · exact hadd _ (create_config c _)
    · exact hset _ _ (create_config c _)
  · split
    · exact hset _ _ (create_config c _)
    · exact hadd _ rfl

/-- **An add without a failure** makes the account and fills the section. -/
theorem addUser_of_not_fails (h : ¬Fails c s) : ∃ id, c.newSection = some id ∧
    (addUser c s).1 =
      ((s.addSection id).createAccount c.username c.level c.password).setOptions id
        (c.values c.hashValue) := by
  simp only [Fails, not_or, not_and, Bool.not_eq_false] at h
  obtain ⟨hpresent, hid, hlevel, hcreates, hhash, hset⟩ := h
  obtain ⟨id, hid⟩ := Option.ne_none_iff_exists'.mp hid
  refine ⟨id, hid, ?_⟩
  rw [addUser, if_neg hpresent, hid]
  dsimp only
  rw [Add.create, if_pos hcreates, Add.hashValue]
  by_cases hfull : c.level = "full"
  · have hsome : c.generateHash ≠ none := fun hnone => hhash hfull (by simp [hnone])
    obtain ⟨hash, hhash'⟩ := Option.ne_none_iff_exists'.mp hsome
    rw [if_pos hfull, if_pos hfull, hhash']
    dsimp only
    rw [Add.set, if_pos hset]
    rfl
  · have huser : c.level = "user" := not_not.mp (hlevel hfull)
    rw [if_neg hfull, if_pos huser, if_neg hfull, Add.set, if_pos hset]

theorem read_mem_adminRule (level : String) : ("read", .list ["*"]) ∈ adminRule level := by
  rw [adminRule]
  split <;> simp

theorem nodup_values (c : Add) (hash : String) : ((c.values hash).map Prod.fst).Nodup := by
  rw [Add.values, adminRule]
  split <;> split <;> simp

/-- The options of a login that is added. -/
theorem complete_values (hfails : ¬Fails c s) (id : String) :
    isLogin c.username ⟨id, "login", writeOptions (c.values c.hashValue) (fun _ => none)⟩ = true ∧
      Complete ⟨id, "login", writeOptions (c.values c.hashValue) (fun _ => none)⟩ := by
  have hof : ∀ o ∈ c.values c.hashValue,
      writeOptions (c.values c.hashValue) (fun _ => none) o.1 = some o.2 :=
    fun o ho => writeOptions_of_mem (nodup_values c _) _ ho
  have hname := hof ("username", .text c.username) (by simp [Add.values])
  have hpass := hof ("password", .text ("$p$" ++ c.username)) (by simp [Add.values])
  have hread := hof ("read", .list ["*"]) (by simp [Add.values, read_mem_adminRule])
  have hlogin : isLogin c.username
      ⟨id, "login", writeOptions (c.values c.hashValue) (fun _ => none)⟩ = true := by
    simp [isLogin, hname]
  refine ⟨hlogin, ⟨⟨c.username, hlogin, hpass⟩, hread, ?_⟩⟩
  by_cases hfull : c.level = "full"
  · have hne : c.hashValue ≠ "" := by
      intro hnil
      refine hfails (.inr (.inr (.inr (.inr (.inl ⟨hfull, fun hash hhash => ?_⟩)))))
      rw [Add.hashValue, if_pos hfull, hhash, Option.getD_some] at hnil
      exact hnil
    refine .inr ⟨hof ("write", .list ["*"]) (by simp [Add.values, adminRule, hfull]), ?_⟩
    exact ⟨c.hashValue, hne, hof ("hash", .text c.hashValue) (by simp [Add.values, hne])⟩
  · refine .inl (writeOptions_of_not_mem ?_ _)
    rw [Add.values, adminRule, if_neg hfull]
    split <;> simp

/-- **An add without a failure adds the user.** -/
theorem added_of_not_fails (hfails : ¬Fails c s)
    (hnew : ∀ id, c.newSection = some id → find id s.config = none) :
    Added c s (addUser c s).1 := by
  obtain ⟨id, hid, hrun⟩ := addUser_of_not_fails hfails
  obtain ⟨hlogin, hcomplete⟩ := complete_values hfails id
  rw [hrun]
  refine ⟨⟨_, setAll_add_of_new (hnew id hid) "login" _, hlogin, hcomplete⟩, ?_, ?_⟩
  · intro u hu
    exact Function.update_of_ne hu _ _
  · exact ⟨_, Function.update_self _ _ _, rfl⟩

/-- **An add is right** exactly when it stops before its section is made, or does not fail. -/
theorem addRight_iff (hnew : ∀ id, c.newSection = some id → find id s.config = none) :
    AddRight c s ↔ Present c.username s ∨ c.newSection = none ∨ ¬Fails c s := by
  constructor
  · intro h
    by_contra hno
    simp only [not_or, not_not] at hno
    obtain ⟨hpresent, hid, hfails⟩ := hno
    obtain ⟨id, hid⟩ := Option.ne_none_iff_exists'.mp hid
    have hfound := find_addUser hpresent hid
    rw [h.failed hfails, hnew id hid] at hfound
    cases hfound
  · rintro (hpresent | hid | hfails)
    · exact ⟨fun _ => addUser_of_present hpresent, fun hno => absurd (.inl hpresent) hno⟩
    · exact ⟨fun _ => addUser_of_none hid, fun hno => absurd (.inr (.inl hid)) hno⟩
    · exact ⟨fun h => absurd h hfails, fun _ => added_of_not_fails hfails hnew⟩

end AddUser

/-! ## What a delete does -/

section DeleteUser

variable {c : Delete} {s : State}

/-- The sections of a list are removed. -/
def Delete.removeAll (c : Delete) (l : Config) (s : State) : State :=
  l.foldl (fun s sec => c.remove sec.name s) s

/-- The loop removes the logins of the user. -/
theorem foldl_round (c : Delete) (l : Config) (r : Loop) :
    (l.foldl c.round r).state = c.removeAll (l.filter (isLogin c.username)) r.state := by
  induction l generalizing r with
  | nil => rfl
  | cons sec l ih =>
      rw [List.foldl_cons, ih, Delete.round]
      by_cases hlogin : isLogin c.username sec = true
      · rw [if_pos hlogin, List.filter_cons_of_pos hlogin]
        split <;> rfl
      · rw [if_neg hlogin, List.filter_cons_of_neg hlogin]
        split <;> rfl

theorem deleteUser_state (c : Delete) (s : State) :
    (deleteUser c s).1 = c.removeAll (s.config.filter (isLogin c.username)) s :=
  foldl_round c s.config ⟨s, [], 0⟩

/-- No section is changed. -/
theorem mem_of_mem_remove {id : String} {sec : Section String Value}
    (h : sec ∈ (c.remove id s).config) : sec ∈ s.config := by
  rw [Delete.remove] at h
  have hsec : sec ∈ (if c.uciDelete id then s.deleteSection id else s).config := by
    split at h <;> exact h
  split at hsec
  · exact (mem_delete.mp hsec).1
  · exact hsec

theorem mem_of_mem_removeAll {l : Config} {sec : Section String Value}
    (h : sec ∈ (c.removeAll l s).config) : sec ∈ s.config := by
  induction l generalizing s with
  | nil => exact h
  | cons t l ih => exact mem_of_mem_remove (ih h)

/-- Where all calls succeed, the sections of the list go, and the account. -/
theorem removeAll_succeeds {l : Config}
    (h : ∀ sec ∈ l, c.uciDelete sec.name = true ∧ c.deleteUser sec.name = true) :
    (c.removeAll l s).config = s.config.filter (fun t => !(l.map Section.name).contains t.name) ∧
      (l ≠ [] → (c.removeAll l s).accounts = Function.update s.accounts c.username none) := by
  induction l generalizing s with
  | nil => exact ⟨by simp [Delete.removeAll], fun hne => absurd rfl hne⟩
  | cons sec l ih =>
      rw [List.forall_mem_cons] at h
      have hone : c.remove sec.name s = (s.deleteSection sec.name).deleteAccount c.username := by
        rw [Delete.remove, if_pos h.1.1, if_pos h.1.2]
      have hstep : c.removeAll (sec :: l) s = c.removeAll l (c.remove sec.name s) := rfl
      obtain ⟨hconfig, haccounts⟩ := ih (s := c.remove sec.name s) h.2
      rw [hstep, hconfig]
      constructor
      · rw [hone]
        show (s.config.filter _).filter _ = _
        rw [List.filter_filter]
        refine List.filter_congr (fun t _ => ?_)
        rw [List.map_cons, List.contains_cons, Bool.not_or, Bool.and_comm]
        rfl
      · intro _
        have haccount : (c.remove sec.name s).accounts =
            Function.update s.accounts c.username none := by
          rw [hone]
          rfl
        by_cases hl : l = []
        · rw [hl]
          exact haccount
        · rw [haccounts hl, haccount, Function.update_idem]

/-- **A successful delete is right.** -/
theorem deleteRight (c : Delete) (s : State) : DeleteRight c s := by
  rintro ⟨hpresent, hcalls⟩
  have hall : ∀ sec ∈ s.config.filter (isLogin c.username),
      c.uciDelete sec.name = true ∧ c.deleteUser sec.name = true := by
    intro sec hsec
    rw [List.mem_filter] at hsec
    exact hcalls sec hsec.1 hsec.2
  obtain ⟨hconfig, haccounts⟩ := removeAll_succeeds (s := s) hall
  rw [deleteUser_state]
  constructor
  · rw [hconfig]
    refine List.filter_congr (fun t ht => congrArg not ?_)
    rw [Bool.eq_iff_iff, List.contains_iff_mem, List.mem_map]
    constructor
    · rintro ⟨sec, hsec, hname⟩
      rw [List.mem_filter] at hsec
      exact eq_of_name s.named hsec.1 ht hname ▸ hsec.2
    · intro hlogin
      exact ⟨t, List.mem_filter.mpr ⟨ht, hlogin⟩, rfl⟩
  · refine haccounts (fun hnil => ?_)
    obtain ⟨sec, hsec, hlogin⟩ := List.any_eq_true.mp hpresent
    exact List.filter_eq_nil_iff.mp hnil sec hsec hlogin

end DeleteUser

/-! ## Every run -/

/-- The logins are as they should be. -/
def Sound (s : State) (made : List String) : Prop := AtMostOne s ∧ MadeComplete s made

theorem isLogin_inj {u v : String} {sec : Section String Value} (h : isLogin u sec = true)
    (h' : isLogin v sec = true) : u = v := by
  simp only [isLogin, Bool.and_eq_true, beq_iff_eq] at h h'
  have heq := h.2.symm.trans h'.2
  simpa using heq

/-- A new user keeps the logins as they should be. -/
theorem sound_added {c : Add} {s s' : State} {made new : List String} (h : Sound s made)
    (hpresent : ¬Present c.username s) (hadded : Added c s s')
    (hnew : ∀ id ∈ new, find id s.config = none) : Sound s' (made ++ new) := by
  obtain ⟨⟨sec, hconfig, hlogin, hcomplete⟩, -⟩ := hadded
  have hold : ∀ u, ∀ t ∈ s.config, isLogin u t = true → isLogin u sec = true → False := by
    intro u t ht htu hsecu
    obtain rfl := isLogin_inj hlogin hsecu
    exact hpresent (List.any_eq_true.mpr ⟨t, ht, htu⟩)
  constructor
  · intro u t ht t' ht' htu ht'u
    rw [hconfig, List.mem_append, List.mem_singleton] at ht ht'
    rcases ht with ht | rfl <;> rcases ht' with ht' | rfl
    · exact h.1 u t ht t' ht' htu ht'u
    · exact absurd ht'u (fun hsecu => hold u t ht htu hsecu)
    · exact absurd htu (fun hsecu => hold u t' ht' ht'u hsecu)
    · rfl
  · intro t ht hname
    rw [hconfig, List.mem_append, List.mem_singleton] at ht
    rcases ht with ht | rfl
    · rcases List.mem_append.mp hname with hname | hname
      · exact h.2 t ht hname
      · exact absurd rfl (find_eq_none.mp (hnew _ hname) t ht)
    · exact hcomplete

/-- A state with fewer sections. -/
theorem sound_of_subset {s s' : State} {made : List String} (h : Sound s made)
    (hsub : ∀ sec ∈ s'.config, sec ∈ s.config) : Sound s' (made ++ []) := by
  rw [List.append_nil]
  exact ⟨fun u t ht t' ht' => h.1 u t (hsub t ht) t' (hsub t' ht'),
    fun t ht => h.2 t (hsub t ht)⟩

/-- What a step of the machine is. -/
theorem step_eq {s s' : State} {c : Command} {evs : List String}
    (h : userMachine.step s c = some (s', evs)) :
    (∀ id ∈ c.made s, find id s.config = none) ∧ s' = c.run s ∧ evs = c.made s := by
  simp only [userMachine, Option.ite_none_right_eq_some, Option.some.injEq, Prod.mk.injEq] at h
  obtain ⟨hnew, rfl, rfl⟩ := h
  refine ⟨fun id hid => ?_, rfl, rfl⟩
  exact Option.isNone_iff_eq_none.mp (List.all_eq_true.mp hnew id hid)

/-- A command is right exactly when it is not cut short. -/
theorem commandRight_iff {s : State} {c : Command}
    (hnew : ∀ id ∈ c.made s, find id s.config = none) : CommandRight c s ↔ Undivided c s := by
  cases c with
  | delete c => exact iff_of_true (deleteRight c s) trivial
  | add c =>
      by_cases hpresent : Present c.username s
      · refine iff_of_true ⟨fun _ => addUser_of_present hpresent, fun hno => ?_⟩ (.inl hpresent)
        exact absurd (.inl hpresent) hno
      · refine addRight_iff (fun id hid => hnew id ?_)
        rw [Command.made, if_neg hpresent, hid]
        exact List.mem_singleton_self id

/-- A command that is not cut short keeps the logins as they should be. -/
theorem sound_step {s : State} {c : Command} {made : List String} (h : Sound s made)
    (hnew : ∀ id ∈ c.made s, find id s.config = none) (hc : Undivided c s) :
    Sound (c.run s) (made ++ c.made s) := by
  cases c with
  | delete c =>
      refine sound_of_subset h (fun sec hsec => ?_)
      rw [Command.run, deleteUser_state] at hsec
      exact mem_of_mem_removeAll hsec
  | add c =>
      by_cases hpresent : Present c.username s
      · rw [Command.made, if_pos hpresent, Command.run, addUser_of_present hpresent]
        exact sound_of_subset h (fun _ hsec => hsec)
      · by_cases hid : c.newSection = none
        · rw [Command.made, if_neg hpresent, hid, Command.run, addUser_of_none hid]
          exact sound_of_subset h (fun _ hsec => hsec)
        · have hfails : ¬Fails c s := (hc.resolve_left hpresent).resolve_left hid
          have hright := (commandRight_iff hnew).mpr hc
          exact sound_added h hpresent (hright.added hfails) hnew

/-- **In every run the users are as they should be exactly when no add is cut short** between its
section and its end. -/
theorem usersRight_iff {s₀ s : State} (h0 : AtMostOne s₀) {vs : List (Visit State Command String)}
    {tr : List String} (h : Exec userMachine s₀ vs tr s) :
    ((∀ v ∈ vs, Sound v.state v.past ∧ CommandRight v.act v.state) ∧ Sound s tr) ↔
      ∀ v ∈ vs, Undivided v.act v.state := by
  constructor
  · intro hall v hv
    obtain ⟨s', evs, hstep, -⟩ := h.visit_step v hv
    exact (commandRight_iff (step_eq hstep).1).mp (hall.1 v hv).2
  · intro hundivided
    have hsound : (∀ v ∈ vs, Sound v.state v.past) ∧ Sound s tr := by
      refine h.inv_run (fun vs s tr => (∀ v ∈ vs, Undivided v.act v.state) →
        (∀ v ∈ vs, Sound v.state v.past) ∧ Sound s tr) ?_ ?_ hundivided
      · exact fun _ => ⟨nofun, h0, fun _ _ hname => by cases hname⟩
      · intro vs s tr c s' evs ih hstep hall
        rw [List.forall_mem_append, List.forall_mem_singleton] at hall
        obtain ⟨hvs, hs⟩ := ih hall.1
        obtain ⟨hnew, rfl, rfl⟩ := step_eq hstep
        refine ⟨?_, sound_step hs hnew hall.2⟩
        rw [List.forall_mem_append, List.forall_mem_singleton]
        exact ⟨hvs, hs⟩
    refine ⟨fun v hv => ⟨hsound.1 v hv, ?_⟩, hsound.2⟩
    obtain ⟨s', evs, hstep, -⟩ := h.visit_step v hv
    exact (commandRight_iff (step_eq hstep).1).mpr (hundivided v hv)

/-- The configuration and the system without users. -/
def noUsers : State := ⟨[], fun _ => none, List.nodup_nil⟩

/-- An administrator whose hash cannot be made. -/
def addUnhashed : Add := ⟨"admin", "secret", "full", some "cfg01", true, none, true⟩

/-- A user. -/
def addReader : Add := ⟨"reader", "secret", "user", some "cfg01", true, none, true⟩

theorem noUsers_atMostOne : AtMostOne noUsers := fun _ _ hsec => by cases hsec

theorem usersRight_iff_addReader : ∃ vs tr s, Exec userMachine noUsers vs tr s ∧
    vs.map Visit.act = [.add addReader] ∧
    (∀ v ∈ vs, Sound v.state v.past ∧ CommandRight v.act v.state) ∧ Sound s tr := by
  have hrun : Exec userMachine noUsers _ _ _ :=
    (Exec.empty userMachine noUsers).snoc (a := .add addReader) rfl
  refine ⟨_, _, _, hrun, rfl, (usersRight_iff noUsers_atMostOne hrun).mpr ?_⟩
  intro v hv
  obtain rfl := List.mem_singleton.mp hv
  refine .inr (.inr ?_)
  rintro (h | h | h | h | h | h) <;> revert h <;> decide

/-- **A login without a name is left** where the hash fails. -/
theorem addUnhashed_not_right :
    ¬ ∀ (s₀ s : State) (vs : List (Visit State Command String)) (tr : List String),
      AtMostOne s₀ → Exec userMachine s₀ vs tr s →
      (∀ v ∈ vs, Sound v.state v.past ∧ CommandRight v.act v.state) ∧ Sound s tr := by
  intro h
  have hrun : Exec userMachine noUsers _ _ _ :=
    (Exec.empty userMachine noUsers).snoc (a := .add addUnhashed) rfl
  obtain ⟨hall, -⟩ := h _ _ _ _ noUsers_atMostOne hrun
  have hright : AddRight addUnhashed noUsers := (hall _ List.mem_cons_self).2
  have hfails : Fails addUnhashed noUsers :=
    .inr (.inr (.inr (.inr (.inl ⟨rfl, fun _ hhash => by cases hhash⟩))))
  have hconfig := congrArg (fun s => s.config.length) (hright.failed hfails)
  exact absurd hconfig (by decide)

end Users
