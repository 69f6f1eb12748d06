import TfPack.DeviceMonitor.Client

set_option autoImplicit false

/-! # The network buffer

`net_getCommand`, `getBuffer` and `getBufferLen` with the memory they use. One signed length, what
`recvfrom` has returned, says where a zero is written, how much is copied into the smaller settings
message, and how long the settings are. A function that reads or writes outside of an array has no
result (`netSafe_iff`); where it has one, it is that of the client's model, which cuts such copies
off (`NetMemory.netGetCommand_client`, `NetMemory.getBuffer_client`).
-/

namespace DeviceMonitor

/-! ## Memory -/

/-- `memcpy` of `bs` into an array, `off` bytes after its start. -/
def CArray.write {n : Nat} (a : CArray n) (off : Int) (bs : Bytes) : Option (CArray n) :=
  if h : 0 ≤ off ∧ off + bs.length ≤ n then
    some ⟨a.bytes.take off.toNat ++ (bs ++ a.bytes.drop (off.toNat + bs.length)), by
      simp [a.length_eq]; omega⟩
  else none

/-- `count` bytes of an array, from `off` on. -/
def CArray.read {n : Nat} (a : CArray n) (off count : Nat) : Option Bytes :=
  if off + count ≤ n then some ((a.bytes.drop off).take count) else none

/-- The size of `sett_msg_t.buff`. -/
def SETT_MSG_SIZE : Nat := 1 + MAC_LEN + MD5_LEN + SETTINGS_MSG_LEN

/-- The bytes in front of the message. -/
def SETT_HEADER : Nat := 39

/-- `buffer`, `bufferLen` and `settingsMsg`. `size_t` and `ssize_t` are words of 32 bits. -/
structure NetMemory where
  buffer : CArray MAX_BUFFER_SIZE
  bufferLen : Int
  settMsg : CArray SETT_MSG_SIZE
  len : UInt32

namespace NetMemory

/-- What `recvfrom` writes into the buffer, and what it returns. -/
def recvfrom (received : Option Bytes) (m : NetMemory) : Option (CArray MAX_BUFFER_SIZE × Int) :=
  match received with
  | none => some (m.buffer, -1)
  | some d =>
      let d := d.take MAX_BUFFER_SIZE
      (m.buffer.write 0 d).map (fun b => (b, d.length))

/-- `net_getCommand`. -/
def netGetCommand (received : Option Bytes) (m : NetMemory) : Option (NetMemory × UInt8) :=
  (m.recvfrom received).bind (fun r =>
    (r.1.write r.2 [0]).bind (fun buffer =>
      (buffer.read 0 1).map (fun first =>
        ({ m with buffer := buffer, bufferLen := r.2 }, first.headD 0))))

/-- `getBuffer`, into the settings message. The length that is copied is unsigned. -/
def getBuffer (index : UInt32) (m : NetMemory) : Option NetMemory :=
  if 0 < m.bufferLen then
    (m.buffer.read index.toNat (UInt32.ofInt m.bufferLen - index).toNat).bind (fun bs =>
      (m.settMsg.write 0 bs).map (fun s => { m with settMsg := s }))
  else some m

/-- `getBufferLen`. -/
def getBufferLen (m : NetMemory) : NetMemory := { m with len := UInt32.ofInt (m.bufferLen - 39) }

/-- The settings of a datagram: `net_getCommand` and what `client_settings` takes from it. -/
def takeSettings (received : Option Bytes) (m : NetMemory) : Option NetMemory :=
  (m.netGetCommand received).bind (fun r => (r.1.getBuffer 0).map getBufferLen)

end NetMemory

/-! ## Accesses -/

section Memory

variable {n : Nat} {a : CArray n}

theorem CArray.write_of_le {bs : Bytes} (h : bs.length ≤ n) :
    ∃ b, a.write 0 bs = some b ∧ b.bytes = bs ++ a.bytes.drop bs.length := by
  have hfits : (0 : Int) ≤ 0 ∧ (0 : Int) + bs.length ≤ n := ⟨le_refl 0, by omega⟩
  refine ⟨_, dif_pos hfits, ?_⟩
  simp

variable (a) in
theorem CArray.write_eq_none {off : Int} (bs : Bytes) (h : off < 0 ∨ n < off + bs.length) :
    a.write off bs = none :=
  dif_neg (by omega)

theorem CArray.write_zero {k : Nat} (h : k < n) :
    ∃ b, a.write k [0] = some b ∧ b.bytes = a.bytes.take k ++ 0 :: a.bytes.drop (k + 1) := by
  have hfits : (0 : Int) ≤ k ∧ (k : Int) + ([0] : Bytes).length ≤ n := by
    simp only [List.length_singleton]
    omega
  refine ⟨_, dif_pos hfits, ?_⟩
  simp

theorem CArray.read_of_le {k : Nat} (h : k ≤ n) : a.read 0 k = some (a.bytes.take k) := by
  rw [CArray.read, if_pos (by omega), List.drop_zero]

end Memory

/-! ## What the functions do -/

section Functions

variable {m : NetMemory} {d : Bytes} {k : Nat}

/-- **A datagram that leaves room for the zero** is received. -/
theorem NetMemory.netGetCommand_eq (m : NetMemory) (h : d.length < MAX_BUFFER_SIZE) :
    ∃ m', m.netGetCommand (some d) = some (m', m'.buffer.bytes.headD 0) ∧
      m'.buffer.bytes = d ++ 0 :: m.buffer.bytes.drop (d.length + 1) ∧
      m'.bufferLen = d.length ∧ m'.settMsg = m.settMsg := by
  obtain ⟨b, hb, hbytes⟩ := CArray.write_of_le (a := m.buffer) h.le
  obtain ⟨b', hb', hbytes'⟩ := CArray.write_zero (a := b) h
  have hread := CArray.read_of_le (a := b') (k := 1) (by decide)
  refine ⟨{ m with buffer := b', bufferLen := d.length }, ?_, ?_, rfl, rfl⟩
  · have hrecv : m.recvfrom (some d) = some (b, (d.length : Int)) := by
      show ((m.buffer.write 0 (d.take MAX_BUFFER_SIZE)).map
        (fun b => (b, ((d.take MAX_BUFFER_SIZE).length : Int)))) = _
      rw [List.take_of_length_le h.le, hb, Option.map_some]
    have hfirst : (b'.bytes.take 1).headD 0 = b'.bytes.headD 0 := by
      cases b'.bytes <;> rfl
    rw [NetMemory.netGetCommand, hrecv, Option.bind_some, hb', Option.bind_some, hread,
      Option.map_some, hfirst]
  · show b'.bytes = _
    rw [hbytes', hbytes, List.take_left' rfl, List.drop_length_add_append, List.drop_drop]

/-- The zero is written in front of the buffer after an error, and behind it when the datagram
fills it. -/
theorem NetMemory.netGetCommand_outside (m : NetMemory) {received : Option Bytes}
    (h : ∀ d, received = some d → MAX_BUFFER_SIZE ≤ d.length) :
    m.netGetCommand received = none := by
  cases received with
  | none =>
      have hout := CArray.write_eq_none m.buffer [0] (.inl (show (-1 : Int) < 0 by decide))
      simp only [NetMemory.netGetCommand, NetMemory.recvfrom, Option.bind_some, hout,
        Option.bind_none]
  | some d =>
      have hlen : (d.take MAX_BUFFER_SIZE).length = MAX_BUFFER_SIZE := by
        rw [List.length_take, Nat.min_eq_left (h d rfl)]
      obtain ⟨b, hb, -⟩ := CArray.write_of_le (a := m.buffer) hlen.le
      have hout : b.write (MAX_BUFFER_SIZE : Nat) [0] = none :=
        CArray.write_eq_none _ _ (.inr (by simp))
      simp only [NetMemory.netGetCommand, NetMemory.recvfrom, hb, Option.map_some,
        Option.bind_some, hlen, hout, Option.bind_none]

/-- The length that `getBuffer` copies. -/
theorem copied_length (h : k ≤ MAX_BUFFER_SIZE) : (UInt32.ofInt (k : Int) - 0).toNat = k := by
  have hlt : k < 2 ^ 32 := lt_of_le_of_lt h (by decide)
  rw [UInt32.sub_zero, UInt32.ofInt]
  simp
  omega

/-- **Bytes that the settings message has room for** are copied to its start. -/
theorem NetMemory.getBuffer_eq (hlen : m.bufferLen = k) (h : k ≤ SETT_MSG_SIZE) :
    ∃ m', m.getBuffer 0 = some m' ∧ m'.bufferLen = k ∧
      m'.settMsg.bytes = m.buffer.bytes.take k ++ m.settMsg.bytes.drop k := by
  by_cases hpos : 0 < k
  · have hle : k ≤ MAX_BUFFER_SIZE := le_trans h (by decide)
    have hread := CArray.read_of_le (a := m.buffer) hle
    have htake : (m.buffer.bytes.take k).length = k := by
      rw [List.length_take, m.buffer.length_eq, Nat.min_eq_left hle]
    obtain ⟨s, hs, hbytes⟩ := CArray.write_of_le (a := m.settMsg) (htake.trans_le h)
    refine ⟨{ m with settMsg := s }, ?_, hlen, ?_⟩
    · have hread' : m.buffer.read (0 : UInt32).toNat k = some (m.buffer.bytes.take k) := hread
      simp only [NetMemory.getBuffer, hlen, copied_length hle, hread', Option.bind_some, hs,
        Option.map_some]
      exact if_pos (by omega)
    · rw [hbytes, htake]
  · have hzero : k = 0 := by omega
    subst hzero
    exact ⟨m, if_neg (by omega), hlen, rfl⟩

/-- More bytes are copied over what is behind the message. -/
theorem NetMemory.getBuffer_outside (hlen : m.bufferLen = k) (h : SETT_MSG_SIZE < k)
    (hle : k ≤ MAX_BUFFER_SIZE) : m.getBuffer 0 = none := by
  have hread : m.buffer.read (0 : UInt32).toNat k = some (m.buffer.bytes.take k) :=
    CArray.read_of_le hle
  have htake : (m.buffer.bytes.take k).length = k := by
    rw [List.length_take, m.buffer.length_eq, Nat.min_eq_left hle]
  have hout : m.settMsg.write 0 (m.buffer.bytes.take k) = none :=
    CArray.write_eq_none _ _ (.inr (by omega))
  simp only [NetMemory.getBuffer, hlen, copied_length hle, hread, Option.bind_some, hout,
    Option.map_none]
  exact if_pos (by omega)

/-- The length that is stored is right from the header on; below it, it is nearly `2 ^ 32`. -/
theorem stored_length (h : k ≤ MAX_BUFFER_SIZE) :
    (UInt32.ofInt ((k : Int) - 39)).toNat = k - SETT_HEADER ↔ SETT_HEADER ≤ k := by
  have hmax : k ≤ 1550 := h
  have hheader : SETT_HEADER = 39 := rfl
  rw [UInt32.ofInt]
  simp
  omega

/-! ## The client's model -/

/-- **Where it has a result, the buffer is that of the client's model.** -/
theorem NetMemory.netGetCommand_client {m' : NetMemory} {received : Option Bytes} {cmd : UInt8}
    (h : m.netGetCommand received = some (m', cmd)) {c : Client}
    (hc : c.buffer = m.buffer.bytes) :
    (DeviceMonitor.netGetCommand received c).1.buffer = m'.buffer.bytes ∧
      (DeviceMonitor.netGetCommand received c).1.bufferLen = m'.bufferLen ∧
      (DeviceMonitor.netGetCommand received c).2 = cmd := by
  by_cases hfits : ∀ d, received = some d → MAX_BUFFER_SIZE ≤ d.length
  · rw [NetMemory.netGetCommand_outside m hfits] at h
    cases h
  · push Not at hfits
    obtain ⟨d, rfl, hd⟩ := hfits
    obtain ⟨m₁, heq, hbytes, hlen, -⟩ := NetMemory.netGetCommand_eq m hd
    rw [heq] at h
    cases h
    have hbuffer : (DeviceMonitor.netGetCommand (some d) c).1.buffer = m'.buffer.bytes := by
      rw [hbytes, ← hc, DeviceMonitor.netGetCommand]
      simp only [List.take_of_length_le hd.le]
    refine ⟨hbuffer, ?_, ?_⟩
    · rw [hlen, DeviceMonitor.netGetCommand]
      simp only [List.take_of_length_le hd.le]
    · show (DeviceMonitor.netGetCommand (some d) c).1.buffer.getD 0 0 = _
      rw [hbuffer]
      cases m'.buffer.bytes <;> rfl

theorem CArray.ofList_append {n : Nat} (a : CArray n) (rest : Bytes) :
    CArray.ofList n (a.bytes ++ rest) = a := by
  obtain ⟨bytes, rfl⟩ := a
  simp [CArray.ofList]

/-- The fields of a message are those of its bytes. -/
theorem SettMsg.ofBuff_buff (s : SettMsg) : SettMsg.ofBuff s.buff = s := by
  have hmac : s.buff.drop 1 = s.mac.bytes ++ (s.pass_md5.bytes ++ s.msg.bytes) := by
    rw [SettMsg.buff, List.drop_succ_cons, List.drop_zero, List.append_assoc]
  have hmd5 : s.buff.drop 7 = s.pass_md5.bytes ++ s.msg.bytes := by
    rw [← List.drop_drop (i := 6), hmac]
    exact List.drop_left' s.mac.length_eq
  have hmsg : s.buff.drop 39 = s.msg.bytes ++ [] := by
    rw [← List.drop_drop (i := 32), hmd5, List.append_nil]
    exact List.drop_left' s.pass_md5.length_eq
  rw [SettMsg.ofBuff, hmac, hmd5, hmsg, CArray.ofList_append, CArray.ofList_append,
    CArray.ofList_append]
  rfl

/-- **Where it has a result, the settings message is that of the client's model.** -/
theorem NetMemory.getBuffer_client {m' : NetMemory} (h : m.getBuffer 0 = some m') {c : Client}
    (hk : m.bufferLen = k) (hle : k ≤ MAX_BUFFER_SIZE) (hc : c.buffer = m.buffer.bytes)
    (hlen : c.bufferLen = m.bufferLen) (hs : c.settingsMsg.buff = m.settMsg.bytes) :
    DeviceMonitor.getBuffer c = .ofBuff m'.settMsg.bytes := by
  rcases Nat.lt_or_ge SETT_MSG_SIZE k with hout | hfits
  · rw [NetMemory.getBuffer_outside hk hout hle] at h
    cases h
  · obtain ⟨m₁, heq, -, hbytes⟩ := NetMemory.getBuffer_eq hk hfits
    rw [heq] at h
    cases h
    rw [DeviceMonitor.getBuffer, hlen, hk, hbytes, hs, hc]
    by_cases hpos : 0 < k
    · rw [if_pos (by omega)]
      rfl
    · have hzero : k = 0 := by omega
      subst hzero
      rw [if_neg (by omega), List.take_zero, List.nil_append, List.drop_zero, ← hs,
        SettMsg.ofBuff_buff]

end Functions

/-! ## Datagrams -/

/-- The bytes of the message in what has been received: those behind the header. -/
def messageBytes (received : Option Bytes) : Nat :=
  (received.elim [] (fun d => d.take MAX_BUFFER_SIZE)).length - SETT_HEADER

/-- All accesses are inside of the arrays, and the length of the settings is that of the message. -/
def NetSafe (received : Option Bytes) (m : NetMemory) : Prop :=
  ∃ m', m.takeSettings received = some m' ∧ m'.len.toNat = messageBytes received

/-- **When receiving and taking the settings is safe**: for the datagrams that have a whole header
and fit in the settings message. -/
theorem netSafe_iff (received : Option Bytes) (m : NetMemory) :
    NetSafe received m ↔
      ∃ d, received = some d ∧ SETT_HEADER ≤ d.length ∧ d.length ≤ SETT_MSG_SIZE := by
  have hsize : SETT_MSG_SIZE = 1063 := rfl
  have hmax : MAX_BUFFER_SIZE = 1550 := rfl
  by_cases hfits : ∀ d, received = some d → MAX_BUFFER_SIZE ≤ d.length
  · -- the zero is written outside of the buffer
    refine iff_of_false ?_ ?_
    · rintro ⟨m', h, -⟩
      rw [NetMemory.takeSettings, NetMemory.netGetCommand_outside m hfits] at h
      cases h
    · rintro ⟨d, hd, -, hle⟩
      have hlong := hfits d hd
      omega
  · push Not at hfits
    obtain ⟨d, rfl, hd⟩ := hfits
    obtain ⟨m₁, hget, -, hlen, -⟩ := NetMemory.netGetCommand_eq m hd
    have hmessage : messageBytes (some d) = d.length - SETT_HEADER := by
      show (d.take MAX_BUFFER_SIZE).length - SETT_HEADER = _
      rw [List.take_of_length_le hd.le]
    rw [NetSafe, NetMemory.takeSettings, hget, Option.bind_some, hmessage]
    rcases Nat.lt_or_ge SETT_MSG_SIZE d.length with hout | hroom
    · -- the copy goes over the end of the settings message
      rw [NetMemory.getBuffer_outside hlen hout hd.le]
      refine iff_of_false ?_ ?_
      · rintro ⟨m', h, -⟩
        cases h
      · rintro ⟨d', hd', -, hle⟩
        cases hd'
        omega
    · obtain ⟨m₂, hcopy, hlen', -⟩ := NetMemory.getBuffer_eq hlen hroom
      rw [hcopy]
      constructor
      · rintro ⟨m', h, hstored⟩
        cases h
        refine ⟨d, rfl, ?_, hroom⟩
        rw [NetMemory.getBufferLen, hlen'] at hstored
        exact (stored_length hd.le).mp hstored
      · rintro ⟨d', hd', hheader, -⟩
        cases hd'
        refine ⟨m₂.getBufferLen, rfl, ?_⟩
        rw [NetMemory.getBufferLen, hlen']
        exact (stored_length hd.le).mpr hheader

/-- Clear memory. -/
def clearMemory : NetMemory := ⟨.ofList _ [], 0, .ofList _ [], 0⟩

/-- A datagram that fills the buffer has its zero written behind it. -/
theorem full_datagram_outside : ¬∀ (received : Option Bytes) (m : NetMemory),
    NetSafe received m := by
  intro h
  obtain ⟨m', hm', -⟩ := h (some (List.replicate MAX_BUFFER_SIZE 0)) clearMemory
  have houtside : clearMemory.netGetCommand (some (List.replicate MAX_BUFFER_SIZE 0)) = none := by
    refine NetMemory.netGetCommand_outside clearMemory ?_
    rintro d hd
    cases hd
    exact List.length_replicate.ge
  rw [NetMemory.takeSettings, houtside] at hm'
  cases hm'

end DeviceMonitor
