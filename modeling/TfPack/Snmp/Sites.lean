import Mathlib.Tactic.IntervalCases
import TfPack.Snmp.ScalarNext
import TfPack.Snmp.TableNext

set_option autoImplicit false

/-! # The tables and the lists of scalars of the agent

The six tables and the four lists of scalars of the tree. Four tables have as many rows as ubus
reports ports; the inputs are the four of `i2c.sensorList`, and there are two SFP slots.
-/

namespace Snmp

/-! ## The rows of the backend -/

variable {B : Backend} {m : MibObj} {i : Nat}

theorem portValue_row {count : Int} (h1 : 1 ≤ i) (hi : (i : Int) ≤ count) :
    portValue B count m i = some (B.read m i, .ok) := by
  rw [portValue, if_neg (by omega), if_neg (by omega)]

theorem portValue_over {count : Int} (hi : count < (i : Int)) :
    portValue B count m i = some (none, .overIndex) := by
  rw [portValue, if_pos hi]

theorem i2cHandler_row
    (hm : m.name ∈ [some "inputState", some "inputType", some "inputAlarm", some "inputIndex"])
    (h1 : 1 ≤ i) (hi : i ≤ 4) : i2cHandler B m i = some (B.read m i, .ok) := by
  have hlen : ¬ i > i2cSensorList.length := Nat.not_lt.mpr hi
  rw [i2cHandler, if_pos hm, if_neg hlen, if_neg (by omega)]

theorem i2cHandler_over
    (hm : m.name ∈ [some "inputState", some "inputType", some "inputAlarm", some "inputIndex"])
    (hi : 4 < i) : i2cHandler B m i = some (none, .overIndex) := by
  have hlen : i > i2cSensorList.length := hi
  rw [i2cHandler, if_pos hm, if_pos hlen]

/-! ## The tables -/

/-- The nodes the search goes through. -/
def psw : Node := ⟨[3, 2], "psw", pswList, .list⟩

def switch : Node := ⟨[3], "switch", switchList, .list⟩

def configPSW : Node := ⟨[3, 2, 1], "configPSW", configPSWList, .list⟩

def statusPSW : Node := ⟨[3, 2, 2], "statusPSW", statusPSWList, .list⟩

def specialStatus : Node := ⟨[3, 2, 2, 6], "specialStatus", specialStatusList, .list⟩

/-- Below `specialStatus` there is no element 0. -/
theorem lookup_special_zero (rest : Oid) : getOidElement (3 :: 2 :: 2 :: 6 :: 0 :: rest) =
    ([switch, psw, statusPSW] ++ [specialStatus], .zeroIndex) := by
  show oidElements (rest.length + 5) specialStatusList 5
    [switch, psw, statusPSW, specialStatus] (0 :: rest) = _
  rw [oidElements]
  rfl

def autoRestart : Table where
  path := [3, 2, 1, 2]
  name := "autoRestart"
  entryName := "autoRestartTable"
  rowName := "autoRestartEntry"
  columns := autoRestartEntry
  above := [switch, psw]
  parent := configPSW
  siblings := configPSWList
  num := 2
  rows B := B.arConfig - 2
  overRes := none
  next := [3, 2, 1, 3]
  columns_pos := by decide
  num_pos := by decide
  table_at := rfl
  lookup _ := rfl
  column_at c h1 hc := by
    change c ≤ 9 at hc
    interval_cases c <;> exact ⟨_, rfl⟩
  leaf c h1 hc := by
    change c ≤ 9 at hc
    interval_cases c <;> exact ⟨rfl, rfl, by decide, by decide⟩
  fetch_row c h1 hc B i hi hrow := by
    change c ≤ 9 at hc
    have hport : snmpGetARconfig B (mibOf ([3, 2, 1, 2] ++ [1, 1, c])) i =
        some (B.read (mibOf ([3, 2, 1, 2] ++ [1, 1, c])) i, .ok) := portValue_row hi (by omega)
    interval_cases c <;> exact hport
  fetch_over c h1 hc B i hi hrow := by
    change c ≤ 9 at hc
    have hport : snmpGetARconfig B (mibOf ([3, 2, 1, 2] ++ [1, 1, c])) i =
        some (none, .overIndex) := portValue_over (by omega)
    interval_cases c <;> exact hport
  past _ _ _ := rfl

def portPoe : Table where
  path := [3, 2, 1, 3]
  name := "portPoe"
  entryName := "portPoeTable"
  rowName := "portPoeEntry"
  columns := portPoeEntry
  above := [switch, psw]
  parent := configPSW
  siblings := configPSWList
  num := 3
  rows B := B.poeConfig - 2
  overRes := none
  next := [3, 2, 1, 4]
  columns_pos := by decide
  num_pos := by decide
  table_at := rfl
  lookup _ := rfl
  column_at c h1 hc := by
    change c ≤ 2 at hc
    interval_cases c <;> exact ⟨_, rfl⟩
  leaf c h1 hc := by
    change c ≤ 2 at hc
    interval_cases c <;> exact ⟨rfl, rfl, by decide, by decide⟩
  fetch_row c h1 hc B i hi hrow := by
    change c ≤ 2 at hc
    have hport : snmpGetPoeState B (mibOf ([3, 2, 1, 3] ++ [1, 1, c])) i =
        some (B.read (mibOf ([3, 2, 1, 3] ++ [1, 1, c])) i, .ok) := portValue_row hi (by omega)
    interval_cases c <;> exact hport
  fetch_over c h1 hc B i hi hrow := by
    change c ≤ 2 at hc
    have hport : snmpGetPoeState B (mibOf ([3, 2, 1, 3] ++ [1, 1, c])) i =
        some (none, .overIndex) := portValue_over (by omega)
    interval_cases c <;> exact hport
  past _ _ _ := rfl

def inputStatus : Table where
  path := [3, 2, 2, 2]
  name := "inputStatus"
  entryName := "inputStatusTable"
  rowName := "inputStatusEntry"
  columns := inputStatusEntry
  above := [switch, psw]
  parent := statusPSW
  siblings := statusPSWList
  num := 2
  rows _ := 4
  overRes := none
  next := [3, 2, 2, 3]
  columns_pos := by decide
  num_pos := by decide
  table_at := rfl
  lookup _ := rfl
  column_at c h1 hc := by
    change c ≤ 4 at hc
    interval_cases c <;> exact ⟨_, rfl⟩
  leaf c h1 hc := by
    change c ≤ 4 at hc
    interval_cases c <;> exact ⟨rfl, rfl, by decide, by decide⟩
  fetch_row c h1 hc B i hi hrow := by
    change c ≤ 4 at hc
    interval_cases c <;> exact i2cHandler_row (by decide) hi hrow
  fetch_over c h1 hc B i hi hrow := by
    change c ≤ 4 at hc
    interval_cases c <;> exact i2cHandler_over (by decide) hrow
  past _ _ _ := rfl

def poeStatus : Table where
  path := [3, 2, 2, 5]
  name := "poeStatus"
  entryName := "poeStatusTable"
  rowName := "poeStatusEntry"
  columns := poeStatusEntry
  above := [switch, psw]
  parent := statusPSW
  siblings := statusPSWList
  num := 5
  rows B := B.poeStatus
  overRes := none
  next := [3, 2, 2, 6]
  columns_pos := by decide
  num_pos := by decide
  table_at := rfl
  lookup _ := rfl
  column_at c h1 hc := by
    change c ≤ 3 at hc
    interval_cases c <;> exact ⟨_, rfl⟩
  leaf c h1 hc := by
    change c ≤ 3 at hc
    interval_cases c <;> exact ⟨rfl, rfl, by decide, by decide⟩
  fetch_row c h1 hc B i hi hrow := by
    change c ≤ 3 at hc
    have hport : snmpGetPoeStatus B (mibOf ([3, 2, 2, 5] ++ [1, 1, c])) i =
        some (B.read (mibOf ([3, 2, 2, 5] ++ [1, 1, c])) i, .ok) := portValue_row hi (by omega)
    interval_cases c <;> exact hport
  fetch_over c h1 hc B i hi hrow := by
    change c ≤ 3 at hc
    have hport : snmpGetPoeStatus B (mibOf ([3, 2, 2, 5] ++ [1, 1, c])) i =
        some (none, .overIndex) := portValue_over (by omega)
    interval_cases c <;> exact hport
  past _ _ _ := rfl

def autoRestartErrors : Table where
  path := [3, 2, 2, 6, 1]
  name := "autoRestartErrors"
  entryName := "autoRestartErrorsTable"
  rowName := "autoRestartErrorsEntry"
  columns := autoRestartErrorsEntry
  above := [switch, psw, statusPSW]
  parent := specialStatus
  siblings := specialStatusList
  num := 1
  rows B := B.arStatus
  overRes := none
  next := [3, 2, 2, 7]
  columns_pos := by decide
  num_pos := by decide
  table_at := rfl
  lookup _ := rfl
  column_at c h1 hc := by
    change c ≤ 2 at hc
    interval_cases c <;> exact ⟨_, rfl⟩
  leaf c h1 hc := by
    change c ≤ 2 at hc
    interval_cases c <;> exact ⟨rfl, rfl, by decide, by decide⟩
  fetch_row c h1 hc B i hi hrow := by
    change c ≤ 2 at hc
    have hport : snmpGetARerrorCode B (mibOf ([3, 2, 2, 6, 1] ++ [1, 1, c])) i =
        some (B.read (mibOf ([3, 2, 2, 6, 1] ++ [1, 1, c])) i, .ok) := portValue_row hi (by omega)
    interval_cases c <;> exact hport
  fetch_over c h1 hc B i hi hrow := by
    change c ≤ 2 at hc
    have hport : snmpGetARerrorCode B (mibOf ([3, 2, 2, 6, 1] ++ [1, 1, c])) i =
        some (none, .overIndex) := portValue_over (by omega)
    interval_cases c <;> exact hport
  past _ _ _ := rfl

def sfpStatus : Table where
  path := [3, 2, 2, 7]
  name := "sfpStatus"
  entryName := "sfpStatusTable"
  rowName := "sfpStatusEntry"
  columns := sfpStatusEntry
  above := [switch, psw]
  parent := statusPSW
  siblings := statusPSWList
  num := 7
  rows _ := 2
  overRes := some ""
  next := [3, 2, 2, 8]
  columns_pos := by decide
  num_pos := by decide
  table_at := rfl
  lookup _ := rfl
  column_at c h1 hc := by
    change c ≤ 14 at hc
    interval_cases c <;> exact ⟨_, rfl⟩
  leaf c h1 hc := by
    change c ≤ 14 at hc
    interval_cases c <;> exact ⟨rfl, rfl, by decide, by decide⟩
  fetch_row c h1 hc B i hi hrow := by
    change c ≤ 14 at hc
    have hslot : snmpGetSPFdata B (mibOf ([3, 2, 2, 7] ++ [1, 1, c])) i =
        some (B.read (mibOf ([3, 2, 2, 7] ++ [1, 1, c])) i, .ok) := if_pos hrow
    interval_cases c <;> exact hslot
  fetch_over c h1 hc B i hi hrow := by
    change c ≤ 14 at hc
    have hslot : snmpGetSPFdata B (mibOf ([3, 2, 2, 7] ++ [1, 1, c])) i =
        some (some "", .overIndex) := if_neg (Nat.not_le.mpr hrow)
    interval_cases c <;> exact hslot
  past _ _ _ := rfl

/-! ## The lists of scalars -/

def outStatePSW : ScalarList where
  path := [3, 2, 1, 4]
  name := "outStatePSW"
  scalars := outStatePSWList
  above := [switch, psw]
  parent := configPSW
  scalars_pos := by decide
  lookup _ := rfl
  scalar_at s h1 hs := by
    change s ≤ 1 at hs
    obtain rfl : s = 1 := by omega
    exact ⟨_, rfl⟩
  leaf s h1 hs := by
    change s ≤ 1 at hs
    obtain rfl : s = 1 := by omega
    exact ⟨rfl, rfl, by decide, by decide⟩
  fetch_scalar s h1 hs B := by
    change s ≤ 1 at hs
    obtain rfl : s = 1 := by omega
    rfl

def upsStatus : ScalarList where
  path := [3, 2, 2, 1]
  name := "upsStatus"
  scalars := upsStatusList
  above := [switch, psw]
  parent := statusPSW
  scalars_pos := by decide
  lookup _ := rfl
  scalar_at s h1 hs := by
    change s ≤ 4 at hs
    interval_cases s <;> exact ⟨_, rfl⟩
  leaf s h1 hs := by
    change s ≤ 4 at hs
    interval_cases s <;> exact ⟨rfl, rfl, by decide, by decide⟩
  fetch_scalar s h1 hs B := by
    change s ≤ 4 at hs
    interval_cases s <;> rfl

def fwStatus : ScalarList where
  path := [3, 2, 2, 3]
  name := "fwStatus"
  scalars := fwStatusList
  above := [switch, psw]
  parent := statusPSW
  scalars_pos := by decide
  lookup _ := rfl
  scalar_at s h1 hs := by
    change s ≤ 1 at hs
    obtain rfl : s = 1 := by omega
    exact ⟨_, rfl⟩
  leaf s h1 hs := by
    change s ≤ 1 at hs
    obtain rfl : s = 1 := by omega
    exact ⟨rfl, rfl, by decide, by decide⟩
  fetch_scalar s h1 hs B := by
    change s ≤ 1 at hs
    obtain rfl : s = 1 := by omega
    rfl

def sensorEntry : ScalarList where
  path := [3, 2, 2, 8]
  name := "sensorEntry"
  scalars := sensorList
  above := [switch, psw]
  parent := statusPSW
  scalars_pos := by decide
  lookup _ := rfl
  scalar_at s h1 hs := by
    change s ≤ 7 at hs
    interval_cases s <;> exact ⟨_, rfl⟩
  leaf s h1 hs := by
    change s ≤ 7 at hs
    interval_cases s <;> exact ⟨rfl, rfl, by decide, by decide⟩
  fetch_scalar s h1 hs B := by
    change s ≤ 7 at hs
    interval_cases s <;> rfl

end Snmp
