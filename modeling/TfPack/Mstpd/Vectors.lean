import Mathlib.Algebra.Group.Nat.Defs
import Mathlib.Data.List.Lex
import TfPack.Lib.LexOrder
import TfPack.Mstpd.State

set_option autoImplicit false

/-! # The spanning tree daemon: priority vectors

`samePriorityAndTimers` and `betterorsamePriority` of `mstp.c`. The comparison of two priority
vectors goes through their components in turn; with the port identifier as the last of them it is
the lexicographic order of the lists of components (`betterorsamePriority_iff`), so it is total and
transitive, and two vectors that are each better than or the same as the other agree in everything
it looks at.
-/

namespace Mstpd

open LexOrder

/-- The identifier as the number `u` of the union. -/
def BridgeIdentifier.u (id : BridgeIdentifier) : Nat :=
  id.priority.toNat * 2 ^ 48 + id.mac_address.toNat

/-- Return "worse" or "better" after a comparison with `_ncmp`; go on when it says the same. -/
def ncmpElse (x y : Nat) (rest : Bool) : Bool :=
  if y < x then false else if x < y then true else rest

def betterorsamePriority (vec1 vec2 : PriorityVector) (pId1 pId2 : UInt16) (cist : Bool) : Bool :=
  let regional :=
    ncmpElse vec1.RRootID.u vec2.RRootID.u <|
    ncmpElse vec1.IntRootPathCost.toNat vec2.IntRootPathCost.toNat <|
    ncmpElse vec1.DesignatedBridgeID.u vec2.DesignatedBridgeID.u <|
    ncmpElse vec1.DesignatedPortID.toNat vec2.DesignatedPortID.toNat <|
    decide (pId1 ≤ pId2)
  if cist then
    ncmpElse vec1.RootID.u vec2.RootID.u <|
    ncmpElse vec1.ExtRootPathCost.toNat vec2.ExtRootPathCost.toNat regional
  else regional

def samePriorityAndTimers (vec1 vec2 : PriorityVector) (time1 time2 : Times) (cist : Bool) :
    Bool :=
  (!cist ||
    time1.Forward_Delay == time2.Forward_Delay && time1.Max_Age == time2.Max_Age &&
    time1.Message_Age == time2.Message_Age && time1.Hello_Time == time2.Hello_Time &&
    vec1.RootID == vec2.RootID && vec1.ExtRootPathCost == vec2.ExtRootPathCost) &&
  time1.remainingHops == time2.remainingHops &&
  vec1.RRootID == vec2.RRootID && vec1.IntRootPathCost == vec2.IntRootPathCost &&
  vec1.DesignatedBridgeID == vec2.DesignatedBridgeID &&
  vec1.DesignatedPortID == vec2.DesignatedPortID

/-! ## The order of priority vectors -/

/-- The components that are compared, the first one first. -/
def PriorityVector.key (v : PriorityVector) (pId : UInt16) (cist : Bool) : List Nat :=
  (if cist then [v.RootID.u, v.ExtRootPathCost.toNat] else []) ++
    [v.RRootID.u, v.IntRootPathCost.toNat, v.DesignatedBridgeID.u, v.DesignatedPortID.toNat,
      pId.toNat]

theorem ncmpElse_iff {x y : Nat} {rest : Bool} {l l' : List Nat} (h : rest = true ↔ l ≤ l') :
    ncmpElse x y rest = true ↔ x :: l ≤ y :: l' := by
  rw [cons_le_cons_iff, ncmpElse]
  split_ifs with hlt hgt
  · exact iff_of_false (by simp) (by omega)
  · exact iff_of_true rfl (.inl hgt)
  · have heq : x = y := by omega
    simp [h, heq]

/-- **The comparison is the lexicographic order of the components.** -/
theorem betterorsamePriority_iff {v w : PriorityVector} {i j : UInt16} {cist : Bool} :
    betterorsamePriority v w i j cist = true ↔ v.key i cist ≤ w.key j cist := by
  have hlast : decide (i ≤ j) = true ↔ [i.toNat] ≤ [j.toNat] := by
    rw [decide_eq_true_iff, cons_le_cons_iff, UInt16.le_iff_toNat_le]
    simp [Nat.le_iff_lt_or_eq]
  have hregional := ncmpElse_iff (x := v.RRootID.u) (y := w.RRootID.u)
    (ncmpElse_iff (x := v.IntRootPathCost.toNat) (y := w.IntRootPathCost.toNat)
      (ncmpElse_iff (x := v.DesignatedBridgeID.u) (y := w.DesignatedBridgeID.u)
        (ncmpElse_iff (x := v.DesignatedPortID.toNat) (y := w.DesignatedPortID.toNat) hlast)))
  cases cist with
  | false =>
      simp only [betterorsamePriority, PriorityVector.key, Bool.false_eq_true, if_false,
        List.nil_append]
      exact hregional
  | true =>
      simp only [betterorsamePriority, PriorityVector.key, if_true, List.cons_append,
        List.nil_append]
      exact ncmpElse_iff (ncmpElse_iff hregional)

theorem betterorsamePriority_refl (v : PriorityVector) (i : UInt16) (cist : Bool) :
    betterorsamePriority v v i i cist = true :=
  betterorsamePriority_iff.mpr le_rfl

theorem betterorsamePriority_trans {u v w : PriorityVector} {i j k : UInt16} {cist : Bool}
    (h : betterorsamePriority u v i j cist = true) (h' : betterorsamePriority v w j k cist = true) :
    betterorsamePriority u w i k cist = true :=
  betterorsamePriority_iff.mpr
    ((betterorsamePriority_iff.mp h).trans (betterorsamePriority_iff.mp h'))

/-- Of two vectors one is better than or the same as the other. -/
theorem betterorsamePriority_of_not {v w : PriorityVector} {i j : UInt16} {cist : Bool}
    (h : betterorsamePriority v w i j cist = false) :
    betterorsamePriority w v j i cist = true := by
  rw [betterorsamePriority_iff]
  have hnot : ¬v.key i cist ≤ w.key j cist := by
    rw [← betterorsamePriority_iff, h]
    exact Bool.false_ne_true
  exact (le_total _ _).resolve_left hnot

end Mstpd
