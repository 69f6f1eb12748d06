import TfPack.Snmp.Get

set_option autoImplicit false

/-! # GET and GET_NEXT

Of the lines that GET_NEXT prints, GET repeats those of the cells of the tables and no others; and
GET keeps to the OID asked for except below a scalar.
-/

namespace Snmp

open BoundedLoop

variable {B : Backend} {o : Oid} {r : Reply}

/-- The OID of a cell of a table. -/
def IsCell (B : Backend) (o : Oid) : Prop := ∃ T, .table T ∈ places ∧ (Place.table T).Has B o

theorem get_cell {T : Table} {c i : Nat} (hc : 1 ≤ c ∧ c ≤ T.columns.length)
    (hi : 1 ≤ i ∧ i ≤ T.rows B) : mainHandler B .get (T.cellOid c i) = some (T.cell B c i) :=
  mainHandler_of_gives (T.get_read hc.1 hc.2 (T.fetch_row c hc.1 hc.2 B i hi.1 hi.2)) (by omega)

theorem get_stray (h : Stray o) : mainHandler B .get o = some blank := by
  cases h with
  | entry T hT =>
      exact mainHandler_of_gives (Table.blank_gives (T.lookup_entry_ne (by decide) [])) (by omega)
  | row T hT =>
      exact mainHandler_of_gives (Table.blank_gives (T.lookup_row_ne (by decide) [])) (by omega)
  | status => rfl

/-- **What GET makes of an OID that GET_NEXT printed**: the same line for a cell, and never a line
with that OID for anything else. -/
theorem get_of_prints (h : Prints B r) (ho : r.oid = some o) :
    IsCell B o ∧ mainHandler B .get o = some r ∨
      ∀ r', mainHandler B .get o = some r' → r'.oid ≠ some o := by
  cases h with
  | cell T hT c i hc hi =>
      obtain rfl : T.cellOid c i = o := Option.some.inj ho
      exact .inl ⟨⟨T, hT, c, i, hc, hi, rfl⟩, get_cell hc hi⟩
  | scalar S hS s hs =>
      obtain rfl : S.path ++ [s, 0] = o := Option.some.inj ho
      refine .inr fun r' hr' ho' => ?_
      rw [mainHandler_of_gives (ScalarList.get_gives hS [s, 0]) (by omega)] at hr'
      exact ScalarList.ne_of_below hS (List.cons_ne_nil 0 []) hr' ho' rfl
  | stray left oid h =>
      obtain rfl : oid = o := Option.some.inj ((stray_oid left oid).symm.trans ho)
      refine .inr fun r' hr' ho' => ?_
      rw [get_stray h, Option.some.injEq] at hr'
      rw [← hr'] at ho'
      cases ho'
  | blank => cases ho

theorem PastScalar.ne_nil {q : Oid} (h : PastScalar q) : q ≠ [] := by
  cases h <;> simp

/-- **GET repeats a line of GET_NEXT** exactly for the cells of the tables, and prints the OID asked
for exactly when that does not lie below a scalar it redirects. -/
theorem getAgrees_iff (B : Backend) :
    (∀ q r o, tfRunSnmp B .getNext q = some r → r.oid = some o →
      (tfRunSnmp B .get o = some r ↔ IsCell B o)) ∧
    ∀ q, (∀ r o, tfRunSnmp B .get q = some r → r.oid = some o → o = q) ↔ ¬ PastScalar q := by
  constructor
  · intro q r o hr ho
    have hprints := printing_getNextAnswer (B := B) (if q = [] then [getFirstOidIndex] else q)
    rw [← tfRunSnmp_getNext, hr] at hprints
    have hne : o ≠ [] := (printed_next hprints ho).1
    rw [tfRunSnmp, if_neg hne]
    rcases get_of_prints hprints ho with ⟨hcell, hget⟩ | hother
    · exact ⟨fun _ => hcell, fun _ => hget⟩
    · constructor
      · intro hget
        exact absurd ho (hother r hget)
      · rintro ⟨T, hT, c, i, hc, hi, rfl⟩
        exact absurd rfl (hother _ (get_cell hc hi))
  · intro q
    by_cases hq : q = []
    · -- the root stands for its first list, which has no value
      subst hq
      constructor
      · exact fun _ hpast => hpast.ne_nil rfl
      · intro _ r o hr ho
        have hblank : tfRunSnmp B .get [] = some blank := rfl
        rw [hblank, Option.some.injEq] at hr
        rw [← hr] at ho
        cases ho
    rw [tfRunSnmp, if_neg hq]
    constructor
    · intro h hpast
      obtain ⟨r, o, hr, ho, hne⟩ := get_of_pastScalar (B := B) hpast
      exact hne (h r o hr ho)
    · intro hpast
      obtain ⟨a, hgives, hfaithful⟩ := getsOnly (B := B) q
      rw [mainHandler_of_gives hgives (by omega)]
      exact hfaithful hpast

/-- GET on the instance of the first sensor that GET_NEXT prints answers with the second one. -/
theorem sensor_redirected :
    let B : Backend := ⟨10, 10, 8, 8, fun _ _ => some "0"⟩
    (tfRunSnmp B .getNext [3, 2, 2, 8, 1]).map Reply.oid = some (some [3, 2, 2, 8, 1, 0]) ∧
      (tfRunSnmp B .get [3, 2, 2, 8, 1, 0]).map Reply.oid = some (some [3, 2, 2, 8, 2]) := by
  decide +kernel

end Snmp
