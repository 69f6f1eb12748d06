import TfPack.Snmp.Moves

set_option autoImplicit false

/-! # GET_NEXT at a list of scalars

A scalar leaves the agent in the list it stands in, so that further arcs choose among the scalars
of the list again. Where such a search ends is `chainEnd`; `ScalarList.answer` is what GET_NEXT
prints for an OID at or below a list of scalars, in closed form.
-/

namespace Snmp

open BoundedLoop

/-- A list of scalars of the tree. -/
structure ScalarList where
  path : Oid
  name : String
  scalars : List Node
  /-- The nodes above the list. -/
  above : List Node
  parent : Node
  scalars_pos : 0 < scalars.length
  lookup : ∀ rest, getOidElement (path ++ rest) =
    oidElements (rest.length + path.length) scalars (path.length + 1)
      (above ++ [parent, ⟨path, name, scalars, .list⟩]) rest
  scalar_at : ∀ s, 1 ≤ s → s ≤ scalars.length →
    ∃ name, scalars[s - 1]? = some (scalar (path ++ [s]) name)
  leaf : ∀ s, 1 ≤ s → s ≤ scalars.length → IsLeaf (path ++ [s]) .scalar
  fetch_scalar : ∀ s, 1 ≤ s → s ≤ scalars.length → ∀ B,
    fetch B (mibOf (path ++ [s])) 0 = some (B.read (mibOf (path ++ [s])) 0, .ok)

/-- The scalar at which a search of further arcs ends, and how. -/
def chainEnd (len : Nat) : Nat → Oid → Nat × Status
  | s, [] => (s, .found)
  | s, a :: as =>
      if a > len then (s, .oidOverList)
      else if a = 0 then (s, .zeroIndex)
      else chainEnd len a as

namespace ScalarList

variable (S : ScalarList)

/-- The list itself. -/
def node : Node := ⟨S.path, S.name, S.scalars, .list⟩

/-- The elements found down to the list. -/
def atList : List Node := S.above ++ [S.parent, S.node]

/-- The answer with the instance of a scalar. -/
def instanceReply (B : Backend) (s : Nat) : Reply :=
  valueReply B (S.path ++ [s]) 0 (S.path ++ [s, 0])

/-- A search below scalar `s`, with `reply` for the scalars: `up` is for a search past the end of
the list, `onward` for the arc 0 below the last scalar. -/
def scalarSearch (reply : Nat → Reply) (up onward : Option Reply) (s : Nat) : Oid → Option Reply
  | 0 :: _ => if s < S.scalars.length then some (reply (s + 1)) else onward
  | as =>
      match chainEnd S.scalars.length s as with
      | (x, .found) => some (reply x)
      | (_, .oidOverList) => up
      | _ => none

/-- A search at and below the list, with `list` for the list itself. -/
def search (reply : Nat → Reply) (list up onward : Option Reply) : Oid → Option Reply
  | [] => list
  | s :: as =>
      if s > S.scalars.length then up
      else if s = 0 then none
      else S.scalarSearch reply up onward s as

/-- GET_NEXT at and below a list of scalars. -/
def answer (B : Backend) (up onward : Option Reply) (rest : Oid) : Option Reply :=
  S.search (S.instanceReply B) (some (S.instanceReply B 1)) up onward rest

variable {S} {B : Backend} {req : RequestType} {q : Oid} {st : State} {r : ResObj} {s : Nat}

/-- A step of a search in the list. -/
theorem oidElements_scalar (h1 : 1 ≤ s) (hs : s ≤ S.scalars.length) :
    ∃ name, ∀ len index objs rest, oidElements len S.scalars index objs (s :: rest) =
      oidElements len S.scalars (index + 1) (objs ++ [scalar (S.path ++ [s]) name]) rest := by
  obtain ⟨name, hname⟩ := S.scalar_at s h1 hs
  refine ⟨name, fun len index objs rest => ?_⟩
  simp [oidElements, Nat.not_lt.mpr hs, Nat.ne_of_gt h1, hname, scalar]

/-- **Where a search among the scalars ends**: at the last scalar it came to, below another one
when it came further than to the first. -/
theorem oidElements_chain (as : Oid) (h1 : 1 ≤ s) (hs : s ≤ S.scalars.length) (len index : Nat)
    (objs : List Node) (name : String) :
    ∃ below name', oidElements len S.scalars index (objs ++ [scalar (S.path ++ [s]) name]) as =
        (objs ++ below ++ [scalar (S.path ++ [(chainEnd S.scalars.length s as).1]) name'],
          (chainEnd S.scalars.length s as).2) ∧
      1 ≤ (chainEnd S.scalars.length s as).1 ∧
      (chainEnd S.scalars.length s as).1 ≤ S.scalars.length ∧
      (below = [] ∨ ∃ below' oid name'', below = below' ++ [scalar oid name'']) := by
  induction as generalizing s index objs name with
  | nil => exact ⟨[], name, by simp [oidElements, chainEnd], h1, hs, .inl rfl⟩
  | cons a as ih =>
      by_cases hlarge : a > S.scalars.length
      · exact ⟨[], name, by simp [oidElements, chainEnd, hlarge], by simpa [chainEnd, hlarge],
          by simpa [chainEnd, hlarge], .inl rfl⟩
      by_cases hzero : a = 0
      · exact ⟨[], name, by simp [oidElements, chainEnd, hzero], by simpa [chainEnd, hzero],
          by simpa [chainEnd, hzero], .inl rfl⟩
      have ha1 : 1 ≤ a := Nat.pos_of_ne_zero hzero
      have ha : a ≤ S.scalars.length := Nat.not_lt.mp hlarge
      obtain ⟨name₁, hstep⟩ := oidElements_scalar (S := S) ha1 ha
      obtain ⟨below, name', hrest, hpos, hle, hbelow⟩ := ih ha1 ha (index + 1)
        (objs ++ [scalar (S.path ++ [s]) name]) name₁
      have hend : chainEnd S.scalars.length s (a :: as) = chainEnd S.scalars.length a as := by
        simp [chainEnd, hlarge, hzero]
      rw [hend]
      refine ⟨scalar (S.path ++ [s]) name :: below, name', ?_, hpos, hle, .inr ?_⟩
      · rw [hstep, hrest]
        simp
      · rcases hbelow with rfl | ⟨below', oid, name'', rfl⟩
        · exact ⟨[], _, _, rfl⟩
        · exact ⟨scalar (S.path ++ [s]) name :: below', oid, name'', by simp⟩

theorem node_list : S.node.list? = some S.scalars := by
  have hne : ¬ S.scalars.isEmpty = true := by
    rw [List.isEmpty_iff]
    rintro h
    have := S.scalars_pos
    rw [h] at this
    exact absurd this (Nat.lt_irrefl 0)
  exact if_neg hne

/-! ## GET_NEXT -/

theorem lookup_scalar (h1 : 1 ≤ s) (hs : s ≤ S.scalars.length) :
    ∃ name, ∀ rest, getOidElement (S.path ++ s :: rest) =
      oidElements ((s :: rest).length + S.path.length) S.scalars (S.path.length + 1 + 1)
        (S.atList ++ [scalar (S.path ++ [s]) name]) rest := by
  obtain ⟨name, hname⟩ := oidElements_scalar (S := S) h1 hs
  exact ⟨name, fun rest => by rw [S.lookup, hname]; rfl⟩

/-- **How a search at or below the list ends.** -/
theorem lookup_status (rest : Oid) :
    ∃ below, getOidElement (S.path ++ rest) =
      (S.atList ++ below, (chainEnd S.scalars.length 0 rest).2) := by
  cases rest with
  | nil => exact ⟨[], by rw [S.lookup, List.append_nil]; rfl⟩
  | cons s as =>
      by_cases hlarge : s > S.scalars.length
      · exact ⟨[], by simp [S.lookup, oidElements, chainEnd, atList, node, hlarge]⟩
      by_cases h0 : s = 0
      · exact ⟨[], by simp [S.lookup, oidElements, chainEnd, atList, node, h0]⟩
      have h1 : 1 ≤ s := Nat.pos_of_ne_zero h0
      have hs : s ≤ S.scalars.length := Nat.not_lt.mp hlarge
      obtain ⟨name, hname⟩ := lookup_scalar (S := S) h1 hs
      obtain ⟨below, name', hchain, -⟩ := oidElements_chain (S := S) as h1 hs
        ((s :: as).length + S.path.length) (S.path.length + 1 + 1) S.atList name
      have hend : chainEnd S.scalars.length 0 (s :: as) = chainEnd S.scalars.length s as := by
        simp [chainEnd, hlarge, h0]
      rw [hname, hchain, hend, List.append_assoc]
      exact ⟨_, rfl⟩

/-- An attempt on a scalar ends with what a scalar found is answered with. -/
theorem scalar_gives {a : Option Reply} (h1 : 1 ≤ s) (hs : s ≤ S.scalars.length)
    (hfound : ∀ pre m name r, Gives (iteration B req q) 1
      (after .found (pre ++ [m, scalar (S.path ++ [s]) name]) r) a)
    (hst : Tries B req q st (S.path ++ [s]) r) : Gives (iteration B req q) 2 st a := by
  obtain ⟨name, hname⟩ := lookup_scalar (S := S) h1 hs
  have hpre : S.atList ++ [scalar (S.path ++ [s]) name] =
      S.above ++ [S.parent] ++ [S.node, scalar (S.path ++ [s]) name] := by simp [atList]
  have hstep := hst _ _ (hname []) (by decide)
  rw [hpre] at hstep
  exact Gives.step hstep (hfound _ _ name r)

/-- **GET_NEXT on a scalar** answers with its instance. -/
theorem found_gives (h1 : 1 ≤ s) (hs : s ≤ S.scalars.length) (pre : List Node) (m : Node)
    (name : String) (r : ResObj) :
    Gives (iteration B .getNext q) 1
      (after .found (pre ++ [m, scalar (S.path ++ [s]) name]) r) (some (S.instanceReply B s)) := by
  apply Gives.done
  rw [getNext_scalar rfl (S.leaf s h1 hs) (S.fetch_scalar s h1 hs B)]
  have hoid : (S.path ++ [s]) ++ [0] = S.path ++ [s, 0] := by simp
  rw [show (scalar (S.path ++ [s]) name).oid = S.path ++ [s] from rfl, hoid]
  exact proceed_value (S.leaf s h1 hs) false

theorem lookup_list : getOidElement S.path = (S.above ++ [S.parent] ++ [S.node], .found) := by
  have h := S.lookup []
  rw [List.append_nil] at h
  rw [h]
  simp [oidElements, node]

/-- **Landing on the list.** -/
theorem list_gives (hst : Tries B .getNext q st S.path r) :
    Gives (iteration B .getNext q) 4 st (some (S.instanceReply B 1)) := by
  have hlist := hst _ _ lookup_list (by decide)
  have hdown : iteration B .getNext q (after .found (S.above ++ [S.parent] ++ [S.node]) r) =
      .inl (attempt S.atList {} (S.path ++ [1])) := by
    have hpre : S.above ++ [S.parent] ++ [S.node] = S.above ++ [S.parent, S.node] := by simp
    rw [hpre, getNext_descends (n := S.node) (by simp [node])]
    rfl
  exact Gives.step hlist (Gives.step hdown (scalar_gives (Nat.le_refl 1) S.scalars_pos
    (fun pre m name r => found_gives (Nat.le_refl 1) S.scalars_pos pre m name r)
    (tries_attempt _ _ _ _ _ _)))

/-- The arc 0 below a scalar goes on after it. -/
theorem zero_step (h1 : 1 ≤ s) (hs : s ≤ S.scalars.length) (rest : Oid) :
    ∃ objs, getOidElement (S.path ++ s :: 0 :: rest) = (objs, .zeroIndex) ∧
      ∀ B req q r, iteration B req q (after .zeroIndex objs r) = .inl (attempt objs r
        (if s < S.scalars.length then S.path ++ [s + 1] else splitNextOid S.path)) := by
  obtain ⟨name, hname⟩ := lookup_scalar (S := S) h1 hs
  have hpre : S.atList ++ [scalar (S.path ++ [s]) name] =
      S.above ++ [S.parent] ++ [S.node, scalar (S.path ++ [s]) name] := by simp [atList]
  have hzero := hname (0 :: rest)
  rw [hpre] at hzero
  refine ⟨S.above ++ [S.parent] ++ [S.node, scalar (S.path ++ [s]) name], ?_,
    fun B req q r => ?_⟩
  · rw [hzero]
    simp [oidElements]
  · have hoid : (if (S.path ++ [s]).getLastD 0 + 1 ≤ S.scalars.length then
        splitNextOid (S.path ++ [s]) else splitNextOid S.path) =
        if s < S.scalars.length then S.path ++ [s + 1] else splitNextOid S.path := by
      simp only [List.getLastD_eq_getLast?, List.getLast?_append, List.getLast?_singleton,
        Option.some_or, Option.getD_some, splitNextOid_append]
      rfl
    rw [← hoid]
    exact iteration_zeroIndex B req q (S.above ++ [S.parent]) r
      (n := scalar (S.path ++ [s]) name) rfl S.node_list

theorem zero_leads (h1 : 1 ≤ s) (hs : s ≤ S.scalars.length) (rest : Oid)
    (hst : Tries B req q st (S.path ++ s :: 0 :: rest) r) :
    ∃ objs, Leads (iteration B req q) 2 st
      (attempt objs r
        (if s < S.scalars.length then S.path ++ [s + 1] else splitNextOid S.path)) := by
  obtain ⟨objs, hfound, hnext⟩ := zero_step (S := S) h1 hs rest
  exact ⟨objs, (Leads.step (hst _ _ hfound (by decide))).trans (Leads.step (hnext B req q r))⟩

theorem chainEnd_status (len s : Nat) (as : Oid) :
    (chainEnd len s as).2 ∈ [.found, .oidOverList, .zeroIndex] := by
  induction as generalizing s with
  | nil => simp [chainEnd]
  | cons a as ih =>
      rw [chainEnd]
      split
      · simp
      split
      · simp
      exact ih a

/-- **What a search finds that comes past a scalar**: the scalar it ends at, below another one. -/
theorem lookup_chain {a : Nat} (as : Oid) (h1 : 1 ≤ s) (hs : s ≤ S.scalars.length) (ha1 : 1 ≤ a)
    (ha : a ≤ S.scalars.length) :
    ∃ pre below oid nm nm', getOidElement (S.path ++ s :: a :: as) =
        (pre ++ [scalar oid nm, scalar (S.path ++ [(chainEnd S.scalars.length a as).1]) nm'],
          (chainEnd S.scalars.length a as).2) ∧
      pre ++ [scalar oid nm, scalar (S.path ++ [(chainEnd S.scalars.length a as).1]) nm'] =
        S.atList ++ below ∧
      1 ≤ (chainEnd S.scalars.length a as).1 ∧
      (chainEnd S.scalars.length a as).1 ≤ S.scalars.length := by
  obtain ⟨name, hname⟩ := lookup_scalar (S := S) h1 hs
  obtain ⟨name₁, hstep⟩ := oidElements_scalar (S := S) ha1 ha
  have hlookup := hname (a :: as)
  rw [hstep] at hlookup
  obtain ⟨below, name₂, hchain, hpos, hle, hbelow⟩ := oidElements_chain (S := S) as ha1 ha
    ((s :: a :: as).length + S.path.length) (S.path.length + 1 + 1 + 1)
    (S.atList ++ [scalar (S.path ++ [s]) name]) name₁
  rw [hchain] at hlookup
  -- the node before the last one found is a scalar
  obtain ⟨pre, oid, nm, hprev⟩ : ∃ pre oid nm,
      S.atList ++ [scalar (S.path ++ [s]) name] ++ below = pre ++ [scalar oid nm] := by
    rcases hbelow with rfl | ⟨below', oid, nm, rfl⟩
    · exact ⟨S.atList, S.path ++ [s], name, by simp⟩
    · exact ⟨S.atList ++ [scalar (S.path ++ [s]) name] ++ below', oid, nm, by simp⟩
  rw [hprev] at hlookup
  refine ⟨pre, [scalar (S.path ++ [s]) name] ++ below ++
    [scalar (S.path ++ [(chainEnd S.scalars.length a as).1]) name₂], oid, nm, name₂, ?_, ?_, hpos,
    hle⟩
  · rw [hlookup]
    simp
  · rw [List.append_cons, ← hprev]
    simp

/-- **Further arcs below a scalar**: another scalar of the list is found, or none. -/
theorem chain_gives {a : Nat} {as : Oid} {k : Nat} {reply : Nat → Reply} {up : Option Reply}
    (h1 : 1 ≤ s) (hs : s ≤ S.scalars.length) (ha1 : 1 ≤ a) (ha : a ≤ S.scalars.length)
    (hfound : ∀ x, 1 ≤ x → x ≤ S.scalars.length → ∀ pre m name r, Gives (iteration B req q) 1
      (after .found (pre ++ [m, scalar (S.path ++ [x]) name]) r) (some (reply x)))
    (hst : Tries B req q st (S.path ++ s :: a :: as) r)
    (hup : ∀ below, getOidElement (S.path ++ s :: a :: as) = (S.atList ++ below, .oidOverList) →
      Gives (iteration B req q) k (after .oidOverList (S.atList ++ below) r) up) :
    Gives (iteration B req q) (k + 2) st
      (match chainEnd S.scalars.length a as with
      | (x, .found) => some (reply x)
      | (_, .oidOverList) => up
      | _ => none) := by
  obtain ⟨pre, below, oid, nm, nm', hlookup, hbelow, hpos, hle⟩ := lookup_chain as h1 hs ha1 ha
  have hstatus := chainEnd_status S.scalars.length a as
  generalize hend : chainEnd S.scalars.length a as = e at *
  obtain ⟨x, status⟩ := e
  dsimp only at hlookup hbelow hstatus hpos hle
  simp only [List.mem_cons, List.not_mem_nil, or_false] at hstatus
  rcases hstatus with rfl | rfl | rfl
  · exact (Gives.step (hst _ _ hlookup (by decide)) (hfound x hpos hle pre _ nm' r)).mono
      (by omega)
  · rw [hbelow] at hlookup
    exact (Gives.step (hst _ _ hlookup (by decide)) (hup _ hlookup)).mono (by omega)
  · exact (Gives.step (hst _ _ hlookup (by decide))
      (Gives.done (iteration_zeroIndex_none rfl rfl))).mono (by omega)

/-- **A search at and below a list of scalars.** -/
theorem search_gives {k : Nat} {reply : Nat → Reply} {list up onward : Option Reply} (rest : Oid)
    (hfound : ∀ x, 1 ≤ x → x ≤ S.scalars.length → ∀ pre m name r,
      Gives (iteration B req (S.path ++ rest)) 1
        (after .found (pre ++ [m, scalar (S.path ++ [x]) name]) r) (some (reply x)))
    (hlist : Tries B req (S.path ++ rest) start S.path {} →
      Gives (iteration B req (S.path ++ rest)) 4 start list)
    (hup : ∀ below, getOidElement (S.path ++ rest) = (S.atList ++ below, .oidOverList) →
      Gives (iteration B req (S.path ++ rest)) k (after .oidOverList (S.atList ++ below) {}) up)
    (honward : ∀ tail, rest = S.scalars.length :: 0 :: tail → ∀ objs,
      Gives (iteration B req (S.path ++ rest)) k (attempt objs {} (splitNextOid S.path)) onward) :
    Gives (iteration B req (S.path ++ rest)) (k + 4) start
      (S.search reply list up onward rest) := by
  have hst := tries_start B req (S.path ++ rest)
  cases rest with
  | nil =>
      have hat : Tries B req (S.path ++ []) start S.path {} := by
        rwa [List.append_nil] at hst ⊢
      exact (hlist hat).mono (by omega)
  | cons s as =>
      rw [search]
      by_cases hlarge : s > S.scalars.length
      · rw [if_pos hlarge]
        have hlookup : getOidElement (S.path ++ s :: as) = (S.atList ++ [], .oidOverList) := by
          rw [S.lookup]
          simp [oidElements, hlarge, atList, node]
        exact (Gives.step (hst _ _ hlookup (by decide)) (hup [] hlookup)).mono (by omega)
      rw [if_neg hlarge]
      by_cases h0 : s = 0
      · rw [if_pos h0]
        have hlookup : getOidElement (S.path ++ s :: as) =
            (S.above ++ [S.parent] ++ [S.node], .zeroIndex) := by
          rw [S.lookup]
          simp [oidElements, h0, node]
        exact (Gives.step (hst _ _ hlookup (by decide))
          (zeroIndex_gives (by simp [node]))).mono (by omega)
      rw [if_neg h0]
      have h1 : 1 ≤ s := Nat.pos_of_ne_zero h0
      have hs : s ≤ S.scalars.length := Nat.not_lt.mp hlarge
      match as with
      | [] => exact (scalar_gives h1 hs (hfound s h1 hs) hst).mono (by omega)
      | 0 :: tail =>
          obtain ⟨objs, hnext⟩ := zero_leads h1 hs tail hst
          rw [scalarSearch]
          by_cases hlast : s < S.scalars.length
          · rw [if_pos hlast] at hnext ⊢
            exact (hnext.gives (scalar_gives (by omega) hlast (hfound (s + 1) (by omega) hlast)
              (tries_attempt _ _ _ _ _ _))).mono (by omega)
          · obtain rfl : s = S.scalars.length := by omega
            rw [if_neg hlast] at hnext ⊢
            exact (hnext.gives (honward tail rfl objs)).mono (by omega)
      | (a + 1) :: as =>
          by_cases ha : a + 1 > S.scalars.length
          · have hanswer : S.scalarSearch reply up onward s ((a + 1) :: as) = up := by
              simp [scalarSearch, chainEnd, ha]
            obtain ⟨name, hname⟩ := lookup_scalar (S := S) h1 hs
            have hlookup : getOidElement (S.path ++ s :: (a + 1) :: as) =
                (S.atList ++ [scalar (S.path ++ [s]) name], .oidOverList) := by
              rw [hname]
              simp [oidElements, ha]
            rw [hanswer]
            exact (Gives.step (hst _ _ hlookup (by decide)) (hup _ hlookup)).mono (by omega)
          · have hend : chainEnd S.scalars.length s ((a + 1) :: as) =
                chainEnd S.scalars.length (a + 1) as := by
              simp [chainEnd, ha]
            rw [scalarSearch, hend]
            · exact (chain_gives h1 hs (Nat.le_add_left 1 a) (Nat.not_lt.mp ha) hfound hst
                hup).mono (by omega)
            · intro tail h
              cases h

/-- **GET_NEXT at and below a list of scalars.** -/
theorem answer_gives {k : Nat} {up onward : Option Reply} (rest : Oid)
    (hup : ∀ below, getOidElement (S.path ++ rest) = (S.atList ++ below, .oidOverList) →
      Gives (iteration B .getNext (S.path ++ rest)) k (after .oidOverList (S.atList ++ below) {})
        up)
    (honward : ∀ tail, rest = S.scalars.length :: 0 :: tail → ∀ objs,
      Gives (iteration B .getNext (S.path ++ rest)) k
        (attempt objs {} (splitNextOid S.path)) onward) :
    Gives (iteration B .getNext (S.path ++ rest)) (k + 4) start (S.answer B up onward rest) :=
  search_gives rest (fun _ h1 hs pre m name r => found_gives h1 hs pre m name r) list_gives hup
    honward

end ScalarList

end Snmp
