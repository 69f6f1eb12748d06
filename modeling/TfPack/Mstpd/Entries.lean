import TfPack.Mstpd.Events

set_option autoImplicit false

/-! # The spanning tree daemon: what holds of every entry of a bridge that is on

The machines of a port in a tree begin when the bridge goes up, when the port is made or when the
tree is. What one of these beginnings brings about in an entry, and everything else keeps, holds of
all entries of a bridge that is on (`small_onAll`).
-/

namespace Mstpd

open Settling

variable {b b' : Bridge} {c : Budget} {Q : PortRef × Mstid → Bridge → Prop}

/-- `Q` holds of all entries if the bridge is on. -/
def Bridge.OnAll (Q : PortRef × Mstid → Bridge → Prop) (b : Bridge) : Prop :=
  b.conf.bridgeEnabled = true → ∀ x ∈ b.places, Q x b

/-- `Q` is brought about by the beginning of the machines, kept by the machines and by what the
events assign, and depends on nothing but the entry, its port, and whether the bridge is on. -/
structure Established (Q : PortRef × Mstid → Bridge → Prop) : Prop where
  stable : ∀ x, StableBegin (Q x)
  br : ∀ {c : Budget} {b b' : Bridge}, b.conf.bridgeEnabled = true →
    brStateMachinesBegin c b = some b' → ∀ x ∈ b.places, Q x b'
  prt : ∀ {c : Budget} {b b' : Bridge} {p : PortRef}, b.conf.bridgeEnabled = true →
    prtStateMachinesBegin c b p = some b' → ∀ x ∈ b.placesOfPort p, Q x b'
  tree : ∀ {c : Budget} {b b' : Bridge} {t : Mstid}, b.conf.bridgeEnabled = true →
    treeStateMachinesBegin c b t = some b' → ∀ x ∈ b.placesOfTree t, Q x b'
  input : ∀ {victim : Option PortRef} {b b' : Bridge} {x : PortRef × Mstid},
    Input victim b b' → Q x b → Q x b'
  entry : ∀ {b b' : Bridge} {x : PortRef × Mstid},
    b'.conf.bridgeEnabled = b.conf.bridgeEnabled → b'.port x.1 = b.port x.1 →
    b'.ptp x.1 x.2 = b.ptp x.1 x.2 → Q x b → Q x b'

/-- The port information begins in all three cases. -/
theorem established_of_pism (stable : ∀ x, StableBegin (Q x))
    (hest : ∀ b x, Q x (pismBegin b x.1 x.2))
    (input : ∀ {victim : Option PortRef} {b b' : Bridge} {x : PortRef × Mstid},
      Input victim b b' → Q x b → Q x b')
    (entry : ∀ {b b' : Bridge} {x : PortRef × Mstid},
      b'.conf.bridgeEnabled = b.conf.bridgeEnabled → b'.port x.1 = b.port x.1 →
      b'.ptp x.1 x.2 = b.ptp x.1 x.2 → Q x b → Q x b') : Established Q where
  stable := stable
  br := br_establishes stable hest
  prt := prt_establishes stable hest
  tree := tree_establishes stable hest
  input := input
  entry := entry

theorem Held.enabled (h : Held b b') : b'.conf.bridgeEnabled = b.conf.bridgeEnabled := by
  rw [h.conf]

theorem Input.places {victim : Option PortRef} (h : Input victim b b') {x : PortRef × Mstid}
    (hx : x ∈ b'.places) : x ∈ b.places :=
  mem_places.mpr ⟨h.ports.subset (mem_places.mp hx).1, h.trees.subset (mem_places.mp hx).2⟩

/-- **What the beginning of the machines brings about holds of all entries of a bridge that is
on.** -/
theorem small_onAll {victim : Option PortRef} (hQ : Established Q) (h : Small c victim b b')
    (hb : b.OnAll Q) : b'.OnAll Q := by
  cases h with
  | input h =>
      intro hen x hx
      exact hQ.input h (hb (h.enabled ▸ hen) x (h.places hx))
  | run h =>
      have hheld := run_held h
      intro hen x hx
      exact (hQ.stable x).run (hb (hheld.enabled ▸ hen) x (hheld.places ▸ hx)) h
  | «begin» h =>
      have hheld := br_held h
      intro hen x hx
      exact (hQ.stable x).br (hb (hheld.enabled ▸ hen) x (hheld.places ▸ hx)) h
  | enable up h =>
      rcases setBridgeEnable_cases h with rfl | ⟨s, -, hr⟩
      · exact hb
      · have hheld := br_held hr
        intro hen x hx
        exact hQ.br (hheld.enabled ▸ hen) hr x (hheld.places ▸ hx)
  | portCreate p name portno h =>
      rcases portCreate_cases h with rfl | ⟨-, hr⟩
      · exact hb
      have hheld := prt_held hr
      intro hen x hx
      rw [hheld.enabled] at hen
      obtain ⟨hp, ht⟩ := mem_places.mp (hheld.places ▸ hx)
      by_cases hxp : x.1 = p
      · refine hQ.prt hen hr x (List.mem_map.mpr ⟨x.2, ht, ?_⟩)
        rw [← hxp]
      · -- the entries of the other ports are those from before
        have hmem : x ∈ b.places :=
          mem_places.mpr ⟨(List.mem_append.mp hp).resolve_right (by simpa using hxp), ht⟩
        have hnew : Q x (newPort b p name portno) := by
          refine hQ.entry (b := b) rfl ?_ ?_ (hb hen x hmem)
          · simp only [newPort, if_neg hxp]
          · rw [newPort_ptp, if_neg hxp]
        exact (hQ.stable x).prt hnew hr
  | createMsti t h =>
      rcases createMsti_cases h with rfl | ⟨trees, hcond, hr⟩
      · exact hb
      have hheld := tree_held hr
      intro hen x hx
      rw [hheld.enabled] at hen
      obtain ⟨hp, ht⟩ := mem_places.mp (hheld.places ▸ hx)
      by_cases hxt : x.2 = t
      · refine hQ.tree hen hr x (List.mem_map.mpr ⟨x.1, hp, ?_⟩)
        rw [← hxt]
      · have hmem : x ∈ b.places :=
          mem_places.mpr ⟨hp, (mem_insertMstid hcond.2.2.2.1 ht).resolve_left hxt⟩
        have hnew : Q x (newTree b t trees) := by
          refine hQ.entry (b := b) rfl rfl ?_ (hb hen x hmem)
          rw [newTree_ptp, if_neg hxt]
        exact (hQ.stable x).tree hnew hr

end Mstpd
