import Ovpnlane.Construction.Netstack.Reference
import Ovpnlane.Construction.Netstack.Engine
import Ovpnlane.Framework.CyclicSearch

/-!
# The local port of a flow

The loop of `connect_ip` that picks a local port has no bound of its own and wraps at the end of the
range.  `port_search` says after how many iterations it ends, and that what it finds is the first
port in cyclic order, from `next_port` on, that no flow uses.
-/

namespace Ovpnlane

variable {B : Backend}

namespace Machine

/-- The local ports flows are given. -/
def localPorts : Finset ℕ := Finset.Icc 49152 65535

/-- The `i`-th local port from `next` on, in cyclic order. -/
def portAt (next i : ℕ) : ℕ := 49152 + (next - 49152 + i) % 16384

variable {flows : List (Flow B)} {next : ℕ}

/-! ## The loop -/

lemma nextLocalPort_iterate (hnext : next ∈ localPorts) (i : ℕ) :
    nextLocalPort^[i] next = portAt next i := cyclicNext_iterate hnext i

lemma portAt_mem (next i : ℕ) : portAt next i ∈ localPorts := by
  have hlt := Nat.mod_lt (next - 49152 + i) (y := 16384) (by decide)
  rw [localPorts, Finset.mem_Icc, portAt]
  omega

lemma any_port_iff {port : ℕ} : flows.any (fun f => f.localAddr.port == port) = true ↔
    port ∈ flows.map (·.localAddr.port) := by
  simp

/-- What a search that ends has found. -/
lemma findPort_eq_some {fuel port next' : ℕ} (hnext : next ∈ localPorts)
    (h : findPort flows fuel next = some (port, next')) :
    port ∈ localPorts ∧ next' = nextLocalPort port ∧ port ∉ flows.map (·.localAddr.port) := by
  induction fuel generalizing next with
  | zero => simp [findPort] at h
  | succ fuel ih =>
    unfold findPort at h
    split_ifs at h with hused
    · exact ih (cyclicNext_mem hnext) h
    · obtain ⟨rfl, rfl⟩ : next = port ∧ nextLocalPort next = next' := by simpa using h
      exact ⟨hnext, rfl, fun hmem => hused (any_port_iff.mpr hmem)⟩

/-- The search takes one iteration for every port in use that it meets, and one more. -/
lemma findPort_first {i : ℕ} (hfree : nextLocalPort^[i] next ∉ flows.map (·.localAddr.port))
    (hused : ∀ j < i, nextLocalPort^[j] next ∈ flows.map (·.localAddr.port)) (fuel : ℕ) :
    findPort flows fuel next =
      if i < fuel then some (nextLocalPort^[i] next, nextLocalPort^[i + 1] next) else none := by
  induction fuel generalizing next i with
  | zero => simp [findPort]
  | succ fuel ih =>
    unfold findPort
    cases i with
    | zero =>
      have hunused : ¬ flows.any (fun f => f.localAddr.port == next) = true :=
        fun h => hfree (any_port_iff.mp h)
      rw [if_neg hunused, if_pos (Nat.succ_pos fuel)]
      rfl
    | succ i =>
      have htaken : flows.any (fun f => f.localAddr.port == next) = true :=
        any_port_iff.mpr (hused 0 (Nat.succ_pos i))
      have hrest := @ih (nextLocalPort next) i hfree fun j hj => hused (j + 1) (Nat.succ_lt_succ hj)
      rw [if_pos htaken, hrest]
      simp only [Nat.succ_lt_succ_iff, Function.iterate_succ_apply]

/-- The first port that no flow uses. -/
lemma exists_first_port (hnext : next ∈ localPorts) (hlen : flows.length < 16384) :
    ∃ i ≤ flows.length, nextLocalPort^[i] next ∉ flows.map (·.localAddr.port) ∧
      ∀ j < i, nextLocalPort^[j] next ∈ flows.map (·.localAddr.port) := by
  obtain ⟨i, hi, hfree, hused⟩ := @exists_first_not_mem 49152 65535 next
    (flows.map (·.localAddr.port)) hnext (by simpa using hlen)
  exact ⟨i, by simpa using hi, hfree, hused⟩

/-- **The port search ends** when fewer flows are open than there are ports. -/
lemma findPort_ok (hnext : next ∈ localPorts) (hlen : flows.length < 16384) :
    ∃ found, findPort flows portFuel next = some found := by
  obtain ⟨i, hi, hfree, hused⟩ := exists_first_port hnext hlen
  exact ⟨_, (findPort_first hfree hused portFuel).trans (if_pos (by unfold portFuel; omega))⟩

/-! ## What it finds -/

/-- **The first unused port is found.**  The search takes `i + 1` iterations, at most one more than
there are flows; the ports it tries are the local ports in cyclic order, all of them in the range,
and the last one is the only one among them that no flow uses. -/
theorem port_search (hnext : next ∈ localPorts) (hlen : flows.length < 16384) :
    ∃ i ≤ flows.length,
      (∀ fuel, findPort flows fuel next =
        if i < fuel then some (portAt next i, portAt next (i + 1)) else none) ∧
      (∀ f ∈ flows, f.localAddr.port ≠ portAt next i) ∧
      (∀ j < i, ∃ f ∈ flows, f.localAddr.port = portAt next j) ∧
      ∀ j ≤ i + 1, nextLocalPort^[j] next = portAt next j ∧ portAt next j ∈ localPorts := by
  obtain ⟨i, hi, hfree, hused⟩ := exists_first_port hnext hlen
  have hfound := findPort_first hfree hused
  simp only [nextLocalPort_iterate hnext, List.mem_map, not_exists, not_and] at hfree hused hfound
  exact ⟨i, hi, hfound, hfree, hused,
    fun j _ => ⟨nextLocalPort_iterate hnext j, portAt_mem next j⟩⟩

/-- A flow with this local port. -/
def flowAt (port : ℕ) : Flow (reference fun _ _ => .failed) where
  socket := 0
  bridge := ⟨65536, 0, [], false, false⟩
  client := none
  reply := none
  localAddr := ⟨.v4 (.new 10 8 0 2), port⟩
  deadline := 0
  activity := 0
  readClosed := false
  writeClosed := false
  request := 0

/-- A search that wraps: with the last port and the first in use, the second is found in the third
iteration. -/
theorem port_search_wraps :
    let flows := [flowAt 49152, flowAt 65535]
    ∃ i ≤ 2, findPort flows 3 65535 = some (49153, 49154) ∧ portAt 65535 i = 49153 := by
  intro flows
  have hnext : 65535 ∈ localPorts := Finset.mem_Icc.mpr ⟨by decide, le_rfl⟩
  obtain ⟨i, hi, hfound, -⟩ := @port_search _ flows 65535 hnext (by decide)
  have hi : i ≤ 2 := hi
  have hwraps : findPort flows 3 65535 = some (49153, 49154) := by decide
  refine ⟨i, hi, hwraps, ?_⟩
  rw [hfound 3, if_pos (by omega), Option.some.injEq, Prod.mk.injEq] at hwraps
  exact hwraps.1

end Machine

end Ovpnlane
