/-
# `KahunaOperator.Roster` — from the server's list to the roster gate

`HTTPClient.Membership` drops the phantom witnesses of a standalone node before
anything else sees the roster, and `rosterMatches` then counts what is left and
looks each ordinal up.

    the gate opens  ⟺  what is left is the Voters of the ordinals below the size,
                        each once, and nothing else
    a node of the cluster is never taken for a witness        (`served_roster_exact`)

A witness is told by the port 0 at the end of its endpoint.  The endpoint of a
node ends in its Raft port, which is never 0, so whatever node id the server
reports the two cannot be confused.
-/
import KahunaOperator.Plan

namespace KahunaOperator

/-! ## The end of an endpoint -/

theorem port_zero_of_suffix {address : String} {port : Nat}
    (h : [':', '0'] <:+ (address ++ ":" ++ toString port).toList) : port = 0 := by
  obtain ⟨hne, hdigits⟩ := toString_digits port
  have hport : (toString port).toList <:+ (address ++ ":" ++ toString port).toList := by
    rw [String.toList_append]
    exact List.suffix_append _ _
  have hcolon : ':' ∉ (toString port).toList := by
    intro hmem
    exact absurd (hdigits ':' hmem) (by decide)
  -- Both are ends of one text, so one is the end of the other.
  rcases List.suffix_or_suffix_of_suffix h hport with hlong | hshort
  · exact absurd (hlong.subset List.mem_cons_self) hcolon
  · rcases List.suffix_cons_iff.mp hshort with heq | hzero
    · rw [heq] at hcolon
      exact absurd List.mem_cons_self hcolon
    · rcases List.suffix_cons_iff.mp hzero with heq | hnil
      · have hzero : toString port = toString 0 := String.toList_injective heq
        exact Nat.repr_inj.mp hzero
      · exact absurd (List.suffix_nil.mp hnil) hne

theorem raftPort_ne_zero (cluster : KahunaCluster) : (ports cluster).raft ≠ 0 := by
  unfold ports
  cases cluster.spec.ports with
  | none => decide
  | some p =>
      simp only
      split
      · next hset => exact hset
      · decide

/-- A node of the cluster is never taken for a witness. -/
theorem not_isWitness_of_endpoint {cluster : KahunaCluster} {mem : Member} {i : Nat}
    (h : mem.endpoint = raftEndpoint cluster i) : mem.isWitness = false := by
  unfold Member.isWitness
  rw [Bool.and_eq_false_imp]
  intro _
  rw [h, Bool.eq_false_iff]
  intro hsuffix
  exact raftPort_ne_zero cluster (port_zero_of_suffix (List.isSuffixOf_iff_suffix.mp hsuffix))

/-! ## The gate on the roster as served -/

/-- For every list the server can return: what `Membership` leaves of it is the
entries that are no witnesses, the gate on it is exact, and no entry of a node of
the cluster is missing from it. -/
theorem served_roster_exact (cluster : KahunaCluster) (raw : Membership) (n : Nat) :
    ∃ m, HTTPClient.membership (.ok (200, raw)) = .ok m ∧
      m.members = raw.members.filter (fun mem => !mem.isWitness) ∧
      (rosterMatches cluster (some m) n = true ↔
        (m.members.map fun mem => (mem.endpoint, mem.role)).Perm
          ((List.range n).map fun i => (raftEndpoint cluster i, Role.voter))) ∧
      ∀ mem ∈ raw.members, ∀ i, mem.endpoint = raftEndpoint cluster i → mem ∈ m.members := by
  refine ⟨raw.withoutWitnesses, rfl, rfl, rosterMatches_iff, ?_⟩
  intro mem hmem i hendpoint
  refine List.mem_filter.mpr ⟨hmem, ?_⟩
  rw [not_isWitness_of_endpoint hendpoint]
  rfl

end KahunaOperator
