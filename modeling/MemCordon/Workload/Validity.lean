import Mathlib.Data.List.Nodup
import Mathlib.Logic.Relation
import Mathlib.Tactic.MkIffOfInductiveProp
import MemCordon.Workload.Contract

/-!
# Valid contracts

What the checks of a contract come to, and that the order of its set-like lists does not matter for
them.

* A requirement with an endpoint for a peer makes the endpoints that it owns depend on that one.
  `validate` follows these dependencies from every endpoint, and keeps the identifiers that it has
  visited. `walk_ends`: the loop ends within a step for every endpoint and one more.
  `not_cyclic_of_walk`, `walk_of_not_cyclic`: it accepts exactly what is not on a cycle.
* `validate_eq_ok`: a contract is valid when its digests agree and its requirements and endpoints
  are `WellFormed`, which does not mention their order.
* `canonical` orders every set-like list of a contract, and `Reordered` relates two contracts that
  differ in the order of these lists only. Valid contracts are `Reordered` exactly when they have
  the same canonical form (`reordered_iff`), and then both are valid or none (`Reordered.validate`).
-/

namespace MemCordon.Workload

open Fallible Keyed

/-! ## Sets of operations -/

theorem validOperations_iff {values : List TcpOperation} :
    validOperations values = true ↔ values ≠ [] ∧ values.Nodup ∧
      (.listen ∈ values → .bind ∈ values) ∧ (.accept ∈ values → .listen ∈ values) ∧
      (.streamRead ∈ values ∨ .streamWrite ∈ values → .accept ∈ values ∨ .connect ∈ values) := by
  have hdistinct : (values.zipIdx.any fun entry => (values.take entry.2).contains entry.1) = false ↔
      values.Nodup := by
    rw [nodup_iff_take, forall_comm]
    simp [List.mk_mem_zipIdx_iff_getElem?]
  rw [← hdistinct]
  unfold validOperations
  simp only [Bool.not_eq_true', Bool.or_eq_false_iff, Bool.and_eq_false_iff, Bool.not_eq_false',
    List.isEmpty_eq_false_iff, List.contains_eq_mem, decide_eq_false_iff_not, decide_eq_true_eq,
    Bool.or_eq_true, ne_eq]
  tauto

theorem validOperations_perm {as bs : List TcpOperation} (h : as.Perm bs) :
    validOperations as = true ↔ validOperations bs = true := by
  have hnil : as = [] ↔ bs = [] := by
    rw [← List.length_eq_zero_iff, h.length_eq, List.length_eq_zero_iff]
  rw [validOperations_iff, validOperations_iff, h.nodup_iff, ne_eq, ne_eq, hnil]
  simp only [h.mem_iff]

/-- The operations in the order of their tags. -/
def TcpOperations.canonical (operations : TcpOperations) : TcpOperations where
  operations := ⟨sortByKey (fun operation => operation.tag.toNat) operations.operations.items, by
    rw [length_sortByKey]
    exact operations.operations.bounded⟩
  valid := (validOperations_perm (sortByKey_perm _ _)).2 operations.valid

theorem TcpOperations.ext {a b : TcpOperations}
    (h : a.operations.items = b.operations.items) : a = b := by
  cases a
  cases b
  congr
  exact BoundedVec.ext h

theorem tag_injective : Function.Injective fun operation : TcpOperation => operation.tag.toNat := by
  intro a b h
  cases a <;> cases b <;> first | rfl | (exact absurd h (by decide))

theorem TcpOperations.nodup (operations : TcpOperations) : operations.operations.items.Nodup :=
  (validOperations_iff.1 operations.valid).2.1

theorem TcpOperations.nodup_tags (operations : TcpOperations) :
    (operations.operations.items.map fun operation => operation.tag.toNat).Nodup :=
  operations.nodup.map tag_injective

/-- Operations have the same order by tag when they are the same set. -/
theorem TcpOperations.canonical_eq_iff {a b : TcpOperations} :
    a.canonical = b.canonical ↔ a.operations.items.Perm b.operations.items := by
  constructor
  · intro h
    have hitems : a.canonical.operations.items = b.canonical.operations.items := by rw [h]
    exact perm_of_sortByKey_eq hitems
  · intro h
    apply TcpOperations.ext
    exact sortByKey_eq_of_perm a.nodup_tags h

theorem TcpOperations.canonical_canonical (a : TcpOperations) :
    a.canonical.canonical = a.canonical :=
  TcpOperations.canonical_eq_iff.2 (sortByKey_perm _ _)

/-! ## Requirements, up to the order of their operations -/

/-- The address is of the family, and a loopback address when the scope is that of the host. An
IPv4-mapped address is of neither family. -/
def TcpEndpoint.Fits : IpFamily → TcpScope → TcpEndpoint → Prop
  | .v4, scope, .v4 address _ => scope = .hostSharedLoopback → isLoopbackV4 address = true
  | .v6, scope, .v6 address _ =>
    isMappedV6 address = false ∧ (scope = .hostSharedLoopback → isLoopbackV6 address = true)
  | _, _, _ => False

namespace RequirementV1

/-- The requirement with its operations in order. -/
def canonical : RequirementV1 → RequirementV1
  | .tcp id family operations scope localPorts peer =>
    .tcp id family operations.canonical scope localPorts peer
  | requirement => requirement

/-- The requirements differ in the order of their operations only. -/
inductive Reordered : RequirementV1 → RequirementV1 → Prop
  | refl (requirement : RequirementV1) : Reordered requirement requirement
  | tcp {id family scope localPorts peer} {a b : TcpOperations}
      (h : a.operations.items.Perm b.operations.items) :
      Reordered (.tcp id family a scope localPorts peer) (.tcp id family b scope localPorts peer)

theorem reordered_iff {a b : RequirementV1} : Reordered a b ↔ a.canonical = b.canonical := by
  constructor
  · rintro (_ | h)
    · rfl
    · simp only [canonical, TcpOperations.canonical_eq_iff.2 h]
  · intro h
    cases a <;> cases b
    case tcp.tcp =>
      simp only [canonical, RequirementV1.tcp.injEq, TcpOperations.canonical_eq_iff] at h
      obtain ⟨rfl, rfl, h, rfl, rfl, rfl⟩ := h
      exact .tcp h
    all_goals cases h
    all_goals exact .refl _

def listens : RequirementV1 → Option (IpFamily × TcpScope)
  | .tcp _ family operations scope _ _ =>
    if .listen ∈ operations.operations.items then some (family, scope) else none
  | _ => none

/-- The port range of a requirement is not inverted. -/
def InOrder : RequirementV1 → Prop
  | .tcp _ _ _ _ (.inclusiveRange first last) _ => first.1 ≤ last.1
  | _ => True

/-- The exact peer of a requirement is of its family and scope. -/
def PeerFits : RequirementV1 → Prop
  | .tcp _ family _ scope _ (.exactAddress endpoint) => endpoint.Fits family scope
  | _ => True

/-- A requirement with the endpoint for a peer has the family and the scope. -/
def Agrees (id : LogicalId) (family : IpFamily) (scope : TcpScope) : RequirementV1 → Prop
  | .tcp _ family' _ scope' _ (.sameAttemptEndpoint reference) =>
    reference = id → family' = family ∧ scope' = scope
  | _ => True

variable (r : RequirementV1)

@[simp] theorem id_canonical : r.canonical.id = r.id := by cases r <;> rfl

@[simp] theorem inOrder_canonical : r.canonical.InOrder ↔ r.InOrder := by
  cases r with
  | tcp _ _ _ _ localPorts _ => cases localPorts <;> rfl
  | _ => rfl

@[simp] theorem peerFits_canonical : r.canonical.PeerFits ↔ r.PeerFits := by
  cases r with
  | tcp _ _ _ _ _ peer => cases peer <;> rfl
  | _ => rfl

@[simp] theorem referenced_canonical : r.canonical.referenced = r.referenced := by
  cases r with
  | tcp _ _ _ _ _ peer => cases peer <;> rfl
  | _ => rfl

@[simp] theorem peerEndpoint_canonical : r.canonical.peerEndpoint = r.peerEndpoint := by
  cases r with
  | tcp _ _ _ _ _ peer => cases peer <;> rfl
  | _ => rfl

@[simp] theorem agrees_canonical (id : LogicalId) (family : IpFamily) (scope : TcpScope) :
    r.canonical.Agrees id family scope ↔ r.Agrees id family scope := by
  cases r with
  | tcp _ _ _ _ _ peer => cases peer <;> rfl
  | _ => rfl

@[simp] theorem listens_canonical : r.canonical.listens = r.listens := by
  cases r with
  | tcp id family operations scope localPorts peer =>
    simp only [canonical, listens, TcpOperations.canonical, mem_sortByKey]
  | _ => rfl

end RequirementV1

section Dependencies

variable {requirements : List RequirementV1} {endpoints : List EndpointDeclarationV1}
  {visited : List LogicalId} {current : EndpointDeclarationV1}

/-! ## The end of the loop -/

/-- What the loop has visited: endpoints, each of them once. -/
def Visited (endpoints : List EndpointDeclarationV1) (visited : List LogicalId) : Prop :=
  visited.Nodup ∧ visited ⊆ endpoints.map EndpointDeclarationV1.id

theorem Visited.length_le (h : Visited endpoints visited) : visited.length ≤ endpoints.length := by
  have hle := (h.1.subperm h.2).length_le
  rwa [List.length_map] at hle

theorem Visited.concat (h : Visited endpoints visited) (hcurrent : current ∈ endpoints)
    (hnew : visited.contains current.id = false) : Visited endpoints (visited ++ [current.id]) := by
  have hmem : current.id ∉ visited := by simpa using hnew
  refine ⟨List.nodup_append.2 ⟨h.1, List.nodup_singleton _, ?_⟩, List.append_subset.2 ⟨h.2, ?_⟩⟩
  · rintro a ha b hb rfl
    exact hmem (List.mem_singleton.1 hb ▸ ha)
  · simpa using ⟨current, hcurrent, rfl⟩

theorem ownerOf_mem {id : LogicalId} {owner : RequirementV1}
    (h : ownerOf requirements id = some owner) :
    owner ∈ requirements ∧ owner.id = id := by
  unfold ownerOf at h
  have hid := List.find?_some h
  exact ⟨List.mem_of_find?_eq_some h, of_decide_eq_true hid⟩

theorem mem_of_declared {id : LogicalId} (h : declared endpoints id = some current) :
    current ∈ endpoints ∧ current.id = id := by
  unfold declared at h
  have hid := List.find?_some h
  exact ⟨List.mem_of_find?_eq_some h, of_decide_eq_true hid⟩

/-- **The loop ends**: it has its verdict after a step for every endpoint and one more. -/
theorem walk_ends {owner : LogicalId → Option RequirementV1} (fuel : ℕ)
    (h : Visited endpoints visited) (hcurrent : current ∈ endpoints)
    (hfuel : endpoints.length < fuel + visited.length) :
    ∃ verdict, ∀ more,
      walk owner (declared endpoints) (fuel + more) visited current = some verdict := by
  induction fuel generalizing visited current with
  | zero =>
    have hle := h.length_le
    omega
  | succ fuel ih =>
    simp only [Nat.succ_add, walk]
    cases hnew : visited.contains current.id with
    | true => exact ⟨_, fun _ => rfl⟩
    | false =>
      simp only [Bool.false_eq_true, if_false]
      cases owner current.requirement with
      | none => exact ⟨_, fun _ => rfl⟩
      | some requirement =>
        dsimp only
        cases requirement.peerEndpoint with
        | none => exact ⟨_, fun _ => rfl⟩
        | some next =>
          dsimp only
          cases hfollowing : declared endpoints next with
          | none => exact ⟨_, fun _ => rfl⟩
          | some following =>
            refine ih (h.concat hcurrent hnew) (mem_of_declared hfollowing).1 ?_
            rw [List.length_append, List.length_singleton]
            omega

/-! ## Cycles -/

/-- The owner of the first endpoint has the second one for a peer. -/
def DependsOn (requirements : List RequirementV1) (endpoints : List EndpointDeclarationV1)
    (a b : EndpointDeclarationV1) : Prop :=
  b ∈ endpoints ∧ ∃ owner ∈ requirements, owner.id = a.requirement ∧ owner.peerEndpoint = some b.id

/-- The endpoint depends on itself. -/
def Cyclic (requirements : List RequirementV1) (endpoints : List EndpointDeclarationV1)
    (e : EndpointDeclarationV1) : Prop :=
  Relation.TransGen (DependsOn requirements endpoints) e e

theorem ownerOf_of_mem {owner : RequirementV1} {id : LogicalId}
    (hids : (requirements.map RequirementV1.id).Nodup)
    (h : owner ∈ requirements) (hid : owner.id = id) : ownerOf requirements id = some owner :=
  (find?_eq_some_iff (atMostOne_of_key hids fun _ h => of_decide_eq_true h)).2
    ⟨h, decide_eq_true hid⟩

theorem declared_of_mem (hids : (endpoints.map EndpointDeclarationV1.id).Nodup)
    (h : current ∈ endpoints) :
    declared endpoints current.id = some current :=
  (find?_eq_some_iff (atMostOne_of_key hids fun _ h => of_decide_eq_true h)).2
    ⟨h, decide_eq_true rfl⟩

section Unique

variable (hrequirements : (requirements.map RequirementV1.id).Nodup)
  (hendpoints : (endpoints.map EndpointDeclarationV1.id).Nodup)

include hrequirements hendpoints

/-- The loop follows the dependency of an endpoint. -/
theorem walk_dependsOn {a b : EndpointDeclarationV1} (h : DependsOn requirements endpoints a b)
    (fuel : ℕ)
    (visited : List LogicalId) :
      walk (ownerOf requirements) (declared endpoints) (fuel + 1) visited a =
      if visited.contains a.id then some (.error "cyclic endpoint dependencies")
      else walk (ownerOf requirements) (declared endpoints) fuel (visited ++ [a.id]) b := by
  obtain ⟨hb, owner, howner, hid, hpeer⟩ := h
  simp only [walk, ownerOf_of_mem hrequirements howner hid, hpeer, declared_of_mem hendpoints hb]

theorem not_cyclic_of_walk (fuel : ℕ)
    (h : walk (ownerOf requirements) (declared endpoints) fuel visited current = some (.ok ())) :
    ¬ Cyclic requirements endpoints current := by
  induction fuel generalizing visited current with
  | zero => cases h
  | succ fuel ih =>
    intro hcycle
    -- the endpoint after the first one is on the same cycle
    obtain ⟨following, hfirst, hrest⟩ := Relation.TransGen.head'_iff.1 hcycle
    rw [walk_dependsOn hrequirements hendpoints hfirst] at h
    split_ifs at h
    · cases h
    · exact ih h (.tail' hrest hfirst)

theorem walk_of_not_cyclic (hcyclic : ∀ e ∈ endpoints, ¬ Cyclic requirements endpoints e)
    (howned : ∀ e ∈ endpoints, ∃ owner, ownerOf requirements e.requirement = some owner)
    (hdeclared : ∀ r ∈ requirements, ∀ id, r.peerEndpoint = some id →
    ∃ e, declared endpoints id = some e)
    (fuel : ℕ) (h : Visited endpoints visited) (hcurrent : current ∈ endpoints)
    (hbefore : ∀ e ∈ endpoints, e.id ∈ visited →
    Relation.TransGen (DependsOn requirements endpoints) e current)
    (hfuel : endpoints.length < fuel + visited.length) :
    walk (ownerOf requirements) (declared endpoints) fuel visited current = some (.ok ()) := by
  induction fuel generalizing visited current with
  | zero =>
    have hle := h.length_le
    omega
  | succ fuel ih =>
    have hnew : visited.contains current.id = false := by
      by_contra hseen
      exact hcyclic current hcurrent (hbefore current hcurrent (by simpa using hseen))
    obtain ⟨owner, howner⟩ := howned current hcurrent
    obtain ⟨hmem, hid⟩ := ownerOf_mem howner
    cases hpeer : owner.peerEndpoint with
    | none => simp only [walk, hnew, howner, hpeer, Bool.false_eq_true, if_false]
    | some next =>
      obtain ⟨following, hfollowing⟩ := hdeclared owner hmem next hpeer
      obtain ⟨hin, rfl⟩ := mem_of_declared hfollowing
      have hstep : DependsOn requirements endpoints current following :=
        ⟨hin, owner, hmem, hid, hpeer⟩
      rw [walk_dependsOn hrequirements hendpoints hstep, hnew]
      refine ih (h.concat hcurrent hnew) hin (fun e he hid => ?_) ?_
      · rcases List.mem_append.1 hid with hid | hid
        · exact (hbefore e he hid).tail hstep
        · obtain rfl := List.inj_on_of_nodup_map hendpoints he hcurrent (List.mem_singleton.1 hid)
          exact .single hstep
      · rw [List.length_append, List.length_singleton]
        omega

end Unique

/-! ## Requirements and endpoints that fit together -/

/-- The requirement has valid ports and peers and refers to a declared endpoint. -/
def RequirementV1.Sound (endpoints : List EndpointDeclarationV1)
    (requirement : RequirementV1) : Prop :=
  requirement.validatePorts = .ok () ∧ requirement.validateExactPeer = .ok () ∧
    ∀ reference, requirement.referenced = some reference →
    ∃ endpoint ∈ endpoints, endpoint.id = reference

/-- The endpoint is that of a listener, whose peers have its family and scope, and depends on no
cycle. -/
def EndpointDeclarationV1.Sound (requirements : List RequirementV1)
    (endpoints : List EndpointDeclarationV1) (endpoint : EndpointDeclarationV1) : Prop :=
  ∃ family scope, (ownerOf requirements endpoint.requirement).bind RequirementV1.listens =
    some (family, scope) ∧
    (∀ requirement ∈ requirements, validatePeer endpoint.id family scope requirement = .ok ()) ∧
    walk (ownerOf requirements) (declared endpoints) (endpoints.length + 1) [] endpoint =
      some (.ok ())

/-- The requirements and endpoints of a valid contract. -/
structure Coherent (requirements : List RequirementV1)
    (endpoints : List EndpointDeclarationV1) : Prop where
  requirementIds : (requirements.map RequirementV1.id).Nodup
  requirement : ∀ requirement ∈ requirements, requirement.Sound endpoints
  endpointIds : (endpoints.map EndpointDeclarationV1.id).Nodup
  endpoint : ∀ endpoint ∈ endpoints, endpoint.Sound requirements endpoints

namespace RequirementV1

variable {r : RequirementV1}

theorem validatePorts_eq_ok : r.validatePorts = .ok () ↔ r.InOrder := by
  cases r with
  | tcp id family operations scope localPorts peer =>
    cases localPorts <;> simp [validatePorts, InOrder, reject_eq_ok, -Subtype.coe_lt_coe]
  | _ => simp [validatePorts, InOrder]

theorem validateExactPeer_eq_ok : r.validateExactPeer = .ok () ↔ r.PeerFits := by
  cases r with
  | tcp id family operations scope localPorts peer =>
    cases peer with
    | sameAttemptEndpoint endpoint => simp [validateExactPeer, PeerFits]
    | exactAddress endpoint =>
      unfold PeerFits TcpEndpoint.Fits validateExactPeer validateExactPeerScope
      cases endpoint with
      | v4 address port => cases family <;> simp [bind_eq_ok, reject_eq_ok]
      | v6 address port =>
        cases hmapped :
          isMappedV6 address <;> cases family <;> simp [bind_eq_ok, reject_eq_ok, hmapped]
  | _ => simp [validateExactPeer, PeerFits]

theorem validatePeer_eq_ok {id : LogicalId} {family : IpFamily} {scope : TcpScope} :
    validatePeer id family scope r = .ok () ↔ r.Agrees id family scope := by
  cases r with
  | tcp _ family' operations scope' localPorts peer =>
    cases peer <;> simp [validatePeer, Agrees, reject_eq_ok]
  | _ => simp [validatePeer, Agrees]

theorem referenced_of_peerEndpoint {id : LogicalId} (h : r.peerEndpoint = some id) :
    r.referenced = some id := by
  unfold peerEndpoint at h
  split at h
  · exact h
  · cases h

end RequirementV1

section Checks

variable {index : ℕ}

theorem validateRequirement_eq_ok {requirement : RequirementV1} :
    validateRequirement requirements endpoints requirement index = .ok () ↔
      (requirements.take index).any (fun prior => prior.id = requirement.id) = false ∧
        requirement.Sound endpoints := by
  unfold validateRequirement RequirementV1.Sound
  simp only [unit_bind_eq_ok, reject_eq_ok, Bool.not_eq_true]
  cases requirement.referenced with
  | none => simp
  | some reference => simp [reject_eq_ok]

theorem validateEndpoint_eq_ok {endpoint : EndpointDeclarationV1} :
    validateEndpoint requirements endpoints endpoint index = .ok () ↔
      (endpoints.take index).any (fun prior => prior.id = endpoint.id) = false ∧
        endpoint.Sound requirements endpoints := by
  unfold validateEndpoint EndpointDeclarationV1.Sound
  rw [unit_bind_eq_ok, reject_eq_ok, bind_eq_ok, not_or, Bool.not_eq_true, Bool.not_eq_false,
    and_assoc]
  apply and_congr_right
  intro _
  constructor
  · rintro ⟨-, owner, howner, hrest⟩
    rw [okOr_eq_ok] at howner
    cases owner with
    | tcp id family operations scope localPorts peer =>
      rw [unit_bind_eq_ok, reject_eq_ok, unit_bind_eq_ok, forM_eq_ok, Bool.not_eq_false,
        List.contains_iff_mem] at hrest
      obtain ⟨hlisten, hpeers, hwalk⟩ := hrest
      refine ⟨family, scope, ?_, hpeers, (Option.getD_eq_iff.1 hwalk).resolve_right nofun⟩
      rw [howner]
      exact if_pos hlisten
    | _ => cases hrest
  · rintro ⟨family, scope, hlistens, hpeers, hwalk⟩
    obtain ⟨owner, howner, hlistens⟩ := Option.bind_eq_some_iff.1 hlistens
    refine ⟨?_, owner, okOr_eq_ok.2 howner, ?_⟩
    · obtain ⟨hmem, hid⟩ := ownerOf_mem howner
      exact List.any_eq_true.2 ⟨owner, hmem, decide_eq_true hid⟩
    · cases owner with
      | tcp id ownerFamily operations ownerScope localPorts peer =>
        simp only [RequirementV1.listens, Option.ite_none_right_eq_some, Option.some.injEq,
          Prod.mk.injEq] at hlistens
        obtain ⟨hlisten, rfl, rfl⟩ := hlistens
        rw [unit_bind_eq_ok, reject_eq_ok, unit_bind_eq_ok, forM_eq_ok, Bool.not_eq_false,
          List.contains_iff_mem]
        exact ⟨hlisten, hpeers, Option.getD_eq_iff.2 (.inl hwalk)⟩
      | _ => cases hlistens

theorem WorkloadContractV1.validate_eq_coherent {contract : WorkloadContractV1} :
    contract.validate = .ok () ↔
      contract.workloadPlanDigest = contract.authorization.approvedPlanDigest ∧
        Coherent contract.requirements.items contract.endpoints.items := by
  unfold WorkloadContractV1.validate
  rw [unit_bind_eq_ok, reject_eq_ok, unit_bind_eq_ok, forM_zipIdx_eq_ok, forM_zipIdx_eq_ok, not_not]
  simp only [validateRequirement_eq_ok, validateEndpoint_eq_ok, Nat.zero_add, forall_getElem?_and,
    forall_take_iff_nodup, and_assoc]
  refine and_congr_right' ⟨?_, fun h => ?_⟩
  · rintro ⟨hrequirementIds, hrequirement, hendpointIds, hendpoint⟩
    exact ⟨hrequirementIds, hrequirement, hendpointIds, hendpoint⟩
  · exact ⟨h.requirementIds, h.requirement, h.endpointIds, h.endpoint⟩

end Checks

/-- The requirements and endpoints of a contract, as they have to be. -/
@[mk_iff] structure WellFormed (requirements : List RequirementV1)
    (endpoints : List EndpointDeclarationV1) : Prop where
  requirementIds : (requirements.map RequirementV1.id).Nodup
  endpointIds : (endpoints.map EndpointDeclarationV1.id).Nodup
  requirement : ∀ r ∈ requirements, r.InOrder ∧ r.PeerFits ∧
    ∀ id, r.referenced = some id → ∃ e ∈ endpoints, e.id = id
  owner : ∀ e ∈ endpoints, ∃ owner ∈ requirements, owner.id = e.requirement ∧
    ∃ family scope, owner.listens = some (family, scope) ∧
      ∀ r ∈ requirements, r.Agrees e.id family scope
  acyclic : ∀ e ∈ endpoints, ¬ Cyclic requirements endpoints e

theorem Coherent.wellFormed (h : Coherent requirements endpoints) :
    WellFormed requirements endpoints := by
  refine ⟨h.requirementIds, h.endpointIds, fun r hr => ?_, fun e he => ?_, fun e he => ?_⟩
  · obtain ⟨hports, hpeer, hreferenced⟩ := h.requirement r hr
    exact ⟨RequirementV1.validatePorts_eq_ok.1 hports,
      RequirementV1.validateExactPeer_eq_ok.1 hpeer, hreferenced⟩
  · obtain ⟨family, scope, hlistens, hpeers, -⟩ := h.endpoint e he
    obtain ⟨owner, howner, hlistens⟩ := Option.bind_eq_some_iff.1 hlistens
    obtain ⟨hmem, hid⟩ := ownerOf_mem howner
    exact ⟨owner, hmem, hid, family, scope, hlistens,
      fun r hr => RequirementV1.validatePeer_eq_ok.1 (hpeers r hr)⟩
  · obtain ⟨family, scope, -, -, hwalk⟩ := h.endpoint e he
    exact not_cyclic_of_walk h.requirementIds h.endpointIds _ hwalk

theorem WellFormed.coherent (h : WellFormed requirements endpoints) :
    Coherent requirements endpoints := by
  refine ⟨h.requirementIds, fun r hr => ?_, h.endpointIds, fun e he => ?_⟩
  · obtain ⟨hports, hpeer, hreferenced⟩ := h.requirement r hr
    exact ⟨RequirementV1.validatePorts_eq_ok.2 hports,
      RequirementV1.validateExactPeer_eq_ok.2 hpeer, hreferenced⟩
  · obtain ⟨owner, hmem, hid, family, scope, hlistens, hagrees⟩ := h.owner e he
    refine ⟨family, scope, ?_, fun r hr => RequirementV1.validatePeer_eq_ok.2 (hagrees r hr), ?_⟩
    · exact Option.bind_eq_some_iff.2 ⟨owner, ownerOf_of_mem h.requirementIds hmem hid, hlistens⟩
    · refine walk_of_not_cyclic h.requirementIds h.endpointIds h.acyclic (fun e he => ?_)
        (fun r hr id hpeer => ?_) _
        ⟨List.nodup_nil, List.nil_subset _⟩ he (fun _ _ hid => nomatch hid) (Nat.lt_succ_self _)
      · obtain ⟨owner, hmem, hid, -⟩ := h.owner e he
        exact ⟨owner, ownerOf_of_mem h.requirementIds hmem hid⟩
      · obtain ⟨e, he, rfl⟩ :=
          (h.requirement r hr).2.2 id (RequirementV1.referenced_of_peerEndpoint hpeer)
        exact ⟨e, declared_of_mem h.endpointIds he⟩

/-- **What the checks of a contract come to.** -/
theorem WorkloadContractV1.validate_eq_ok {contract : WorkloadContractV1} :
    contract.validate = .ok () ↔
      contract.workloadPlanDigest = contract.authorization.approvedPlanDigest ∧
        WellFormed contract.requirements.items contract.endpoints.items := by
  rw [validate_eq_coherent]
  exact and_congr_right fun _ => ⟨Coherent.wellFormed, WellFormed.coherent⟩

/-- The order of the two lists does not matter. -/
theorem wellFormed_perm {requirements' : List RequirementV1}
    {endpoints' : List EndpointDeclarationV1}
    (hrequirements : requirements.Perm requirements') (hendpoints : endpoints.Perm endpoints') :
    WellFormed requirements endpoints ↔ WellFormed requirements' endpoints' := by
  have hdepends : DependsOn requirements endpoints = DependsOn requirements' endpoints' := by
    funext a b
    simp only [DependsOn, hrequirements.mem_iff, hendpoints.mem_iff]
  simp only [wellFormed_iff, Cyclic, hdepends, hrequirements.mem_iff, hendpoints.mem_iff,
    (hrequirements.map _).nodup_iff, (hendpoints.map _).nodup_iff]

/-- The order of the operations does not matter. -/
theorem wellFormed_map_canonical :
    WellFormed (requirements.map RequirementV1.canonical) endpoints ↔
    WellFormed requirements endpoints := by
  have hids : (requirements.map RequirementV1.canonical).map RequirementV1.id =
      requirements.map RequirementV1.id := by
    rw [List.map_map]
    exact List.map_congr_left fun r _ => r.id_canonical
  have hdepends : DependsOn (requirements.map RequirementV1.canonical) endpoints =
      DependsOn requirements endpoints := by
    funext a b
    simp [DependsOn]
  rw [wellFormed_iff, wellFormed_iff]
  simp [hids, Cyclic, hdepends]

end Dependencies

/-- **`validate` accepts exactly the well-formed contracts**, its loop over dependencies ends, and
the order of requirements and endpoints does not matter. -/
theorem validate_exact (contract : WorkloadContractV1) :
    (contract.validate = .ok () ↔
        contract.workloadPlanDigest = contract.authorization.approvedPlanDigest ∧
        WellFormed contract.requirements.items contract.endpoints.items) ∧
      (∀ e ∈ contract.endpoints.items, ∃ verdict, ∀ more,
        walk (ownerOf contract.requirements.items) (declared contract.endpoints.items)
          (contract.endpoints.items.length + 1 + more) [] e = some verdict) ∧
      ∀ requirements endpoints, contract.requirements.items.Perm requirements.items →
        contract.endpoints.items.Perm endpoints.items →
          ({ contract with requirements, endpoints }.validate = .ok () ↔
            contract.validate = .ok ()) := by
  refine ⟨WorkloadContractV1.validate_eq_ok, fun e he => ?_,
    fun requirements endpoints hrequirements hendpoints => ?_⟩
  · exact walk_ends _ ⟨List.nodup_nil, List.nil_subset _⟩ he (Nat.lt_succ_self _)
  · rw [WorkloadContractV1.validate_eq_ok, WorkloadContractV1.validate_eq_ok,
      wellFormed_perm hrequirements hendpoints]

/-! ## Canonical contracts -/

theorem LogicalId.ext {a b : LogicalId} (h : a.bytes = b.bytes) : a = b := by
  cases a
  cases b
  congr

theorem LogicalId.key_injective : Function.Injective LogicalId.key := by
  intro a b h
  apply LogicalId.ext
  exact List.map_injective_iff.2 (fun _ _ => UInt8.toNat_inj.1) h

/-- The requirements in the order of their identifiers. -/
def sortRequirements (requirements : List RequirementV1) : List RequirementV1 :=
  sortByKey (fun requirement => requirement.id.key) requirements

/-- The endpoints in the order of their identifiers. -/
def sortEndpoints (endpoints : List EndpointDeclarationV1) : List EndpointDeclarationV1 :=
  sortByKey (fun endpoint => endpoint.id.key) endpoints

/-- Distinct identifiers have distinct keys. -/
theorem nodup_keys {α : Type*} {id : α → LogicalId} {as : List α} (h : (as.map id).Nodup) :
    (as.map fun a => (id a).key).Nodup := by
  have hmap : as.map (fun a => (id a).key) = (as.map id).map LogicalId.key := by simp
  rw [hmap]
  exact h.map LogicalId.key_injective

/-- Requirements are the same up to order when they have one canonical order. -/
theorem rel_requirements_iff {as bs : List RequirementV1} (hids : (as.map RequirementV1.id).Nodup) :
    Multiset.Rel RequirementV1.Reordered (as : Multiset RequirementV1) bs ↔
      sortRequirements (as.map RequirementV1.canonical) =
        sortRequirements (bs.map RequirementV1.canonical) :=
  rel_iff_sortByKey_map_eq (fun r => by rw [RequirementV1.id_canonical]) (nodup_keys hids)
    fun _ _ => RequirementV1.reordered_iff

namespace WorkloadContractV1

/-- The contract with its set-like lists in order. -/
def canonical (contract : WorkloadContractV1) : WorkloadContractV1 where
  workloadPlanDigest := contract.workloadPlanDigest
  authorizedProfile := contract.authorizedProfile
  authorization := contract.authorization
  ceiling := contract.ceiling
  requirements := ⟨sortRequirements (contract.requirements.items.map RequirementV1.canonical), by
    rw [sortRequirements, length_sortByKey, List.length_map]
    exact contract.requirements.bounded⟩
  endpoints := ⟨sortEndpoints contract.endpoints.items, by
    rw [sortEndpoints, length_sortByKey]
    exact contract.endpoints.bounded⟩
  expectedEpoch := contract.expectedEpoch

/-- The contracts differ in the order of requirements, of their operations and of endpoints only. -/
@[mk_iff reordered_fields]
structure Reordered (a b : WorkloadContractV1) : Prop where
  workloadPlanDigest : a.workloadPlanDigest = b.workloadPlanDigest
  authorizedProfile : a.authorizedProfile = b.authorizedProfile
  authorization : a.authorization = b.authorization
  ceiling : a.ceiling = b.ceiling
  requirements :
    Multiset.Rel RequirementV1.Reordered (a.requirements.items : Multiset RequirementV1)
    b.requirements.items
  endpoints : a.endpoints.items.Perm b.endpoints.items
  expectedEpoch : a.expectedEpoch = b.expectedEpoch

theorem validate_canonical {contract : WorkloadContractV1} :
    contract.canonical.validate = .ok () ↔ contract.validate = .ok () := by
  rw [validate_eq_ok, validate_eq_ok]
  refine and_congr_right fun _ => Iff.trans ?_ wellFormed_map_canonical
  exact wellFormed_perm (sortByKey_perm _ _) (sortByKey_perm _ _)

/-- **Valid contracts have one canonical form exactly when they differ in the order of sets.** -/
theorem reordered_iff {a b : WorkloadContractV1} (ha : a.validate = .ok ()) :
    Reordered a b ↔ a.canonical = b.canonical := by
  obtain ⟨-, hformed⟩ := validate_eq_ok.1 ha
  have hendpoints : a.endpoints.items.Perm b.endpoints.items ↔
      sortEndpoints a.endpoints.items = sortEndpoints b.endpoints.items :=
    ⟨sortByKey_eq_of_perm (nodup_keys hformed.endpointIds), perm_of_sortByKey_eq⟩
  simp only [canonical, mk.injEq, BoundedVec.mk.injEq]
  rw [← rel_requirements_iff hformed.requirementIds, ← hendpoints, reordered_fields]

end WorkloadContractV1

namespace WorkloadContractV2

/-- The contract with its set-like lists in order. -/
def canonical (contract : WorkloadContractV2) : WorkloadContractV2 where
  workloadPlanDigest := contract.workloadPlanDigest
  authorizedProfile := contract.authorizedProfile
  authorization := contract.authorization
  ceiling := contract.ceiling
  requirements := contract.toV1.canonical.requirements
  endpoints := contract.toV1.canonical.endpoints
  expectedEpoch := contract.expectedEpoch
  executionIdentity := contract.executionIdentity

/-- The contracts differ in the order of requirements, of their operations and of endpoints only. -/
@[mk_iff reordered_fields]
structure Reordered (a b : WorkloadContractV2) : Prop where
  toV1 : a.toV1.Reordered b.toV1
  executionIdentity : a.executionIdentity = b.executionIdentity

theorem toV1_canonical (contract : WorkloadContractV2) :
    contract.canonical.toV1 = contract.toV1.canonical := rfl

variable {a b : WorkloadContractV2}

/-- A contract is its V1 fields and its identity. -/
theorem eq_iff : a = b ↔ a.toV1 = b.toV1 ∧ a.executionIdentity = b.executionIdentity := by
  cases a
  cases b
  simp only [toV1, mk.injEq, WorkloadContractV1.mk.injEq, and_assoc]

theorem validate_eq_ok {contract : WorkloadContractV2} :
    contract.validate = .ok () ↔ contract.toV1.validate = .ok () ∧
        (contract.authorizedProfile.id = privateProfileId →
        contract.ceiling.directSocketAuthority = .attemptPrivateIpv4StackAllPorts ∧
          contract.ceiling.credentialGains = .noGain) := by
  unfold validate
  rw [unit_bind_eq_ok, reject_eq_ok, not_and, not_or, not_not, not_not]

theorem validate_canonical {contract : WorkloadContractV2} :
    contract.canonical.validate = .ok () ↔ contract.validate = .ok () := by
  rw [validate_eq_ok, validate_eq_ok, toV1_canonical, WorkloadContractV1.validate_canonical]
  rfl

theorem reordered_iff (ha : a.validate = .ok ()) :
    Reordered a b ↔ a.canonical = b.canonical := by
  rw [eq_iff, reordered_fields]
  exact and_congr_left' (WorkloadContractV1.reordered_iff (validate_eq_ok.1 ha).1)

/-- Contracts that differ in the order of sets are valid together. -/
theorem Reordered.validate (h : Reordered a b) (ha : a.validate = .ok ()) :
    b.validate = .ok () := by
  rw [← validate_canonical, ← (reordered_iff ha).1 h, validate_canonical]
  exact ha

end WorkloadContractV2

end MemCordon.Workload
