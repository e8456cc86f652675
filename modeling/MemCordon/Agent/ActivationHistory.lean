import Mathlib.Data.List.Dedup
import MemCordon.Agent.PolicyRegistry

/-!
# What sequences of activations keep

* `activateAny_spec` says what one call does to the directory, whether it succeeds or not, and
  `Activated` what a successful one has read, decided and written.
* `Activated.readBack`: an activation that was written is read back, by V1 callers as its
  projection.
* `Retains`, `Revoked`, `Passed` and `Unshared` are what calls keep, each with the lemma for one
  call.
* `activation_history`: epochs are distinct, revocations stay while the binding lives, the snapshots
  of the active registry and of live bindings stay, and at most 16 are kept, over every sequence of
  calls.
-/

namespace MemCordon.PolicyRegistry

open Workload Fallible

variable {serde : Serde}

/-! ## Revocations -/

section Revocations

variable {previous : Option Activation} {disposition : GrantChangeDisposition}

/-- The admission is revoked when its binding is live. -/
def Revokes (previous : Option Activation) (disposition : GrantChangeDisposition)
    (nonce : Nonce128) : Prop :=
  disposition = .revokeActive ∨ ∃ value, previous = some value ∧
    nonce ∈ value.revokedAdmissions.items

def Call.nonces (call : Call) : List Nonce128 := call.live.map fun entry => entry.2.admissionNonce

theorem revokes_iff {nonce : Nonce128} : Revokes previous disposition nonce ↔
    disposition = .revokeActive ∨
    previous.any (fun value => nonce ∈ value.revokedAdmissions.items) = true := by
  unfold Revokes
  rw [Option.any_eq_true]
  simp only [decide_eq_true_eq]

variable (previous disposition)

theorem revokeTurn_eq_ok (revoked : BoundedVec Nonce128 256) (entry : String × VersionedLiveBinding)
    (hroom : revoked.items.length < 256) :
    ∃ next, revokeTurn previous disposition revoked entry = .ok next ∧
      next.items.length ≤ revoked.items.length + 1 ∧
      ∀ nonce, nonce ∈ next.items ↔ nonce ∈ revoked.items ∨
        nonce = entry.2.admissionNonce ∧ Revokes previous disposition nonce := by
  simp only [revokes_iff]
  by_cases hcond : (disposition = .revokeActive ∨
      previous.any (fun value => entry.2.admissionNonce ∈ value.revokedAdmissions.items) = true) ∧
        entry.2.admissionNonce ∉ revoked.items
  · have hpush : revoked.tryPush entry.2.admissionNonce =
        some ⟨revoked.items ++ [entry.2.admissionNonce], by rw [List.length_append]; exact hroom⟩ :=
      BoundedVec.tryPush_eq_some.2 ⟨hroom, rfl⟩
    refine ⟨_, (if_pos hcond).trans (okOr_eq_ok.2 hpush), by simp, fun nonce => ?_⟩
    rw [List.mem_append, List.mem_singleton]
    constructor
    · rintro (hmem | rfl)
      · exact .inl hmem
      · exact .inr ⟨rfl, hcond.1⟩
    · rintro (hmem | ⟨rfl, -⟩)
      · exact .inl hmem
      · exact .inr rfl
  · refine ⟨revoked, if_neg hcond, Nat.le_succ _, fun nonce => ⟨.inl, ?_⟩⟩
    rintro (hmem | ⟨rfl, hnonce⟩)
    · exact hmem
    · by_contra hnot
      exact hcond ⟨hnonce, hnot⟩

theorem foldlM_revokeTurn (live : List (String × VersionedLiveBinding))
    (revoked : BoundedVec Nonce128 256) (hroom : revoked.items.length + live.length ≤ 256) :
    ∃ next, live.foldlM (revokeTurn previous disposition) revoked = .ok next ∧
      ∀ nonce, nonce ∈ next.items ↔ nonce ∈ revoked.items ∨
        nonce ∈ live.map (fun entry => entry.2.admissionNonce) ∧
        Revokes previous disposition nonce := by
  induction live generalizing revoked with
  | nil => exact ⟨revoked, rfl, fun nonce => by simp⟩
  | cons entry live ih =>
    rw [List.length_cons] at hroom
    obtain ⟨next, hnext, hlength, hmem⟩ :=
      revokeTurn_eq_ok previous disposition revoked entry (by omega)
    obtain ⟨last, hlast, hmemLast⟩ := ih next (by omega)
    refine ⟨last, ?_, fun nonce => ?_⟩
    · rw [List.foldlM_cons, hnext]
      exact hlast
    · rw [hmemLast, hmem, List.map_cons, List.mem_cons]
      tauto

/-- **Exactly the live bindings that were revoked before, or all of them, are revoked.** -/
theorem nextRevocationsVersioned_spec (live : List (String × VersionedLiveBinding))
    (hlive : live.length ≤ 256) :
    ∃ revoked, nextRevocationsVersioned previous disposition live = .ok revoked ∧
      ∀ nonce, nonce ∈ revoked.items ↔
      nonce ∈ live.map (fun entry => entry.2.admissionNonce) ∧
      Revokes previous disposition nonce := by
  obtain ⟨revoked, hrevoked, hmem⟩ := foldlM_revokeTurn previous disposition live .empty
    (by simpa [BoundedVec.empty] using hlive)
  refine ⟨revoked, hrevoked, fun nonce => ?_⟩
  rw [hmem]
  simp [BoundedVec.empty]

end Revocations

/-! ## Reading back -/

section ReadBack

variable [Sha256]

variable {configuration : RegistryConfiguration} {digest : DiagnosticSha256}

theorem canonicalDigest_valid (h : configuration.canonicalDigest = .ok digest) :
    configuration.validate = .ok () := by
  cases configuration with
  | v1 registry | v2 registry =>
    obtain ⟨bytes, hbytes, -⟩ := map_eq_ok.1 h
    exact (unit_bind_eq_ok.1 hbytes).1

theorem Activation.validate_eq_ok {activation : Activation} : activation.validate = .ok () ↔
    activation.format = "memcordon.local-activation" ∧ activation.revision = 1 ∧
      activation.registry.canonicalDigest = .ok activation.registryDigest := by
  unfold Activation.validate
  rw [reject_bind_eq_ok, bind_eq_ok]
  simp only [reject_eq_ok, not_or, not_not, and_assoc, exists_eq_right]

omit [Sha256] in
theorem documentKind_eq {bytes : List UInt8} {baseline privateFormat format : String} {kind : ℕ}
    (hlength : bytes.length ≤ activationLimit)
    (hdocument : serde.document bytes = .ok (some 1, some format))
    (hkind : format = baseline ∧ kind = 1 ∨ format ≠ baseline ∧ format = privateFormat ∧ kind = 2) :
    documentKind serde bytes baseline privateFormat = .ok kind := by
  unfold documentKind
  rw [reject, if_neg (Nat.not_lt.2 hlength), hdocument]
  rcases hkind with ⟨rfl, rfl⟩ | ⟨hne, rfl, rfl⟩
  · exact if_pos rfl
  · show (if _ then _ else _) = _
    rw [if_neg fun h => hne (Option.some.inj h), if_pos rfl]

/-- The checks of an activation's version. -/
def VersionedActivation.validate : VersionedActivation → Except String Unit
  | .v1 value => Activation.validate value
  | .v2 value => ActivationV2.validate value

/-- The file of a valid activation is parsed back. -/
theorem parse_text {epoch : PolicyEpoch} {revoked : BoundedVec Nonce128 256}
    (hserde : serde.ReadsBack configuration)
    (hlength : ((configuration.activation digest epoch revoked).text serde ++ [10]).length ≤
      activationLimit)
    (hvalid : (configuration.activation digest epoch revoked).validate = .ok ()) :
    VersionedActivation.parse serde
      ((configuration.activation digest epoch revoked).text serde ++ [10]) =
      .ok (configuration.activation digest epoch revoked) := by
  have hunique := hserde.unique digest epoch revoked
  have hdocument := hserde.document digest epoch revoked
  have hreads := hserde.reads digest epoch revoked
  unfold VersionedActivation.parse
  rw [reject, if_neg (Nat.not_lt.2 hlength), hunique]
  cases configuration with
  | v1 registry =>
    have hkind :
        documentKind serde _ "memcordon.local-activation" "memcordon.local-private-activation" =
          .ok 1 :=
      documentKind_eq hlength hdocument (.inl ⟨rfl, rfl⟩)
    rw [hkind]
    show (serde.readActivation _ >>= _) = _
    rw [hreads]
    exact unit_bind_eq_ok.2 ⟨hvalid, rfl⟩
  | v2 registry =>
    have hkind :
        documentKind serde _ "memcordon.local-activation" "memcordon.local-private-activation" =
          .ok 2 :=
      documentKind_eq hlength hdocument
        (.inr ⟨show "memcordon.local-private-activation" ≠ "memcordon.local-activation" by decide,
          rfl, rfl⟩)
    rw [hkind]
    show (serde.readActivationV2 _ >>= _) = _
    rw [hreads]
    exact unit_bind_eq_ok.2 ⟨hvalid, rfl⟩

/-- What V1 callers see of a V2 activation. -/
theorem baselineProjection_eq_ok {activation : ActivationV2}
    (h : activation.registry.validate = .ok ()) :
    ∃ projection, activation.baselineProjection = .ok projection ∧
      projection.epoch = activation.epoch ∧
      projection.revokedAdmissions = activation.revokedAdmissions := by
  have hvalid := baseline_valid (RuntimePrivatePolicyRegistry.validate_eq_ok.1 h)
  have hbytes :=
    RuntimePolicyRegistry.canonicalBytes_eq (RuntimePolicyRegistry.validate_eq_ok.2 hvalid)
  unfold ActivationV2.baselineProjection
  rw [baselineV1Projection_eq_ok h]
  show ∃ projection, (RuntimePolicyRegistry.canonicalDigest _ >>= _) = .ok projection ∧ _
  rw [RuntimePolicyRegistry.canonicalDigest, hbytes]
  exact ⟨_, rfl, rfl, rfl⟩

end ReadBack

/-! ## One call -/

section Steps

variable [Sha256] {store after : Store} {live : List (String × VersionedLiveBinding)}
  {configuration : RegistryConfiguration} {digest : DiagnosticSha256}

theorem readAny_congr (h : after.activation = store.activation) :
    after.readAny serde = store.readAny serde := by
  unfold Store.readAny
  rw [h]

theorem read_congr (h : after.activation = store.activation) :
    after.read serde = store.read serde := by
  unfold Store.read
  rw [readAny_congr h]

omit [Sha256] in
theorem versionedLiveBindings_eq_ok {references : List (String × VersionedLiveBinding)} :
    versionedLiveBindings live = .ok references ↔ live.length ≤ 256 ∧ references = live := by
  unfold versionedLiveBindings
  rw [unit_bind_eq_ok, reject_eq_ok, Nat.not_lt]
  exact and_congr_right fun _ =>
    ⟨fun h => (Except.ok.inj h).symm, fun h => congrArg Except.ok h.symm⟩

variable {keep : List DiagnosticSha256}

theorem retained_eq_ok (h : store.retained serde live digest = .ok keep) :
    digest ∈ keep ∧ (∀ entry ∈ live, entry.2.registryDigest ∈ keep) ∧
      ∀ active, store.readAny serde = .ok (some active) → active.registryDigest ∈ keep := by
  obtain ⟨references, hreferences, hrest⟩ := bind_eq_ok.1 h
  obtain ⟨active, hactive, hkeep⟩ := bind_eq_ok.1 hrest
  obtain ⟨-, rfl⟩ := versionedLiveBindings_eq_ok.1 hreferences
  rw [← Except.ok.inj hkeep]
  refine ⟨List.mem_cons_self, fun entry hentry => ?_, fun value hvalue => ?_⟩
  · exact List.mem_append_left _ (List.mem_cons_of_mem _ (List.mem_map_of_mem hentry))
  · rw [hvalue] at hactive
    rw [← Except.ok.inj hactive]
    exact List.mem_append_right _ (List.mem_singleton.2 rfl)

/-- What a call does to the snapshots: nothing, or it keeps those that something refers to, with the
candidate's beside them. -/
def SnapshotStep (serde : Serde) (store : Store) (live : List (String × VersionedLiveBinding))
    (after : Store) :
    Prop :=
  after.snapshots = store.snapshots ∨ ∃ digest keep, store.retained serde live digest = .ok keep ∧
    keep.dedup.length ≤ Limits.snapshots ∧
    (∀ s ∈ store.snapshots, s.1 ∈ keep → s ∈ after.snapshots) ∧
    (∀ s ∈ after.snapshots, s.1 ∈ keep) ∧
    ((store.snapshots.map Prod.fst).Nodup → (after.snapshots.map Prod.fst).Nodup)

omit [Sha256] in
theorem mem_prune {s : DiagnosticSha256 × List UInt8} :
    s ∈ (store.prune keep).snapshots ↔ s ∈ store.snapshots ∧ s.1 ∈ keep := by
  unfold Store.prune
  rw [List.mem_filter, decide_eq_true_eq]

omit [Sha256] in
theorem nodup_prune (h : (store.snapshots.map Prod.fst).Nodup) :
    ((store.prune keep).snapshots.map Prod.fst).Nodup :=
  h.sublist (List.filter_sublist.map _)

theorem putSnapshot_eq_ok (h : store.putSnapshot serde configuration digest = .ok after) :
    (configuration.text serde).length ≤ Limits.registryBytes ∧ after.activation = store.activation ∧
      (after.snapshots = store.snapshots ∧ digest ∈ store.snapshots.map Prod.fst ∨
        after.snapshots = (digest, configuration.text serde) :: store.snapshots ∧
          digest ∉ store.snapshots.map Prod.fst) := by
  obtain ⟨hlength, h⟩ := unit_bind_eq_ok.1 h
  refine ⟨Nat.not_lt.1 (reject_eq_ok.1 hlength), ?_⟩
  cases hlookup : store.snapshots.lookup digest with
  | none =>
    rw [hlookup] at h
    cases h
    refine ⟨rfl, .inr ⟨rfl, ?_⟩⟩
    rintro hmem
    obtain ⟨s, hs, rfl⟩ := List.mem_map.1 hmem
    exact absurd (List.lookup_eq_none_iff.1 hlookup s hs) (by simp)
  | some existing =>
    rw [hlookup] at h
    obtain ⟨existingDigest, -, h⟩ := bind_eq_ok.1 h
    cases (unit_bind_eq_ok.1 h).2
    obtain ⟨s, t, hsplit, -⟩ := List.lookup_eq_some_iff.1 hlookup
    refine ⟨rfl, .inl ⟨rfl, ?_⟩⟩
    rw [hsplit]
    simp

theorem retainSnapshotEncoded_spec {result : Except String Unit}
    (h : store.retainSnapshotEncoded serde live configuration digest = (after, result)) :
    after.activation = store.activation ∧ SnapshotStep serde store live after ∧
      (result = .ok () → (configuration.text serde).length ≤ Limits.registryBytes ∧
        digest ∈ after.snapshots.map Prod.fst) := by
  unfold Store.retainSnapshotEncoded at h
  dsimp only at h
  split at h
  · cases h
    exact ⟨rfl, .inl rfl, fun h => nomatch h⟩
  next keep hkeep =>
    obtain ⟨hcapacity, hkeep⟩ := unit_bind_eq_ok.1 hkeep
    obtain ⟨snapshots, hsnapshots, hcapacity⟩ := bind_eq_ok.1 hcapacity
    rw [hkeep] at hsnapshots
    cases hsnapshots
    have hbound : keep.dedup.length ≤ Limits.snapshots := Nat.not_lt.1 (reject_eq_ok.1 hcapacity)
    have hdigest := (retained_eq_ok hkeep).1
    have hpruned : SnapshotStep serde store live (store.prune keep) :=
      .inr ⟨digest, keep, hkeep, hbound, fun s hs hmem => mem_prune.2 ⟨hs, hmem⟩,
        fun s hs => (mem_prune.1 hs).2, nodup_prune⟩
    split at h
    · cases h
      exact ⟨rfl, hpruned, fun h => nomatch h⟩
    next put hput =>
      cases h
      obtain ⟨hlength, hactivation, hsame | ⟨hnew, hfresh⟩⟩ := putSnapshot_eq_ok hput
      · refine ⟨hactivation, ?_, fun _ => ⟨hlength, hsame.1 ▸ hsame.2⟩⟩
        unfold SnapshotStep at hpruned ⊢
        rwa [hsame.1]
      · refine ⟨hactivation, .inr ⟨digest, keep, hkeep, hbound, ?_, ?_, ?_⟩, fun _ => ⟨hlength, ?_⟩⟩
        · intro s hs hmem
          rw [hnew]
          exact List.mem_cons_of_mem _ (mem_prune.2 ⟨hs, hmem⟩)
        · intro s hs
          rw [hnew] at hs
          rcases List.mem_cons.1 hs with rfl | hs
          · exact hdigest
          · exact (mem_prune.1 hs).2
        · intro hnodup
          rw [hnew, List.map_cons]
          exact List.nodup_cons.2 ⟨hfresh, nodup_prune hnodup⟩
        · rw [hnew]
          exact List.mem_cons_self

/-- What a successful call has read, decided and written. -/
structure Activated (serde : Serde) (store : Store) (call : Call) (after : Store)
    (digest : DiagnosticSha256)
    (previous : Option Activation) (epoch : PolicyEpoch)
    (revoked : BoundedVec Nonce128 256) : Prop where
  hashed : call.configuration.canonicalDigest = .ok digest
  seen : store.read serde = .ok previous
  bounded : call.live.length ≤ 256
  revocations : nextRevocationsVersioned previous call.configuration.disposition call.live =
    .ok revoked
  moved : nextEpoch call.serviceInstance previous call.random = .ok epoch
  valid : (call.configuration.activation digest epoch revoked).validate = .ok ()
  registry : (call.configuration.text serde).length ≤ Limits.registryBytes
  written :
    after.activation =
      some ((call.configuration.activation digest epoch revoked).text serde ++ [10])
  snapshot : digest ∈ after.snapshots.map Prod.fst

theorem nextActivation_eq_ok {call : Call} {value : VersionedActivation} {bytes : List UInt8}
    (hdigest : call.configuration.canonicalDigest = .ok digest)
    (h : store.nextActivation serde call digest = .ok (value, bytes)) :
    ∃ previous epoch revoked, store.read serde = .ok previous ∧ call.live.length ≤ 256 ∧
      nextRevocationsVersioned previous call.configuration.disposition call.live = .ok revoked ∧
      nextEpoch call.serviceInstance previous call.random = .ok epoch ∧
      value = call.configuration.activation digest epoch revoked ∧ value.validate = .ok () ∧
      bytes = value.text serde ++ [10] := by
  obtain ⟨previous, hprevious, h⟩ := bind_eq_ok.1 h
  obtain ⟨references, hreferences, h⟩ := bind_eq_ok.1 h
  obtain ⟨hlive, rfl⟩ := versionedLiveBindings_eq_ok.1 hreferences
  obtain ⟨revoked, hrevoked, h⟩ := bind_eq_ok.1 h
  obtain ⟨epoch, hepoch, h⟩ := bind_eq_ok.1 h
  refine ⟨previous, epoch, revoked, hprevious, hlive, hrevoked, hepoch, ?_⟩
  cases hconfiguration : call.configuration with
  | v1 registry =>
    rw [hconfiguration] at h hdigest
    cases (unit_bind_eq_ok.1 h).2
    exact ⟨rfl, Activation.validate_eq_ok.2 ⟨rfl, rfl, hdigest⟩, rfl⟩
  | v2 registry =>
    rw [hconfiguration] at h
    obtain ⟨hvalid, h⟩ := unit_bind_eq_ok.1 h
    cases (unit_bind_eq_ok.1 h).2
    exact ⟨rfl, hvalid, rfl⟩

/-- **What one call does**, whether it succeeds or not. -/
theorem activateAny_spec {call : Call} {result : Except String VersionedActivation}
    (h : store.activateAny serde call = (after, result)) :
    SnapshotStep serde store call.live after ∧
      (∀ e, result = .error e → after.activation = store.activation) ∧
      ∀ value, result = .ok value → ∃ digest previous epoch revoked,
        value = call.configuration.activation digest epoch revoked ∧
          Activated serde store call after digest previous epoch revoked := by
  unfold Store.activateAny at h
  split at h
  · cases h
    exact ⟨.inl rfl, fun _ _ => rfl, fun _ h => nomatch h⟩
  next digest hdigest =>
    obtain ⟨-, hdigest⟩ := unit_bind_eq_ok.1 hdigest
    obtain ⟨_, hdigest, hchecked⟩ := bind_eq_ok.1 hdigest
    cases (unit_bind_eq_ok.1 hchecked).2
    split at h
    · next retained _ hretain =>
      cases h
      obtain ⟨hactivation, hstep, -⟩ := retainSnapshotEncoded_spec hretain
      exact ⟨hstep, fun _ _ => hactivation, fun _ h => nomatch h⟩
    · next retained hretain =>
      obtain ⟨hactivation, hstep, hok⟩ := retainSnapshotEncoded_spec hretain
      obtain ⟨hregistry, hsnapshot⟩ := hok rfl
      split at h
      · cases h
        exact ⟨hstep, fun _ _ => hactivation, fun _ h => nomatch h⟩
      next value bytes hvalue =>
        cases h
        refine ⟨hstep, fun _ h => (nomatch h), ?_⟩
        rintro _ ⟨⟩
        obtain ⟨previous, epoch, revoked, hprevious, hlive, hrevoked, hepoch, rfl, hvalid, rfl⟩ :=
          nextActivation_eq_ok hdigest hvalue
        rw [read_congr hactivation] at hprevious
        exact ⟨digest, previous, epoch, revoked, rfl, hdigest, hprevious, hlive, hrevoked,
          hepoch, hvalid, hregistry, rfl, hsnapshot⟩

end Steps

/-! ## What is read after a call -/

section ReadBack

variable [Sha256] {store after : Store} {call : Call} {value : VersionedActivation}
  {digest : DiagnosticSha256}
  {previous : Option Activation} {epoch : PolicyEpoch} {revoked : BoundedVec Nonce128 256}

omit [Sha256] in
@[simp] theorem activation_epoch (configuration : RegistryConfiguration) :
    (configuration.activation digest epoch revoked).epoch = epoch := by
  cases configuration <;> rfl

omit [Sha256] in
@[simp] theorem activation_registryDigest (configuration : RegistryConfiguration) :
    (configuration.activation digest epoch revoked).registryDigest = digest := by
  cases configuration <;> rfl

omit [Sha256] in
@[simp] theorem activation_revokedAdmissions (configuration : RegistryConfiguration) :
    (configuration.activation digest epoch revoked).revokedAdmissions = revoked.items := by
  cases configuration <;> rfl

/-- The directory holds the activation: `read_any` returns it, and `read` returns it or its
projection. -/
structure ReadBack (serde : Serde) (store : Store) (value : VersionedActivation) : Prop where
  any : store.readAny serde = .ok (some value)
  v1 : ∀ activation, value = .v1 activation → store.read serde = .ok (some activation)
  v2 : ∀ activation, value = .v2 activation →
    ∃ projection, activation.baselineProjection = .ok projection ∧
    store.read serde = .ok (some projection) ∧ projection.epoch = activation.epoch ∧
    projection.revokedAdmissions = activation.revokedAdmissions

/-- The next call sees the epoch and the revocations, whatever the version. -/
theorem ReadBack.read (h : ReadBack serde store value) :
    ∃ seen, store.read serde = .ok (some seen) ∧
    seen.epoch = value.epoch ∧ seen.revokedAdmissions.items = value.revokedAdmissions := by
  cases value with
  | v1 activation => exact ⟨activation, h.v1 activation rfl, rfl, rfl⟩
  | v2 activation =>
    obtain ⟨projection, -, hread, hepoch, hrevoked⟩ := h.v2 activation rfl
    exact ⟨projection, hread, hepoch, congrArg BoundedVec.items hrevoked⟩

theorem readAny_of_written {bytes : List UInt8} (hwritten : store.activation = some bytes)
    (hlength : bytes.length ≤ activationLimit)
    (hparse : VersionedActivation.parse serde bytes = .ok value) :
    store.readAny serde = .ok (some value) := by
  unfold Store.readAny
  rw [hwritten]
  show (reject _ (activationLimit < bytes.length) >>= _) = _
  rw [reject, if_neg (Nat.not_lt.2 hlength), hparse]
  rfl

/-- **What a call has written is read back.** The registry is within its limit, so that the newline,
which `write_activation` adds after its check, does not lead over the limit of the reader. -/
theorem Activated.readBack (h : Activated serde store call after digest previous epoch revoked)
    (hserde : serde.ReadsBack call.configuration) :
    ReadBack serde after (call.configuration.activation digest epoch revoked) := by
  have hlength : ((call.configuration.activation digest epoch revoked).text serde ++ [10]).length ≤
      activationLimit := by
    have htext := hserde.length digest epoch revoked
    have hregistry := h.registry
    rw [List.length_append, List.length_singleton]
    unfold activationLimit Limits.publicObjectBytes
    omega
  have hany := readAny_of_written h.written hlength (parse_text hserde hlength h.valid)
  refine ⟨hany, fun activation hvalue => ?_, fun activation hvalue => ?_⟩
  · unfold Store.read
    rw [hany, hvalue]
    rfl
  · have hregistry : activation.registry.validate = .ok () := by
      have hvalid := h.valid
      rw [hvalue] at hvalid
      obtain ⟨_, hdigest, -⟩ := bind_eq_ok.1 (unit_bind_eq_ok.1 hvalid).2
      have hconfiguration : (RegistryConfiguration.v2 activation.registry).validate = .ok () :=
        canonicalDigest_valid hdigest
      exact hconfiguration
    obtain ⟨projection, hprojection, hsame⟩ := baselineProjection_eq_ok hregistry
    refine ⟨projection, hprojection, ?_, hsame⟩
    unfold Store.read
    rw [hany, hvalue]
    show (activation.baselineProjection >>= _) = _
    rw [hprojection]
    rfl

end ReadBack

/-! ## Sequences of calls -/

section Histories

variable [Sha256] {store : Store} {calls : List Call} {turn : Turn}

theorem mem_history (h : turn ∈ history serde store calls) :
    turn.call ∈ calls ∧ turn.before.activateAny serde turn.call = (turn.after, turn.result) := by
  induction calls generalizing store with
  | nil => cases h
  | cons call calls ih =>
    rcases List.mem_cons.1 h with rfl | h
    · exact ⟨List.mem_cons_self, rfl⟩
    · exact ⟨List.mem_cons_of_mem _ (ih h).1, (ih h).2⟩

theorem history_eq_cons {rest : List Turn} (h : history serde store calls = turn :: rest) :
    ∃ calls', calls = turn.call :: calls' ∧ store = turn.before ∧
      turn.before.activateAny serde turn.call = (turn.after, turn.result) ∧
      history serde turn.after calls' = rest := by
  cases calls with
  | nil => cases h
  | cons call calls =>
    cases h
    exact ⟨calls, rfl, rfl, rfl, rfl⟩

theorem history_eq_append {pre rest : List Turn} (h : history serde store calls = pre ++ rest) :
    ∃ store' calls', calls' ⊆ calls ∧ history serde store' calls' = rest := by
  induction pre generalizing store calls with
  | nil => exact ⟨store, calls, List.Subset.refl _, h⟩
  | cons turn pre ih =>
    obtain ⟨calls', rfl, -, -, hrest⟩ := history_eq_cons h
    obtain ⟨store', calls'', hsub, hlast⟩ := ih hrest
    exact ⟨store', calls'', List.subset_cons_of_subset _ hsub, hlast⟩

/-- What the turns of a history preserve holds before and after each of them. -/
theorem history_invariant {P : Store → Prop}
    (hstep : ∀ turn ∈ history serde store calls, P turn.before → P turn.after) (h : P store) :
    ∀ turn ∈ history serde store calls, P turn.before ∧ P turn.after := by
  induction calls generalizing store with
  | nil => exact fun _ h => nomatch h
  | cons call calls ih =>
    have hnext := hstep _ List.mem_cons_self h
    intro turn hturn
    rcases List.mem_cons.1 hturn with rfl | hturn
    · exact ⟨h, hnext⟩
    · exact ih (fun turn hturn => hstep turn (List.mem_cons_of_mem _ hturn)) hnext turn hturn

/-! ### Snapshots -/

/-- The directory after any calls: one snapshot for a digest, at most 16, one of them the active
registry's. -/
structure Retains (serde : Serde) (store : Store) : Prop where
  nodup : (store.snapshots.map Prod.fst).Nodup
  capacity : store.snapshots.length ≤ Limits.snapshots
  active : ∀ value, store.readAny serde = .ok (some value) →
    value.registryDigest ∈ store.snapshots.map Prod.fst

theorem retains_empty : Retains serde .empty where
  nodup := List.nodup_nil
  capacity := Nat.zero_le _
  active := fun _ h => nomatch h

/-- The snapshots that a call may not remove. -/
def Referred (serde : Serde) (turn : Turn) (digest : DiagnosticSha256) : Prop :=
  (∃ active, turn.before.readAny serde = .ok (some active) ∧ active.registryDigest = digest) ∨
    ∃ entry ∈ turn.call.live, entry.2.registryDigest = digest

theorem SnapshotStep.keeps (h : SnapshotStep serde turn.before turn.call.live turn.after)
    {s : DiagnosticSha256 × List UInt8} (hs : s ∈ turn.before.snapshots)
    (hreferred : Referred serde turn s.1) :
    s ∈ turn.after.snapshots := by
  rcases h with h | ⟨digest, keep, hkeep, -, hkept, -⟩
  · rwa [h]
  · obtain ⟨-, hlive, hactive⟩ := retained_eq_ok hkeep
    refine hkept s hs ?_
    rcases hreferred with ⟨active, hread, hsame⟩ | ⟨entry, hentry, hsame⟩
    · exact hsame ▸ hactive active hread
    · exact hsame ▸ hlive entry hentry

theorem SnapshotStep.bounds (h : SnapshotStep serde turn.before turn.call.live turn.after)
    (hbefore : Retains serde turn.before) :
    (turn.after.snapshots.map Prod.fst).Nodup ∧ turn.after.snapshots.length ≤ Limits.snapshots := by
  rcases h with h | ⟨digest, keep, -, hbound, -, honly, hnodup⟩
  · rw [h]
    exact ⟨hbefore.nodup, hbefore.capacity⟩
  · have hnodup := hnodup hbefore.nodup
    refine ⟨hnodup, ?_⟩
    have hsub : turn.after.snapshots.map Prod.fst ⊆ keep.dedup := by
      intro digest hdigest
      obtain ⟨s, hs, rfl⟩ := List.mem_map.1 hdigest
      exact List.mem_dedup.2 (honly s hs)
    have hlength := (List.subperm_of_subset hnodup hsub).length_le
    rw [List.length_map] at hlength
    exact hlength.trans hbound

/-! ### Revocations -/

/-- The nonce is revoked by the activation that the next call reads. -/
def Revoked (serde : Serde) (nonce : Nonce128) (store : Store) : Prop :=
  ∃ previous, store.read serde = .ok (some previous) ∧ nonce ∈ previous.revokedAdmissions.items

variable {nonce : Nonce128}

theorem ReadBack.revoked {value : VersionedActivation} (h : ReadBack serde store value)
    (hnonce : nonce ∈ value.revokedAdmissions) : Revoked serde nonce store := by
  obtain ⟨seen, hseen, -, hsame⟩ := h.read
  exact ⟨seen, hseen, hsame ▸ hnonce⟩

variable {epoch : PolicyEpoch}

variable {call : Call} {previous : Option Activation}

theorem Activated.mem_revoked {after : Store} {digest : DiagnosticSha256}
    {revoked : BoundedVec Nonce128 256}
    (h : Activated serde store call after digest previous epoch revoked) :
    nonce ∈ revoked.items ↔ nonce ∈ call.nonces ∧
      Revokes previous call.configuration.disposition nonce := by
  obtain ⟨revoked', hrevoked, hmem⟩ :=
    nextRevocationsVersioned_spec previous call.configuration.disposition call.live h.bounded
  cases h.revocations.symm.trans hrevoked
  exact hmem nonce

/-! ### Epochs -/

/-- The service instance that a call starts when it starts one: the one it was given, or the nonce
it draws. -/
def Call.started (call : Call) : Nonce128 := call.serviceInstance.getD call.random

/-- A service instance that is given is new: no call before was given it or has drawn it. -/
def FreshInstances (calls : List Call) : Prop :=
  calls.Pairwise fun earlier later => later.serviceInstance ≠ some earlier.started

omit [Sha256] in
/-- A call starts a service instance at revision 1, or moves the revision of the one it reads. -/
theorem nextEpoch_eq_ok (h : nextEpoch call.serviceInstance previous call.random = .ok epoch) :
    epoch.serviceInstance = call.started ∧
      (previous = none ∨ call.serviceInstance = some call.started) ∨
      ∃ seen, previous = some seen ∧ epoch.serviceInstance = seen.epoch.serviceInstance ∧
        seen.epoch.revision.1.toNat < epoch.revision.1.toNat := by
  unfold Call.started
  cases hgiven : call.serviceInstance with
  | some given =>
    rw [hgiven] at h
    cases h
    exact .inl ⟨rfl, .inr rfl⟩
  | none =>
    rw [hgiven] at h
    cases previous with
    | none =>
      cases h
      exact .inl ⟨rfl, .inl rfl⟩
    | some seen =>
      unfold nextEpoch at h
      dsimp only at h
      split at h
      · next hne =>
        cases h
        refine .inr ⟨seen, rfl, rfl, ?_⟩
        have hsum := UInt64.toNat_add seen.epoch.revision.1 1
        have hnonzero : (seen.epoch.revision.1 + 1).toNat ≠ 0 := fun h => hne (UInt64.toNat_inj.1 h)
        rw [show (1 : UInt64).toNat = 1 from rfl] at hsum
        have hbound := seen.epoch.revision.1.toNat_lt
        dsimp only
        omega
      · cases h

/-- The calls to come see the epoch or a later one of its service instance, or another service
instance. -/
def Passed (serde : Serde) (epoch : PolicyEpoch) (store : Store) : Prop :=
  ∃ seen, store.read serde = .ok (some seen) ∧ (seen.epoch.serviceInstance = epoch.serviceInstance →
    epoch.revision.1.toNat ≤ seen.epoch.revision.1.toNat)

/-- The service instance that the calls read is given to none of them. -/
def Unshared (serde : Serde) (store : Store) (calls : List Call) : Prop :=
  ∀ seen, store.read serde = .ok (some seen) →
    ∀ call ∈ calls, call.serviceInstance ≠ some seen.epoch.serviceInstance

/-! ### One turn -/

section Turn

variable (hturn : turn.before.activateAny serde turn.call = (turn.after, turn.result))
  (hserde : serde.ReadsBack turn.call.configuration)

include hturn hserde

theorem Retains.step (h : Retains serde turn.before) : Retains serde turn.after := by
  obtain ⟨hstep, herror, hok⟩ := activateAny_spec hturn
  obtain ⟨hnodup, hcapacity⟩ := hstep.bounds h
  refine ⟨hnodup, hcapacity, fun value hvalue => ?_⟩
  cases hresult : turn.result with
  | error e =>
    rw [readAny_congr (herror e hresult)] at hvalue
    obtain ⟨s, hs, hsame⟩ := List.mem_map.1 (h.active value hvalue)
    exact List.mem_map.2 ⟨s, hstep.keeps hs (.inl ⟨value, hvalue, hsame.symm⟩), hsame⟩
  | ok written =>
    obtain ⟨digest, previous, epoch, revoked, rfl, hactivated⟩ := hok written hresult
    rw [(hactivated.readBack hserde).any] at hvalue
    cases hvalue
    rw [activation_registryDigest]
    exact hactivated.snapshot

/-- A revoked nonce of a live binding is revoked by the call, and for the calls after it. -/
theorem revoked_step (hlive : nonce ∈ turn.call.nonces) (h : Revoked serde nonce turn.before) :
    Revoked serde nonce turn.after ∧ ∀ value, turn.result = .ok value →
    nonce ∈ value.revokedAdmissions := by
  obtain ⟨-, herror, hok⟩ := activateAny_spec hturn
  cases hresult : turn.result with
  | error e =>
    refine ⟨?_, fun _ h => nomatch h⟩
    unfold Revoked
    rwa [read_congr (herror e hresult)]
  | ok value =>
    obtain ⟨digest, previous, epoch, revoked, rfl, hactivated⟩ := hok value hresult
    have hnonce :
        nonce ∈ (turn.call.configuration.activation digest epoch revoked).revokedAdmissions := by
      obtain ⟨seen, hseen, hmem⟩ := h
      cases hactivated.seen.symm.trans hseen
      rw [activation_revokedAdmissions]
      exact hactivated.mem_revoked.2 ⟨hlive, .inr ⟨seen, rfl, hmem⟩⟩
    refine ⟨(hactivated.readBack hserde).revoked hnonce, ?_⟩
    rintro _ ⟨⟩
    exact hnonce

/-- A call that is not given the service instance again leads to another epoch. -/
theorem passed_step (hgiven : turn.call.serviceInstance ≠ some epoch.serviceInstance)
    (h : Passed serde epoch turn.before) :
    Passed serde epoch turn.after ∧ ∀ value, turn.result = .ok value → epoch ≠ value.epoch := by
  obtain ⟨-, herror, hok⟩ := activateAny_spec hturn
  cases hresult : turn.result with
  | error e =>
    refine ⟨?_, fun _ h => nomatch h⟩
    unfold Passed
    rwa [read_congr (herror e hresult)]
  | ok value =>
    obtain ⟨digest, previous, next, revoked, rfl, hactivated⟩ := hok value hresult
    obtain ⟨seen, hseen, hpassed⟩ := h
    cases hactivated.seen.symm.trans hseen
    have hnext : next.serviceInstance = epoch.serviceInstance →
        epoch.revision.1.toNat < next.revision.1.toNat := by
      intro hinstance
      rcases nextEpoch_eq_ok hactivated.moved with ⟨hstarted, hnone | hcall⟩
        | ⟨_, hsome, hsame, hlt⟩
      · cases hnone
      · exact absurd (hcall.trans (congrArg some (hstarted.symm.trans hinstance))) hgiven
      · cases hsome
        exact (hpassed (hsame.symm.trans hinstance)).trans_lt hlt
    constructor
    · obtain ⟨after, hafter, hepoch, -⟩ := (hactivated.readBack hserde).read
      rw [activation_epoch] at hepoch
      refine ⟨after, hafter, ?_⟩
      rw [hepoch]
      exact fun hinstance => (hnext hinstance).le
    · rintro _ ⟨⟩ rfl
      rw [activation_epoch] at hnext
      exact absurd (hnext rfl) (lt_irrefl _)

theorem unshared_step (hfresh : ∀ call ∈ calls, call.serviceInstance ≠ some turn.call.started)
    (h : Unshared serde turn.before calls) : Unshared serde turn.after calls := by
  obtain ⟨-, herror, hok⟩ := activateAny_spec hturn
  intro seen hseen call hcall
  cases hresult : turn.result with
  | error e =>
    rw [read_congr (herror e hresult)] at hseen
    exact h seen hseen call hcall
  | ok value =>
    obtain ⟨digest, previous, epoch, revoked, rfl, hactivated⟩ := hok value hresult
    obtain ⟨after, hafter, hepoch, -⟩ := (hactivated.readBack hserde).read
    cases hafter.symm.trans hseen
    rw [activation_epoch] at hepoch
    rw [hepoch]
    rcases nextEpoch_eq_ok hactivated.moved with ⟨hstarted, -⟩ | ⟨before, rfl, hsame, -⟩
    · rw [hstarted]
      exact hfresh call hcall
    · rw [hsame]
      exact h before hactivated.seen call hcall

end Turn

/-! ### Many turns -/

/-- What holds of the calls of a sequence. -/
structure HistoryLaws (serde : Serde) (turns : List Turn) : Prop where
  epochs : turns.Pairwise fun earlier later =>
    ∀ v w, earlier.result = .ok v → later.result = .ok w → v.epoch ≠ w.epoch
  /-- A revoked nonce is revoked by each later activation up to which the binding is live. -/
  sticky : ∀ pre first mid last post, turns = pre ++ first :: (mid ++ last :: post) →
    ∀ v w nonce, first.result = .ok v → last.result = .ok w → nonce ∈ v.revokedAdmissions →
      (∀ turn ∈ mid ++ [last], nonce ∈ turn.call.nonces) → nonce ∈ w.revokedAdmissions
  revokes : ∀ turn ∈ turns, ∀ v, turn.result = .ok v →
    turn.call.configuration.disposition = .revokeActive →
    ∀ nonce ∈ turn.call.nonces, nonce ∈ v.revokedAdmissions
  keeps : ∀ turn ∈ turns, ∀ s ∈ turn.before.snapshots, Referred serde turn s.1 →
    s ∈ turn.after.snapshots
  retains : ∀ turn ∈ turns, Retains serde turn.after
  readBack : ∀ turn ∈ turns, ∀ v, turn.result = .ok v → ReadBack serde turn.after v

section Turns

variable (hserde : ∀ call ∈ calls, serde.ReadsBack call.configuration)

include hserde

/-- Along calls that find the binding live, a revoked nonce stays revoked. -/
theorem revoked_history {mid post : List Turn} {last : Turn}
    (h : history serde store calls = mid ++ last :: post)
    (hlive : ∀ turn ∈ mid ++ [last], nonce ∈ turn.call.nonces)
    (hstore : Revoked serde nonce store) :
    ∀ value, last.result = .ok value → nonce ∈ value.revokedAdmissions := by
  induction mid generalizing store calls with
  | nil =>
    obtain ⟨calls', rfl, rfl, hturn, -⟩ := history_eq_cons h
    exact (revoked_step hturn (hserde _ List.mem_cons_self) (hlive last List.mem_cons_self)
      hstore).2
  | cons turn mid ih =>
    obtain ⟨calls', rfl, rfl, hturn, hrest⟩ := history_eq_cons h
    have hnext :=
      (revoked_step hturn (hserde _ List.mem_cons_self) (hlive turn List.mem_cons_self) hstore).1
    exact ih (fun call hcall => hserde call (List.mem_cons_of_mem _ hcall)) hrest
      (fun turn hturn => hlive turn (List.mem_cons_of_mem _ hturn)) hnext

theorem passed_history (hgiven : ∀ call ∈ calls, call.serviceInstance ≠ some epoch.serviceInstance)
    (h : Passed serde epoch store) :
    ∀ turn ∈ history serde store calls, ∀ value, turn.result = .ok value → epoch ≠ value.epoch := by
  have hstep : ∀ turn ∈ history serde store calls, Passed serde epoch turn.before →
      Passed serde epoch turn.after ∧ ∀ value, turn.result = .ok value → epoch ≠ value.epoch := by
    intro turn hmem
    obtain ⟨hcall, hturn⟩ := mem_history hmem
    exact passed_step hturn (hserde _ hcall) (hgiven _ hcall)
  intro turn hmem
  have hbefore := (history_invariant (fun turn hmem h => (hstep turn hmem h).1) h turn hmem).1
  exact (hstep turn hmem hbefore).2

/-- **No two activations have the same epoch.** -/
theorem epochs_history (hfresh : FreshInstances calls) (hstore : Unshared serde store calls) :
    (history serde store calls).Pairwise fun earlier later =>
      ∀ v w, earlier.result = .ok v → later.result = .ok w → v.epoch ≠ w.epoch := by
  induction calls generalizing store with
  | nil => exact .nil
  | cons call calls ih =>
    obtain ⟨hhead, htail⟩ := List.pairwise_cons.1 hfresh
    have hcall := hserde call List.mem_cons_self
    have hserde := fun call hcall => hserde call (List.mem_cons_of_mem _ hcall)
    have hmem : _ ∈ history serde store (call :: calls) := List.mem_cons_self
    have hturn := (mem_history hmem).2
    have hstore : Unshared serde (store.activateAny serde call).1 calls :=
      unshared_step hturn hcall hhead fun seen hseen call hcall =>
        hstore seen hseen call (List.mem_cons_of_mem _ hcall)
    refine .cons ?_ (ih hserde htail hstore)
    intro later hlater v w hv hw
    obtain ⟨-, -, hok⟩ := activateAny_spec hturn
    obtain ⟨digest, previous, epoch, revoked, rfl, hactivated⟩ := hok v hv
    obtain ⟨seen, hseen, hepoch, -⟩ := (hactivated.readBack hcall).read
    have hpassed : Passed serde (call.configuration.activation digest epoch revoked).epoch _ :=
      ⟨seen, hseen, fun _ => (congrArg (·.revision.1.toNat) hepoch).ge⟩
    have hgiven := hstore seen hseen
    rw [hepoch] at hgiven
    exact passed_history hserde hgiven hpassed later hlater w hw

theorem sticky_history {pre mid post : List Turn} {first last : Turn}
    (h : history serde store calls = pre ++ first :: (mid ++ last :: post))
    {v w : VersionedActivation} (hfirst : first.result = .ok v) (hlast : last.result = .ok w)
    (hnonce : nonce ∈ v.revokedAdmissions)
    (hlive : ∀ turn ∈ mid ++ [last], nonce ∈ turn.call.nonces) :
    nonce ∈ w.revokedAdmissions := by
  obtain ⟨store', calls', hsub, hsuffix⟩ := history_eq_append h
  obtain ⟨calls'', rfl, -, hturn, hrest⟩ := history_eq_cons hsuffix
  obtain ⟨-, -, hok⟩ := activateAny_spec hturn
  obtain ⟨digest, previous, epoch, revoked, rfl, hactivated⟩ := hok v hfirst
  have hread := hactivated.readBack (hserde _ (hsub List.mem_cons_self))
  have hserde' : ∀ call ∈ calls'', serde.ReadsBack call.configuration := fun call hcall =>
    hserde call (hsub (List.mem_cons_of_mem _ hcall))
  exact revoked_history hserde' hrest hlive (hread.revoked hnonce) w hlast

end Turns

/-- **The laws hold over every sequence of calls** that starts with an empty directory. -/
theorem activation_history (hserde : ∀ call ∈ calls, serde.ReadsBack call.configuration)
    (hfresh : FreshInstances calls) : HistoryLaws serde (history serde .empty calls) where
  epochs := epochs_history hserde hfresh fun _ h => nomatch h
  sticky _ _ _ _ _ h _ _ _ hfirst hlast hnonce hlive :=
    sticky_history hserde h hfirst hlast hnonce hlive
  revokes turn hmem v hv hactive nonce hnonce := by
    obtain ⟨-, -, hok⟩ := activateAny_spec (mem_history hmem).2
    obtain ⟨digest, previous, epoch, revoked, rfl, hactivated⟩ := hok v hv
    rw [activation_revokedAdmissions]
    exact hactivated.mem_revoked.2 ⟨hnonce, .inl hactive⟩
  keeps turn hmem _ hs hreferred := (activateAny_spec (mem_history hmem).2).1.keeps hs hreferred
  retains turn hmem := by
    have hstep : ∀ turn ∈ history serde .empty calls, Retains serde turn.before →
        Retains serde turn.after := by
      intro turn hmem
      obtain ⟨hcall, hturn⟩ := mem_history hmem
      exact Retains.step hturn (hserde _ hcall)
    exact (history_invariant hstep retains_empty turn hmem).2
  readBack turn hmem v hv := by
    obtain ⟨hcall, hturn⟩ := mem_history hmem
    obtain ⟨digest, previous, epoch, revoked, rfl, hactivated⟩ := (activateAny_spec hturn).2.2 v hv
    exact hactivated.readBack (hserde _ hcall)

end Histories

/-! ## A sample -/

section Sample

open Encoding

attribute [local instance] zeroHash

/-- The registry of a service that starts for the first time. -/
def idleRegistry : RuntimePolicyRegistry where
  format := "memcordon.local-policy"
  revision := 1
  profiles := .empty
  grants := .empty
  activeAttemptDisposition := .drainExisting

def revokingRegistry : RuntimePrivatePolicyRegistry :=
  { sampleRegistry with activeAttemptDisposition := .revokeActive }

/-- The text of an activation: its version and what is not fixed by the registry. -/
def sampleText {ρ : Type} (version : UInt8) (activation : ActivationOf ρ) : List UInt8 :=
  [version] ++ (activation.registryDigest.toList ++ (activation.epoch.serviceInstance.toList ++
    (encoded64 activation.epoch.revision.1 ++ counted (fun nonce => nonce.toList)
      activation.revokedAdmissions.items)))

/-- The reader of these texts. -/
def sampleReader {ρ : Type} (format : String) (registry : ρ) : Scan String (ActivationOf ρ) := do
  let _ ← Decoder.byte
  let registryDigest ← Decoder.digest
  let serviceInstance ← Decoder.fixed 16
  let revision ← Decoder.revision
  let revokedAdmissions
    ← Decoder.bounded 256 "revocation reference bound exceeded" (Decoder.fixed 16)
  pure { format, revision := 1, registry, registryDigest, epoch := { serviceInstance, revision },
         revokedAdmissions }

theorem reads_sampleText {ρ : Type} (version : UInt8) (activation : ActivationOf ρ)
    (hrevision : activation.revision = 1) :
    Reads (sampleReader activation.format activation.registry) (sampleText version activation)
      activation := by
  refine (reads_byte version).bind
    ((reads_fixed _).bind ((reads_fixed _).bind ((reads_revision _).bind ?_)))
  refine (reads_bounded reads_fixed activation.revokedAdmissions (List.map_id _).symm
    (by decide)).bind_pure ?_
  rw [← hrevision]
  exact .pure

theorem length_sampleText_le {ρ : Type} (version : UInt8) (activation : ActivationOf ρ) :
    (sampleText version activation).length ≤ 32768 := by
  have hcounted :
      (counted (fun nonce : Nonce128 => nonce.toList) activation.revokedAdmissions.items).length ≤
      2 + 256 * 16 :=
    length_counted_le (fun nonce => nonce.toList_length.le) activation.revokedAdmissions.bounded
  unfold sampleText encoded64
  simp only [List.length_append, List.length_singleton, List.Vector.toList_length, length_beBytes]
  omega

/-- A library that knows the two registries. -/
def sampleSerde : Serde where
  registry _ := []
  registryV2 _ := []
  activation := sampleText 1
  activationV2 := sampleText 2
  rejectDuplicateJsonKeys _ := .ok ()
  document bytes :=
    if bytes.head? = some 1 then .ok (some 1, some "memcordon.local-activation")
    else .ok (some 1, some "memcordon.local-private-activation")
  readRegistry _ := .ok idleRegistry
  readRegistryV2 _ := .ok revokingRegistry
  readActivation bytes :=
    (sampleReader "memcordon.local-activation" idleRegistry bytes).map Prod.fst
  readActivationV2 bytes :=
    (sampleReader "memcordon.local-private-activation" revokingRegistry bytes).map Prod.fst

theorem sampleSerde_v1 : sampleSerde.ReadsBack (.v1 idleRegistry) where
  unique _ _ _ := rfl
  document _ _ _ := rfl
  reads _ _ _ := congrArg (Except.map Prod.fst) (reads_sampleText 1 _ rfl [10])
  length _ _ _ := (length_sampleText_le 1 _).trans (Nat.le_add_left _ _)

theorem sampleSerde_v2 : sampleSerde.ReadsBack (.v2 revokingRegistry) where
  unique _ _ _ := rfl
  document _ _ _ := rfl
  reads _ _ _ := congrArg (Except.map Prod.fst) (reads_sampleText 2 _ rfl [10])
  length _ _ _ := (length_sampleText_le 2 _).trans (Nat.le_add_left _ _)

/-- A binding is revoked under V2, and is still live under V1. -/
def sampleCalls : List Call :=
  let nonce := sampleRequest.expectedEpoch.serviceInstance
  let live := [("a", VersionedLiveBinding.privateBinding sampleRequest.workloadPlanDigest nonce)]
  [⟨.v2 revokingRegistry, some nonce, live, nonce⟩, ⟨.v1 idleRegistry, none, live, nonce⟩]

/-- The second activation revokes what the first has revoked. -/
theorem activation_history_sample :
    HistoryLaws sampleSerde (history sampleSerde .empty sampleCalls) ∧
      (history sampleSerde .empty sampleCalls).map (fun turn =>
        turn.result.toOption.map VersionedActivation.revokedAdmissions) =
          [some [sampleRequest.expectedEpoch.serviceInstance],
            some [sampleRequest.expectedEpoch.serviceInstance]] := by
  refine ⟨activation_history ?_ ?_, by decide +kernel⟩
  · intro call hcall
    rcases List.mem_pair.1 hcall with rfl | rfl
    · exact sampleSerde_v2
    · exact sampleSerde_v1
  · exact List.pairwise_pair.2 (by decide)

end Sample

end MemCordon.PolicyRegistry
