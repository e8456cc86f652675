import Mathlib.Data.List.Induction
import Mathlib.Data.List.Lex
import Mathlib.Data.List.Sort
import Mathlib.Data.Multiset.MapFold

/-!
# Collections with a key

Lists that stand for sets, told apart by a key.

* `sortByKey` is the order of a list by its key. A list and a permutation of it have the same order
  when their keys are distinct (`sortByKey_eq_of_perm`).
* Looking for an element finds the one that satisfies the property, when at most one does
  (`find?_eq_some_iff`).
* `Multiset.Rel r` relates lists that are the same up to order and a relation. Looking up finds
  related elements (`find?_rel`).
* A loop that compares each element with those before it finds that the keys are distinct
  (`forall_take_iff_nodup`).
-/

namespace MemCordon.Keyed

variable {α κ : Type*}

/-! ## Order -/

/-- The list in the order of its keys, elements with the same key in the order they had. -/
def sortByKey [LinearOrder κ] (key : α → κ) (as : List α) : List α :=
  as.insertionSort fun a b => key a ≤ key b

section Ordered

variable {key : α → κ} {as bs : List α}

theorem nodup_map_map {f : α → α} (hf : ∀ a, key (f a) = key a) (hkeys : (as.map key).Nodup) :
    ((as.map f).map key).Nodup := by
  simpa [Function.comp_def, hf] using hkeys

variable [LinearOrder κ]

theorem sortByKey_perm (key : α → κ) (as : List α) : (sortByKey key as).Perm as :=
  List.perm_insertionSort _ _

theorem mem_sortByKey {a : α} : a ∈ sortByKey key as ↔ a ∈ as :=
  (sortByKey_perm key as).mem_iff

theorem length_sortByKey : (sortByKey key as).length = as.length :=
  (sortByKey_perm key as).length_eq

theorem pairwise_sortByKey (key : α → κ) (as : List α) : (sortByKey key as).Pairwise fun a b =>
    key a ≤ key b := by
  have htotal : Std.Total fun a b : α => key a ≤ key b := ⟨fun a b => le_total (key a) (key b)⟩
  have htrans : IsTrans α fun a b => key a ≤ key b := ⟨fun _ _ _ => le_trans⟩
  exact List.pairwise_insertionSort _ as

/-- **Permutations of a list with distinct keys have the same order.** -/
theorem sortByKey_eq_of_perm (hkeys : (as.map key).Nodup) (hperm : as.Perm bs) :
    sortByKey key as = sortByKey key bs := by
  apply List.Perm.eq_of_pairwise _ (pairwise_sortByKey key as) (pairwise_sortByKey key bs)
  · exact (sortByKey_perm key as).trans (hperm.trans (sortByKey_perm key bs).symm)
  · intro a b ha hb hab hba
    have hbs : b ∈ as := hperm.mem_iff.2 (mem_sortByKey.1 hb)
    exact List.inj_on_of_nodup_map hkeys (mem_sortByKey.1 ha) hbs (le_antisymm hab hba)

/-- A list in the order of its distinct keys is in order already. -/
theorem sortByKey_of_pairwise (hsorted : as.Pairwise fun a b => key a ≤ key b)
    (hkeys : (as.map key).Nodup) : sortByKey key as = as := by
  apply List.Perm.eq_of_pairwise _ (pairwise_sortByKey key as) hsorted (sortByKey_perm key as)
  intro a b ha hb hab hba
  exact List.inj_on_of_nodup_map hkeys (mem_sortByKey.1 ha) hb (le_antisymm hab hba)

theorem sortByKey_sortByKey (hkeys : (as.map key).Nodup) :
    sortByKey key (sortByKey key as) = sortByKey key as := by
  apply sortByKey_of_pairwise (pairwise_sortByKey key as)
  exact (((sortByKey_perm key as).map key).nodup_iff).2 hkeys

/-- A map that keeps the keys keeps the order. -/
theorem sortByKey_map {f : α → α} (hf : ∀ a, key (f a) = key a) (hkeys : (as.map key).Nodup) :
    sortByKey key (as.map f) = (sortByKey key as).map f := by
  have hsorted : ((sortByKey key as).map f).Pairwise fun a b => key a ≤ key b := by
    rw [List.pairwise_map]
    refine (pairwise_sortByKey key as).imp ?_
    intro a b hab
    rwa [hf, hf]
  apply List.Perm.eq_of_pairwise _ (pairwise_sortByKey key _) hsorted
  · exact (sortByKey_perm key _).trans ((sortByKey_perm key as).symm.map f)
  · intro a b ha hb hab hba
    have hb' : b ∈ as.map f := ((sortByKey_perm key as).map f).mem_iff.1 hb
    exact List.inj_on_of_nodup_map (nodup_map_map hf hkeys) (mem_sortByKey.1 ha) hb'
      (le_antisymm hab hba)

/-- Lists with the same order are permutations of each other. -/
theorem perm_of_sortByKey_eq (h : sortByKey key as = sortByKey key bs) : as.Perm bs := by
  have hperm := sortByKey_perm key as
  rw [h] at hperm
  exact hperm.symm.trans (sortByKey_perm key bs)

/-- **Lists that are the same up to order and a relation have the same order**, when the relation is
equality of a form that keeps the keys. -/
theorem rel_iff_sortByKey_map_eq {f : α → α} {r : α → α → Prop} (hf : ∀ a, key (f a) = key a)
    (hkeys : (as.map key).Nodup) (hr : ∀ a b, r a b ↔ f a = f b) :
    Multiset.Rel r (as : Multiset α) bs ↔ sortByKey key (as.map f) = sortByKey key (bs.map f) := by
  have hrel : r = fun a b => f a = f b := by
    funext a b
    exact propext (hr a b)
  rw [hrel,
    ← Multiset.rel_map, Multiset.rel_eq, Multiset.map_coe, Multiset.map_coe, Multiset.coe_eq_coe]
  exact ⟨fun h => sortByKey_eq_of_perm (nodup_map_map hf hkeys) h, perm_of_sortByKey_eq⟩

end Ordered

/-! ## Looking an element up -/

section Find

variable {p : α → Bool} {as bs : List α}

def AtMostOne (p : α → Bool) (as : List α) : Prop :=
  ∀ a ∈ as, ∀ b ∈ as, p a = true → p b = true → a = b

theorem find?_eq_some_iff (hone : AtMostOne p as) {a : α} : as.find? p = some a ↔
    a ∈ as ∧ p a = true := by
  constructor
  · intro h
    exact ⟨List.mem_of_find?_eq_some h, List.find?_some h⟩
  · rintro ⟨hmem, hp⟩
    cases hfind : as.find? p with
    | none => exact absurd hp (List.find?_eq_none.1 hfind a hmem)
    | some b =>
      rw [hone a hmem b (List.mem_of_find?_eq_some hfind) hp (List.find?_some hfind)]

/-- A property that fixes a key, over distinct keys. -/
theorem atMostOne_of_key {key : α → κ} (hkeys : (as.map key).Nodup) {k : κ}
    (hp : ∀ a, p a = true → key a = k) : AtMostOne p as := fun a ha b hb hpa hpb =>
  List.inj_on_of_nodup_map hkeys ha hb ((hp a hpa).trans (hp b hpb).symm)

end Find

/-! ## Lists that are the same up to order and a relation -/

section Rel

variable {r : α → α → Prop} {as bs : List α}

theorem exists_of_rel (h : Multiset.Rel r (as : Multiset α) bs) {a : α} (ha : a ∈ as) :
    ∃ b ∈ bs, r a b := by
  obtain ⟨b, hb, hab⟩ := Multiset.exists_mem_of_rel_of_mem h (Multiset.mem_coe.2 ha)
  exact ⟨b, Multiset.mem_coe.1 hb, hab⟩

theorem exists_of_rel_right (h : Multiset.Rel r (as : Multiset α) bs) {b : α} (hb : b ∈ bs) :
    ∃ a ∈ as, r a b := by
  obtain ⟨a, ha, hab⟩ :=
    Multiset.exists_mem_of_rel_of_mem (Multiset.rel_flip.2 h) (Multiset.mem_coe.2 hb)
  exact ⟨a, Multiset.mem_coe.1 ha, hab⟩

/-- What the relation keeps is the same up to order. -/
theorem map_perm_of_rel {β : Type*} {f : α → β} (h : Multiset.Rel r (as : Multiset α) bs)
    (hf : ∀ a ∈ as, ∀ b ∈ bs, r a b → f a = f b) : (as.map f).Perm (bs.map f) := by
  have hmap : Multiset.Rel (· = ·) ((as : Multiset α).map f) ((bs : Multiset α).map f) :=
    Multiset.rel_map.2 (h.mono hf)
  rw [Multiset.rel_eq, Multiset.map_coe, Multiset.map_coe, Multiset.coe_eq_coe] at hmap
  exact hmap

theorem any_eq_of_rel {p : α → Bool} (h : Multiset.Rel r (as : Multiset α) bs)
    (hp : ∀ a b, r a b → p a = p b) : as.any p = bs.any p := by
  rw [Bool.eq_iff_iff, List.any_eq_true, List.any_eq_true]
  constructor
  · rintro ⟨a, ha, hpa⟩
    obtain ⟨b, hb, hab⟩ := exists_of_rel h ha
    exact ⟨b, hb, hp a b hab ▸ hpa⟩
  · rintro ⟨b, hb, hpb⟩
    obtain ⟨a, ha, hab⟩ := exists_of_rel_right h hb
    exact ⟨a, ha, hp a b hab ▸ hpb⟩

/-- Looking up finds related elements, when a key that the relation keeps is distinct. -/
theorem find?_rel {key : α → κ} {p : α → Bool} {k : κ} (h : Multiset.Rel r (as : Multiset α) bs)
    (hkeys : (as.map key).Nodup) (hr : ∀ a b, r a b → key a = key b ∧ p a = p b)
    (hp : ∀ a, p a = true → key a = k) : Option.Rel r (as.find? p) (bs.find? p) := by
  have hkeys' : (bs.map key).Nodup :=
    (map_perm_of_rel h fun a _ b _ hab => (hr a b hab).1).nodup_iff.1 hkeys
  cases hfind : as.find? p with
  | none =>
    have hnone : bs.find? p = none := by
      rw [List.find?_eq_none]
      intro b hb
      obtain ⟨a, ha, hab⟩ := exists_of_rel_right h hb
      rw [← (hr a b hab).2]
      exact List.find?_eq_none.1 hfind a ha
    rw [hnone]
    exact .none
  | some a =>
    obtain ⟨ha, hpa⟩ := (find?_eq_some_iff (atMostOne_of_key hkeys hp)).1 hfind
    obtain ⟨b, hb, hab⟩ := exists_of_rel h ha
    have hpb : p b = true := by rwa [← (hr a b hab).2]
    rw [(find?_eq_some_iff (atMostOne_of_key hkeys' hp)).2 ⟨hb, hpb⟩]
    exact .some hab

/-- Lists related element by element are related up to order. -/
theorem rel_of_forall₂ (h : List.Forall₂ r as bs) : Multiset.Rel r (as : Multiset α) bs := by
  induction h with
  | nil => exact .zero
  | cons hab _ ih => exact .cons hab ih

section Sorted

variable [LinearOrder κ] {key : α → κ}

/-- Lists whose orders are related element by element are related up to order. -/
theorem rel_of_forall₂_sortByKey (h : List.Forall₂ r (sortByKey key as) (sortByKey key bs)) :
    Multiset.Rel r (as : Multiset α) bs := by
  have hrel := rel_of_forall₂ h
  rwa [Multiset.coe_eq_coe.2 (sortByKey_perm key as), Multiset.coe_eq_coe.2 (sortByKey_perm key bs)]
    at hrel

/-- What the relation keeps has one order. -/
theorem map_sortByKey_eq_of_rel {β : Type*} {f : α → β} (h : Multiset.Rel r (as : Multiset α) bs)
    (hkeys : (as.map key).Nodup) (hr : ∀ a ∈ as, ∀ b ∈ bs, r a b → key a = key b ∧ f a = f b) :
    (sortByKey key as).map f = (sortByKey key bs).map f := by
  have hpairs : (as.map fun a => (key a, f a)).Perm (bs.map fun b => (key b, f b)) :=
    map_perm_of_rel h fun a ha b hb hab => Prod.ext (hr a ha b hb hab).1 (hr a ha b hb hab).2
  have hsort (cs : List α) : sortByKey Prod.fst (cs.map fun c => (key c, f c)) =
      (sortByKey key cs).map fun c => (key c, f c) :=
    (List.map_insertionSort _ _ (fun c => (key c, f c)) cs fun _ _ _ _ => Iff.rfl).symm
  have hfirst : ((as.map fun a => (key a, f a)).map Prod.fst).Nodup := by
    rwa [List.map_map]
  have hsorted := sortByKey_eq_of_perm hfirst hpairs
  rw [hsort, hsort] at hsorted
  have hsnd := congrArg (List.map Prod.snd) hsorted
  rwa [List.map_map, List.map_map] at hsnd

end Sorted

end Rel

/-! ## Distinct keys, by a loop over the elements before -/

section Distinct

variable [DecidableEq κ] {key : α → κ} {as : List α}

theorem nodup_iff_take : as.Nodup ↔ ∀ (i : ℕ) (a : α), as[i]? = some a → a ∉ as.take i := by
  rw [List.nodup_iff_getElem?_ne_getElem?]
  simp only [List.mem_take_iff_getElem, List.getElem?_eq_some_iff]
  grind

/-- **A loop that meets no earlier element with its key has distinct keys.** -/
theorem forall_take_iff_nodup :
    (∀ (i : ℕ) (a : α), as[i]? = some a → (as.take i).any (fun b => key b = key a) = false) ↔
    (as.map key).Nodup := by
  simp only [nodup_iff_take, List.getElem?_map,
    ← List.map_take, List.any_eq_false, decide_eq_true_eq, Option.map_eq_some_iff, List.mem_map]
  grind

end Distinct

/-- A selection of elements that keeps their keys. -/
theorem nodup_map_filterMap {α β κ : Type*} {f : α → Option β} {key : α → κ} {key' : β → κ}
    {as : List α} (h : (as.map key).Nodup) (hf : ∀ a b, f a = some b → key' b = key a) :
    ((as.filterMap f).map key').Nodup := by
  rw [List.Nodup, List.pairwise_map] at *
  refine h.filterMap f fun a a' hne b hb b' hb' => ?_
  rwa [hf a b hb, hf a' b' hb']

/-! ## Loops that check every element -/

section Checks

variable {ε : Type*}

variable {P : α → Prop} {Q : ℕ → α → Prop} {as : List α}

/-- A part of what holds at every place does not depend on the place. -/
theorem forall_getElem?_and :
    (∀ (i : ℕ) (a : α), as[i]? = some a → Q i a ∧ P a) ↔
      (∀ (i : ℕ) (a : α), as[i]? = some a → Q i a) ∧ ∀ a ∈ as, P a := by
  constructor
  · intro h
    refine ⟨fun i a ha => (h i a ha).1, fun a ha => ?_⟩
    obtain ⟨i, hi⟩ := List.mem_iff_getElem?.1 ha
    exact (h i a hi).2
  · exact fun h i a ha => ⟨h.1 i a ha, h.2 a (List.mem_of_getElem? ha)⟩

theorem forall_getElem?_and' :
    (∀ (i : ℕ) (a : α), as[i]? = some a → P a ∧ Q i a) ↔
      (∀ a ∈ as, P a) ∧ ∀ (i : ℕ) (a : α), as[i]? = some a → Q i a :=
  (forall₃_congr fun _ _ _ => and_comm).trans (forall_getElem?_and.trans and_comm)

theorem forM_eq_ok {f : α → Except ε Unit} : as.forM f = .ok () ↔ ∀ a ∈ as, f a = .ok () := by
  induction as with
  | nil => exact ⟨fun _ a h => by simp at h, fun _ => rfl⟩
  | cons b as ih =>
    have hcons : (b :: as).forM f = (f b >>= fun _ => as.forM f) := rfl
    rw [hcons, List.forall_mem_cons, ← ih]
    cases f b with
    | error e => exact ⟨fun h => (nomatch h), fun h => (nomatch h.1)⟩
    | ok u => exact ⟨fun h => ⟨rfl, h⟩, fun h => h.2⟩

/-- A loop over a list with the index of each element succeeds when every turn does. -/
theorem forM_zipIdx_eq_ok {f : α × ℕ → Except ε Unit} {n : ℕ} :
    (as.zipIdx n).forM f = .ok () ↔ ∀ (i : ℕ) (a : α), as[i]? = some a → f (a, n + i) = .ok () := by
  rw [forM_eq_ok]
  simp only [Prod.forall, List.mem_zipIdx_iff_le_and_getElem?_sub]
  constructor
  · intro h i a ha
    exact h a (n + i) ⟨Nat.le_add_right n i, by rwa [Nat.add_sub_cancel_left]⟩
  · rintro h a i ⟨hi, ha⟩
    have hturn := h (i - n) a ha
    rwa [Nat.add_sub_cancel' hi] at hturn

end Checks

end MemCordon.Keyed
