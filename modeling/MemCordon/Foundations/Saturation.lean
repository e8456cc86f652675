import Mathlib.Data.Finset.Card
import Mathlib.Order.Bounds.Basic

/-!
# Saturation

A set that is grown by passes over a list: an item that the set admits puts its name into it, and
the passes end with the first one that adds nothing.

* A pass that adds nothing has found a closed set (`pass_cases`), and a pass never leaves a closed
  set that it starts in (`pass_subset`).
* `saturate_spec`: one pass more than there are items suffices, and what comes out is the least
  closed set above the first one. It depends on the items only, not on their order.
-/

namespace MemCordon.Saturation

variable {α β : Type} [DecidableEq α] (admits : Finset α → β → Bool) (name : β → α)

/-- One pass over the items. The flag says whether anything was added. -/
def pass : List β → Finset α → Finset α × Bool
  | [], s => (s, false)
  | item :: items, s =>
    if admits s item = true ∧ name item ∉ s then ((pass items (insert (name item) s)).1, true) else
      pass items s

/-- Passes until one adds nothing. There is no result where the fuel does not suffice. -/
def saturate (items : List β) : ℕ → Finset α → Option (Finset α)
  | 0, _ => none
  | fuel + 1, s =>
    match pass admits name items s with
    | (grown, true) => saturate items fuel grown
    | (grown, false) => some grown

/-- Every item that the set admits has its name in it. -/
def Closed (items : List β) (s : Finset α) : Prop :=
  ∀ item ∈ items, admits s item = true → name item ∈ s

variable {items : List β} {s t : Finset α} {fuel : ℕ}

/-- A pass says whether it has added anything, and one that has not found a closed set. -/
theorem pass_cases (items : List β) (s : Finset α) :
    pass admits name items s = (s, false) ∧ Closed admits name items s ∨
      (pass admits name items s).2 = true ∧ s ⊂ (pass admits name items s).1 := by
  induction items generalizing s with
  | nil => exact .inl ⟨rfl, fun _ h => by simp at h⟩
  | cons item items ih =>
    rw [pass]
    split_ifs with h
    · have hgrown : insert (name item) s ⊆ (pass admits name items (insert (name item) s)).1 := by
        rcases ih (insert (name item) s) with ⟨heq, -⟩ | ⟨-, hgrown⟩
        · rw [heq]
        · exact hgrown.subset
      exact .inr ⟨rfl, (Finset.ssubset_insert h.2).trans_subset hgrown⟩
    · refine (ih s).imp_left fun hclosed => ⟨hclosed.1, ?_⟩
      rw [Closed, List.forall_mem_cons]
      exact ⟨fun hadmits => by_contra fun hnew => h ⟨hadmits, hnew⟩, hclosed.2⟩

/-- The first pass of a saturation. -/
theorem saturate_succ : saturate admits name items (fuel + 1) s =
    if (pass admits name items s).2 = true then
      saturate admits name items fuel (pass admits name items s).1
    else some (pass admits name items s).1 := by
  rw [saturate]
  rcases pass admits name items s with ⟨grown, _ | _⟩ <;> rfl

variable {admits name}

variable (hmono : ∀ s t item, s ⊆ t → admits s item = true → admits t item = true)
include hmono

/-- A pass stays in every closed set. -/
theorem pass_subset (ht : Closed admits name items t) (hs : s ⊆ t) :
    (pass admits name items s).1 ⊆ t := by
  induction items generalizing s with
  | nil => exact hs
  | cons item items ih =>
    rw [Closed, List.forall_mem_cons] at ht
    rw [pass]
    split_ifs with h
    · exact ih ht.2 (Finset.insert_subset (ht.1 (hmono _ _ _ hs h.1)) hs)
    · exact ih ht.2 hs

theorem saturate_isLeast (h : saturate admits name items fuel s = some t) :
    IsLeast {u | s ⊆ u ∧ Closed admits name items u} t := by
  induction fuel generalizing s with
  | zero => cases h
  | succ fuel ih =>
    rw [saturate_succ] at h
    rcases pass_cases admits name items s with ⟨hpass, hclosed⟩ | ⟨hchanged, hgrown⟩
    · rw [hpass] at h
      cases h
      exact ⟨⟨subset_rfl, hclosed⟩, fun u hu => hu.1⟩
    · rw [if_pos hchanged] at h
      obtain ⟨hmem, hleast⟩ := ih h
      exact ⟨⟨hgrown.subset.trans hmem.1, hmem.2⟩,
        fun u hu => hleast ⟨pass_subset hmono hu.2 hu.1, hu.2⟩⟩

/-- Each pass but the last one adds the name of an item. -/
theorem saturate_isSome (h : ((items.map name).toFinset \ s).card < fuel) :
    ∃ t, saturate admits name items fuel s = some t := by
  induction fuel generalizing s with
  | zero => exact absurd h (Nat.not_lt_zero _)
  | succ fuel ih =>
    rw [saturate_succ]
    rcases pass_cases admits name items s with ⟨hpass, -⟩ | ⟨hchanged, hgrown⟩
    · rw [hpass]
      exact ⟨s, rfl⟩
    · rw [if_pos hchanged]
      refine ih (lt_of_lt_of_le (Finset.card_lt_card ?_) (Nat.lt_succ_iff.1 h))
      have hnames : (pass admits name items s).1 ⊆ s ∪ (items.map name).toFinset :=
        pass_subset hmono (fun item hitem _ => by simp [List.mem_map_of_mem hitem])
          Finset.subset_union_left
      obtain ⟨x, hx, hnew⟩ := Finset.exists_of_ssubset hgrown
      have hname := (Finset.mem_union.1 (hnames hx)).resolve_left hnew
      exact (Finset.ssubset_iff_of_subset (Finset.sdiff_subset_sdiff subset_rfl hgrown.subset)).2
        ⟨x, Finset.mem_sdiff.2 ⟨hname, hnew⟩, fun h => (Finset.mem_sdiff.1 h).2 hx⟩

/-- **Saturation** comes to its end, and with the least closed set. -/
theorem saturate_spec (s : Finset α) (hfuel : items.length < fuel) :
    ∃ t, saturate admits name items fuel s = some t ∧
      IsLeast {u | s ⊆ u ∧ Closed admits name items u} t := by
  have hcard : ((items.map name).toFinset \ s).card < fuel := by
    have hlength := List.toFinset_card_le (items.map name)
    rw [List.length_map] at hlength
    exact ((Finset.card_le_card Finset.sdiff_subset).trans hlength).trans_lt hfuel
  obtain ⟨t, ht⟩ := saturate_isSome hmono hcard
  exact ⟨t, ht, saturate_isLeast hmono ht⟩

end MemCordon.Saturation
