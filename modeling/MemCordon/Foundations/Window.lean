import Mathlib.Data.List.Basic

/-!
# A bounded record of a long sequence

A window keeps the first element of a sequence and the last `k` of the others, and counts what it
had to drop. `Window.ofList k as` is the window of a whole sequence, and `Window.push_ofList` says
that pushing keeps it so: whatever was pushed, a window is the window of the sequence pushed. The
other lemmas read facts about the retained elements off the sequence.
-/

namespace MemCordon

/-- The first element, the most recent ones, the length of the sequence and how many elements were
dropped. -/
structure Window (α : Type*) where
  first : Option α := none
  recent : List α := []
  total : ℕ := 0
  omitted : ℕ := 0

namespace Window

variable {α : Type*} {k : ℕ} {as : List α} {a : α}

/-- Append an element, dropping the oldest recent one when `k` are kept already. -/
def push (k : ℕ) (w : Window α) (a : α) : Window α :=
  match w.first with
  | none => { w with first := some a, total := w.total + 1 }
  | some _ =>
    if w.recent.length = k then
      { w with
        recent := w.recent.tail ++ [a], total := w.total + 1, omitted := w.omitted + 1 }
    else { w with recent := w.recent ++ [a], total := w.total + 1 }

/-- How many elements are kept. -/
def retained (w : Window α) : ℕ := w.first.toList.length + w.recent.length

/-- The kept elements, oldest first. -/
def records (w : Window α) : List α := w.first.toList ++ w.recent

/-- The window of a whole sequence. -/
def ofList (k : ℕ) (as : List α) : Window α where
  first := as.head?
  recent := as.tail.drop (as.tail.length - k)
  total := as.length
  omitted := as.tail.length - k

@[simp] theorem ofList_nil : ofList k ([] : List α) = {} := by simp [ofList]

@[simp] theorem total_ofList : (ofList k as).total = as.length := rfl

/-- **A window is the window of what was pushed.** -/
theorem push_ofList (hk : 0 < k) : push k (ofList k as) a = ofList k (as ++ [a]) := by
  cases as with
  | nil => simp [push, ofList]
  | cons b bs =>
    simp only [push, ofList, List.head?_cons, List.tail_cons, List.length_drop, List.cons_append,
      List.length_append, List.length_cons, List.length_nil]
    split_ifs with hfull
    · -- a full window drops its oldest recent element
      have hshift : bs.length + (0 + 1) - k = bs.length - k + 1 := by omega
      rw [hshift, List.drop_append_of_le_length (by omega), List.tail_drop]
    · have hshort : bs.length - k = 0 := by omega
      have hshort' : bs.length + (0 + 1) - k = 0 := by omega
      simp [hshort, hshort']

theorem retained_ofList : (ofList k as).retained = as.length - (as.tail.length - k) := by
  cases as with
  | nil => simp [retained]
  | cons b bs =>
    simp only [retained, ofList, List.head?_cons, Option.toList_some, List.length_cons,
      List.length_nil, List.tail_cons, List.length_drop]
    omega

theorem retained_ofList_le : (ofList k as).retained ≤ k + 1 := by
  rw [retained_ofList, List.length_tail]
  omega

theorem omitted_ofList : (ofList k as).omitted = as.length - (ofList k as).retained := by
  rw [retained_ofList]
  simp only [ofList, List.length_tail]
  omega

theorem records_sublist_ofList : (ofList k as).records.Sublist as := by
  cases as with
  | nil => simp [records]
  | cons b bs =>
    simp only [records, ofList, List.head?_cons, Option.toList_some, List.tail_cons,
      List.singleton_append]
    exact (List.drop_sublist _ _).cons_cons b

theorem mem_of_mem_records (h : a ∈ (ofList k as).records) : a ∈ as :=
  records_sublist_ofList.subset h

/-- The last element pushed is the last one kept. -/
theorem getLast?_records_ofList (hk : 0 < k) : (ofList k as).records.getLast? = as.getLast? := by
  cases as with
  | nil => simp [records]
  | cons b bs =>
    simp only [records, ofList, List.head?_cons, Option.toList_some, List.tail_cons,
      List.singleton_append]
    by_cases hb : bs = []
    · simp [hb]
    · have hlen : 0 < bs.length := List.length_pos_iff.2 hb
      rw [List.getLast?_cons, List.getLast?_cons, List.getLast?_drop]
      simp [show ¬bs.length ≤ bs.length - k by omega]

/-- What a window keeps is what was pushed, but for at most the omitted elements. -/
theorem countP_le_records (p : α → Bool) :
    as.countP p ≤ (ofList k as).records.countP p + (ofList k as).omitted := by
  cases as with
  | nil => simp
  | cons b bs =>
    have hsplit := List.take_append_drop (bs.length - k) bs
    have hcount :
        bs.countP p = (bs.take (bs.length - k)).countP p + (bs.drop (bs.length - k)).countP p := by
      rw [← List.countP_append, hsplit]
    have hdropped : (bs.take (bs.length - k)).countP p ≤ bs.length - k :=
      Nat.le_trans List.countP_le_length (by simp)
    simp only [records, ofList, List.head?_cons, Option.toList_some, List.tail_cons,
      List.singleton_append, List.countP_cons]
    omega

theorem countP_records_le (p : α → Bool) : (ofList k as).records.countP p ≤ as.countP p :=
  records_sublist_ofList.countP_le

/-- The recent elements are the last ones. -/
theorem recent_ofList : (ofList k as).recent = as.drop (as.length - min k (as.length - 1)) := by
  cases as with
  | nil => simp
  | cons b bs =>
    have hstart : (b :: bs).length - min k ((b :: bs).length - 1) = bs.length - k + 1 := by
      simp only [List.length_cons]
      omega
    rw [hstart]
    rfl

/-- The `i`-th recent element, by its place in the sequence. -/
theorem getElem?_recent_ofList {i : ℕ} :
    (ofList k as).recent[i]? = as[(ofList k as).omitted + i + 1]? := by
  cases as with
  | nil => simp
  | cons b bs => simp [ofList, List.getElem?_drop]

theorem length_recent_ofList :
    (ofList k as).recent.length = as.length - 1 - (ofList k as).omitted := by
  simp only [ofList, List.length_drop, List.length_tail]

end Window

end MemCordon
