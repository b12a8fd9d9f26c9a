import Mathlib.Data.List.Basic
import Mathlib.Data.List.GetD
import Mathlib.Tactic.Common

set_option relaxedAutoImplicit false
set_option autoImplicit false

/-!
# Lists cut into segments

A list may be stored flat, together with the offsets at which its complete segments end. What
follows the last offset is an incomplete segment.

## Main definitions

* `Segments.Valid` — offsets that are positive, strictly increasing and within the list.
* `Segments.ends` — the end offsets of given segments.
* `Segments.startOf` — the offset at which a segment starts.
* `Segments.Splits` — a flat list with its offsets, read as segments and a rest.
* `Segments.cut`, `Segments.rest` — the segments and the rest, as slices of the list.

## Main results

* `Segments.exists_splits` — valid offsets cut a list into non-empty segments and a rest.
* `Segments.Splits.valid` — the offsets of non-empty segments are valid.
* `Segments.Splits.unique` — in one way only.
* `Segments.Splits.drop` — what the list and its offsets become when the oldest segments are
  dropped.
* `Segments.Splits.close` — what they become when the rest is closed to a segment.
* `Segments.splits_cut`, `Segments.Splits.slices` — slicing at the offsets gives the segments.
-/

namespace Segments

variable {α : Type}

/-- Offsets that increase strictly from `previous` on and do not exceed `count`. -/
def Valid (count : ℕ) : ℕ → List ℕ → Prop
  | _, [] => True
  | previous, b :: bs => previous < b ∧ b ≤ count ∧ Valid count b bs

/-- The end offsets of segments, the first of which starts at `start`. -/
def ends : ℕ → List (List α) → List ℕ
  | _, [] => []
  | start, s :: segs => (start + s.length) :: ends (start + s.length) segs

/-- The offset at which segment `k` starts. -/
def startOf (bs : List ℕ) (k : ℕ) : ℕ := if k = 0 then 0 else bs.getD (k - 1) 0

/-- The slices of the list from `start` to the first offset, and from each offset to the next. -/
def cut (xs : List α) : ℕ → List ℕ → List (List α)
  | _, [] => []
  | start, b :: bs => (xs.take b).drop start :: cut xs b bs

/-- The slice of the list from the last offset on. -/
def rest (xs : List α) (bs : List ℕ) : List α := xs.drop (startOf bs bs.length)

/-- The list `xs` with the offsets `bs`, read as segments and a rest. -/
structure Splits (xs : List α) (bs : List ℕ) (segs : List (List α)) (rest : List α) : Prop where
  items : xs = segs.flatten ++ rest
  offsets : bs = ends 0 segs
  nonempty : ∀ s ∈ segs, s ≠ []

/-! ### End offsets -/

@[simp] lemma ends_nil (start : ℕ) : ends start ([] : List (List α)) = [] := rfl

@[simp] lemma length_ends (start : ℕ) (segs : List (List α)) :
    (ends start segs).length = segs.length := by
  induction segs generalizing start with
  | nil => rfl
  | cons s segs ih => simp only [ends, List.length_cons, ih]

/-- The end offsets of segments in a row. -/
lemma ends_append (start : ℕ) (segs segs' : List (List α)) :
    ends start (segs ++ segs') =
      ends start segs ++ ends (start + segs.flatten.length) segs' := by
  induction segs generalizing start with
  | nil => rfl
  | cons s segs ih =>
    simp only [List.cons_append, ends, ih, List.flatten_cons, List.length_append, Nat.add_assoc]

/-- Moving the start moves all offsets. -/
lemma ends_add (start k : ℕ) (segs : List (List α)) :
    ends (start + k) segs = (ends start segs).map (· + k) := by
  induction segs generalizing start with
  | nil => rfl
  | cons s segs ih =>
    simp only [ends, List.map_cons, ← ih, Nat.add_right_comm start k]

/-- Offsets counted from the start. -/
lemma map_sub_ends (start : ℕ) (segs : List (List α)) :
    (ends start segs).map (· - start) = ends 0 segs := by
  have h := ends_add 0 start segs
  rw [Nat.zero_add] at h
  rw [h, List.map_map]
  simp [Function.comp_def]

/-- The offset at which segment `k` ends. -/
lemma getD_ends {start k : ℕ} {segs : List (List α)} (hk : k < segs.length) :
    (ends start segs).getD k 0 = start + (segs.take (k + 1)).flatten.length := by
  induction segs generalizing start k with
  | nil => cases hk
  | cons s segs ih =>
    rw [List.take_succ_cons, List.flatten_cons, List.length_append, ← Nat.add_assoc]
    cases k with
    | zero => rw [List.take_zero]; rfl
    | succ k => exact ih (by simpa using hk)

/-- The offset of a segment is the length of the segments before it. -/
lemma startOf_ends {segs : List (List α)} {k : ℕ} (hk : k ≤ segs.length) :
    startOf (ends 0 segs) k = (segs.take k).flatten.length := by
  unfold startOf
  cases k with
  | zero => rfl
  | succ k => rw [if_neg (Nat.succ_ne_zero k), Nat.add_sub_cancel, getD_ends hk, Nat.zero_add]

/-! ### Splitting -/

/-- The offsets of non-empty segments are valid. -/
lemma valid_ends {count start : ℕ} {segs : List (List α)} (hne : ∀ s ∈ segs, s ≠ [])
    (hcount : start + segs.flatten.length ≤ count) : Valid count start (ends start segs) := by
  induction segs generalizing start with
  | nil => trivial
  | cons s segs ih =>
    rw [List.forall_mem_cons] at hne
    rw [List.flatten_cons, List.length_append] at hcount
    have hs : 0 < s.length := List.length_pos_of_ne_nil hne.1
    exact ⟨by omega, by omega, ih hne.2 (by omega)⟩

/-- Valid offsets cut a list into non-empty segments and a rest.

**Proof sketch.** Induction on the offsets: the first segment reaches up to the first offset. -/
lemma exists_segments (start : ℕ) (xs : List α) (bs : List ℕ)
    (h : Valid (start + xs.length) start bs) :
    ∃ segs rest, xs = segs.flatten ++ rest ∧ bs = ends start segs ∧ ∀ s ∈ segs, s ≠ [] := by
  induction bs generalizing start xs with
  | nil => exact ⟨[], xs, rfl, rfl, nofun⟩
  | cons b bs ih =>
    obtain ⟨hlt, hle, hbs⟩ := h
    have hlen : (xs.take (b - start)).length = b - start :=
      List.length_take_of_le (by omega)
    have hstart : start + (b - start) = b := by omega
    have hdrop : b + (xs.drop (b - start)).length = start + xs.length := by
      rw [List.length_drop]
      omega
    obtain ⟨segs, rest, hxs, rfl, hne⟩ := ih b (xs.drop (b - start)) (hdrop ▸ hbs)
    refine ⟨xs.take (b - start) :: segs, rest, ?_, ?_, ?_⟩
    · rw [List.flatten_cons, List.append_assoc, ← hxs, List.take_append_drop]
    · rw [ends, hlen, hstart]
    · refine List.forall_mem_cons.2 ⟨fun hnil => ?_, hne⟩
      rw [hnil, List.length_nil] at hlen
      omega

theorem exists_splits {xs : List α} {bs : List ℕ} (h : Valid xs.length 0 bs) :
    ∃ segs rest, Splits xs bs segs rest := by
  obtain ⟨segs, rest, hxs, hbs, hne⟩ := exists_segments 0 xs bs (by rwa [Nat.zero_add])
  exact ⟨segs, rest, hxs, hbs, hne⟩

/-- End offsets determine where the segments of a list end. -/
lemma flatten_append_inj {start : ℕ} {segs segs' : List (List α)} {rest rest' : List α}
    (hxs : segs.flatten ++ rest = segs'.flatten ++ rest')
    (hbs : ends start segs = ends start segs') : segs = segs' ∧ rest = rest' := by
  induction segs generalizing start segs' with
  | nil =>
    cases segs' with
    | nil => exact ⟨rfl, hxs⟩
    | cons s' segs' => cases hbs
  | cons s segs ih =>
    cases segs' with
    | nil => cases hbs
    | cons s' segs' =>
      simp only [ends, List.cons.injEq] at hbs
      have hlen : s.length = s'.length := by omega
      simp only [List.flatten_cons, List.append_assoc] at hxs
      obtain ⟨rfl, htail⟩ := List.append_inj hxs hlen
      obtain ⟨rfl, rfl⟩ := ih htail hbs.2
      exact ⟨rfl, rfl⟩

namespace Splits

variable {xs rest : List α} {bs : List ℕ} {segs : List (List α)}

theorem valid (h : Splits xs bs segs rest) : Valid xs.length 0 bs := by
  rw [h.offsets]
  exact valid_ends h.nonempty (by rw [h.items, List.length_append]; omega)

theorem unique {segs' : List (List α)} {rest' : List α} (h : Splits xs bs segs rest)
    (h' : Splits xs bs segs' rest') : segs = segs' ∧ rest = rest' :=
  flatten_append_inj (h.items.symm.trans h'.items) (h.offsets.symm.trans h'.offsets)

lemma length_eq (h : Splits xs bs segs rest) : bs.length = segs.length := by
  rw [h.offsets, length_ends]

/-- What the list becomes when its oldest segments are dropped. -/
lemma drop_items (h : Splits xs bs segs rest) {k : ℕ} (hk : k ≤ segs.length) :
    xs.drop (startOf bs k) = (segs.drop k).flatten ++ rest := by
  have hflat : segs.flatten = (segs.take k).flatten ++ (segs.drop k).flatten := by
    rw [← List.flatten_append, List.take_append_drop]
  rw [h.offsets, startOf_ends hk, h.items, hflat, List.append_assoc, List.drop_left]

/-- **Dropping the oldest segments**, from the list and, counted anew, from its offsets. -/
theorem drop (h : Splits xs bs segs rest) {k : ℕ} (hk : k ≤ segs.length) :
    Splits (xs.drop (startOf bs k)) ((bs.drop k).map (· - startOf bs k)) (segs.drop k) rest where
  items := h.drop_items hk
  offsets := by
    have hends : (ends 0 segs).drop k = ends (segs.take k).flatten.length (segs.drop k) := by
      have happ := ends_append 0 (segs.take k) (segs.drop k)
      rw [List.take_append_drop, Nat.zero_add] at happ
      rw [happ]
      exact List.drop_left' (by rw [length_ends, List.length_take_of_le hk])
    rw [h.offsets, startOf_ends hk, hends, map_sub_ends]
  nonempty s hs := h.nonempty s (List.mem_of_mem_drop hs)

/-- **Closing the rest** to a segment. -/
theorem close (h : Splits xs bs segs rest) (hne : rest ≠ []) :
    Splits xs (bs ++ [xs.length]) (segs ++ [rest]) [] where
  items := by rw [h.items]; simp
  offsets := by
    rw [ends_append, ← h.offsets, Nat.zero_add]
    simp [ends, h.items]
  nonempty s hs := by
    rcases List.mem_append.1 hs with hs | hs
    · exact h.nonempty s hs
    · rwa [List.mem_singleton.1 hs]

/-- Items that come after the last offset belong to the rest. -/
theorem extend (h : Splits xs bs segs rest) (ys : List α) :
    Splits (xs ++ ys) bs segs (rest ++ ys) where
  items := by rw [h.items, List.append_assoc]
  offsets := h.offsets
  nonempty := h.nonempty

end Splits

/-! ### Slices -/

/-- Slicing at the end offsets of segments gives the segments. -/
lemma cut_ends (before : List α) (segs : List (List α)) (after : List α) :
    cut (before ++ (segs.flatten ++ after)) before.length (ends before.length segs) = segs := by
  induction segs generalizing before with
  | nil => rfl
  | cons s segs ih =>
    have hstep := ih (before ++ s)
    rw [List.length_append, List.append_assoc] at hstep
    rw [ends, cut, List.flatten_cons, List.append_assoc, hstep]
    congr 1
    rw [← List.append_assoc, List.take_left' (by rw [List.length_append]), List.drop_left]

namespace Splits

variable {xs after : List α} {bs : List ℕ} {segs : List (List α)}

/-- The segments and the rest are slices of the list. -/
theorem slices (h : Splits xs bs segs after) : cut xs 0 bs = segs ∧ rest xs bs = after := by
  constructor
  · have hcut := cut_ends [] segs after
    rwa [List.nil_append, List.length_nil, ← h.items, ← h.offsets] at hcut
  · have hdrop := h.drop_items (Nat.le_refl _)
    rw [List.drop_length, List.flatten_nil, List.nil_append] at hdrop
    rw [rest, h.length_eq, hdrop]

/-- The last segment is the slice between the last two offsets. -/
lemma last_slice {last : List α} (h : Splits xs bs (segs ++ [last]) after) :
    (xs.take (startOf bs (segs.length + 1))).drop (startOf bs segs.length) = last := by
  have hitems : xs = segs.flatten ++ (last ++ after) := by
    rw [h.items, List.flatten_append, List.flatten_singleton, List.append_assoc]
  have hstop : startOf bs (segs.length + 1) = segs.flatten.length + last.length := by
    rw [h.offsets, startOf_ends (by simp), List.take_of_length_le (by simp)]
    simp
  have hstart : startOf bs segs.length = segs.flatten.length := by
    rw [h.offsets, startOf_ends (by simp), List.take_left]
  rw [hstop, hstart, hitems, ← List.append_assoc,
    List.take_left' (by rw [List.length_append]), List.drop_left]

end Splits

/-- Valid offsets cut a list into its slices. -/
theorem splits_cut {xs : List α} {bs : List ℕ} (h : Valid xs.length 0 bs) :
    Splits xs bs (cut xs 0 bs) (rest xs bs) := by
  obtain ⟨segs, after, hs⟩ := exists_splits h
  obtain ⟨hsegs, hafter⟩ := hs.slices
  rwa [hsegs, hafter]

/-- The number of slices. -/
@[simp] lemma length_cut (xs : List α) (start : ℕ) (bs : List ℕ) :
    (cut xs start bs).length = bs.length := by
  induction bs generalizing start with
  | nil => rfl
  | cons b bs ih => rw [cut, List.length_cons, ih, List.length_cons]

end Segments
