import NtHive.Basic

namespace NtHive

variable {α : Type} [Inhabited α]

/-- The loop of `slice::binary_search_by` of `core`: halve `size` around `base`, keeping the
upper half unless the probe compares greater, until one candidate is left. The probe is an
unchecked read, so the model reads with a default that the loop never reaches. -/
def binarySearchLoop (xs : List α) (f : α → Ordering) (size base : Nat) : Nat :=
  if h : 1 < size then
    binarySearchLoop xs f (size - size / 2)
      (if f (xs.getD (base + size / 2) default) = .gt then base else base + size / 2)
  else base
termination_by size
decreasing_by omega

/-- `slice::binary_search_by` of `core`: `Ok` with the index of an element that compares
equal, or `Err` with the place to insert one. -/
def binarySearchBy (xs : List α) (f : α → Ordering) : Except Nat Nat :=
  if xs.length = 0 then .error 0
  else
    let base := binarySearchLoop xs f xs.length 0
    match f (xs.getD base default) with
    | .eq => .ok base
    | .lt => .error (base + 1)
    | .gt => .error base

section Search

variable (xs : List α) (key : α → Nat) (t : Nat)

/-- The window the loop searches: nonempty, inside the list, and holding every index whose
key is `t`. -/
def Window (size base : Nat) : Prop :=
  0 < size ∧ base + size ≤ xs.length ∧
    ∀ j (hj : j < xs.length), key xs[j] = t → base ≤ j ∧ j < base + size

variable {xs key t}

theorem window_step (hs : xs.Pairwise (fun a b => key a < key b)) {size base : Nat}
    (hw : Window xs key t size base) (h : 1 < size) :
    Window xs key t (size - size / 2) (if compare (key (xs.getD (base + size / 2) default)) t = .gt
      then base else base + size / 2) := by
  obtain ⟨hpos, hlen, hin⟩ := hw
  have hmid : base + size / 2 < xs.length := by omega
  have hget : xs.getD (base + size / 2) default = xs[base + size / 2] := by
    simp [List.getD_eq_getElem?_getD, hmid]
  rw [hget]
  have hord := List.pairwise_iff_getElem.mp hs
  split
  · next hgt =>
      rw [Nat.compare_eq_gt] at hgt
      refine ⟨by omega, by omega, fun j hj hk => ?_⟩
      have hlt : j < base + size / 2 := Nat.lt_of_not_le fun hle => by
        rcases Nat.lt_or_eq_of_le hle with hlt | rfl
        · have := hord _ _ hmid hj hlt
          omega
        · omega
      have := hin j hj hk
      omega
  · next hgt =>
      rw [Nat.compare_eq_gt] at hgt
      refine ⟨by omega, by omega, fun j hj hk => ?_⟩
      have hge : base + size / 2 ≤ j := Nat.le_of_not_lt fun hlt => by
        have := hord _ _ hj hmid hlt
        omega
      have := hin j hj hk
      omega

theorem window_loop (hs : xs.Pairwise (fun a b => key a < key b)) {size base : Nat}
    (hw : Window xs key t size base) :
    Window xs key t 1 (binarySearchLoop xs (fun a => compare (key a) t) size base) := by
  induction size, base using binarySearchLoop.induct xs (fun a => compare (key a) t) with
  | case1 size base h ih =>
      rw [binarySearchLoop, dif_pos h]
      exact ih (window_step hs hw h)
  | case2 size base h =>
      rw [binarySearchLoop, dif_neg h]
      obtain ⟨hpos, hlen, hin⟩ := hw
      exact ⟨Nat.one_pos, by omega, fun j hj hk => by have := hin j hj hk; omega⟩

omit [Inhabited α] in
theorem window_init (h : ¬xs.length = 0) : Window xs key t xs.length 0 :=
  ⟨by omega, by omega, fun _ hj _ => ⟨Nat.zero_le _, by omega⟩⟩

/-- On a list sorted by strictly increasing keys, `Ok` names an element with the key. -/
theorem binarySearchBy_ok (hs : xs.Pairwise (fun a b => key a < key b)) {i : Nat}
    (h : binarySearchBy xs (fun a => compare (key a) t) = .ok i) :
    ∃ hi : i < xs.length, key xs[i] = t := by
  unfold binarySearchBy at h
  split at h
  · cases h
  · next hne =>
      obtain ⟨_, hlen, _⟩ := window_loop hs (window_init hne : Window xs key t _ _)
      simp only at h
      split at h
      · next heq =>
          cases h
          have hi : binarySearchLoop xs (fun a => compare (key a) t) xs.length 0 < xs.length := by
            omega
          refine ⟨hi, ?_⟩
          rw [List.getD_eq_getElem?_getD, List.getElem?_eq_getElem hi, Option.getD_some,
            Nat.compare_eq_eq] at heq
          exact heq
      · cases h
      · cases h

/-- On a list sorted by strictly increasing keys, `Err` means no element has the key. -/
theorem binarySearchBy_error (hs : xs.Pairwise (fun a b => key a < key b)) {i : Nat}
    (h : binarySearchBy xs (fun a => compare (key a) t) = .error i) : ∀ a ∈ xs, key a ≠ t := by
  intro a ha hk
  obtain ⟨j, hj, rfl⟩ := List.getElem_of_mem ha
  unfold binarySearchBy at h
  split at h
  · omega
  · next hne =>
      obtain ⟨_, hlen, hin⟩ := window_loop hs (window_init hne : Window xs key t _ _)
      have hbase := hin j hj hk
      have hjb : j = binarySearchLoop xs (fun a => compare (key a) t) xs.length 0 := by omega
      subst hjb
      simp only at h
      rw [List.getD_eq_getElem?_getD, List.getElem?_eq_getElem hj, Option.getD_some, hk,
        show compare t t = .eq from Nat.compare_eq_eq.mpr rfl] at h
      cases h

end Search

end NtHive
