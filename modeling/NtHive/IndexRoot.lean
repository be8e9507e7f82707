import NtHive.Basic

namespace NtHive

/-- The three leaf kinds an Index Root element can point to (`InnerIterators`). -/
inductive LeafKind
  | fastLeaf
  | hashLeaf
  | indexLeaf
  deriving DecidableEq, Repr

/-- The fields of the older `Key` that `index_root.rs` reads: the hive's bytes and the offset
of the Hive Bins area, which data offsets are relative to. -/
structure Key where
  hiveData : List UInt8
  hivebinOffset : Nat

/-- An inner iterator over a Subkeys List (`IndexLeafIter`, `FastLeafIter`, `HashLeafIter`,
whose modules are not part of the source): a fused iterator over the items it has left. -/
structure LeafIter (κ : Type) where
  kind : LeafKind
  items : List (Result κ)

/-- The `next` of a leaf iterator: its first item, and `None` for ever once it is empty. -/
def LeafIter.next {κ : Type} (iter : LeafIter κ) : Option (Result κ) × LeafIter κ :=
  match iter.items with
  | [] => (none, iter)
  | item :: items => (some item, { iter with items := items })

/-- `IndexRootIter`. -/
structure IndexRootIter (κ : Type) where
  key : Key
  innerIter : Option (LeafIter κ)
  currentOffset : Nat
  endOffset : Nat

/-- The leaf kind a Subkeys List signature announces: `li`, `lf` or `lh`. -/
def leafKind (signature : List UInt8) : Option LeafKind :=
  if signature = [0x6c, 0x69] then some .indexLeaf
  else if signature = [0x6c, 0x66] then some .fastLeaf
  else if signature = [0x6c, 0x68] then some .hashLeaf
  else none

/-- The `expected` field of the error for any other signature: `b"li|lf|lh"`. -/
def leafSignatures : List UInt8 := [0x6c, 0x69, 0x7c, 0x6c, 0x66, 0x7c, 0x6c, 0x68]

variable {κ : Type} (newLeaf : Key → LeafKind → UInt32 → List (Result κ))

/-- `IndexRootIter::new`, or `none` where it panics: on a header past the blob, or on a
signature other than `ri` (its `assert!`, the precondition it documents). -/
def IndexRootIter.new (key : Key) (offset : UInt32) : Option (IndexRootIter κ) := do
  let headerStart := key.hivebinOffset + offset.toNat
  let headerEnd := headerStart + 4
  let headerSlice ← sliceFrom key.hiveData (key.hivebinOffset + offset.toNat)
  let signature ← slice headerSlice ⟨0, 2⟩
  if signature ≠ [0x72, 0x69] then none
  let countBytes ← slice headerSlice ⟨2, 4⟩
  let count := (u16FromLeBytes countBytes).toNat
  let endOffset := headerEnd + count * 4
  pure ⟨key, none, headerEnd, endOffset⟩

/-- `IndexRootIter::next`, or `none` where it panics. `newLeaf key kind offset` stands for the
items of the leaf iterator that `IndexLeafIter::new`, `FastLeafIter::new` or
`HashLeafIter::new` builds. The `while item.is_none()` loop is the recursive call after a new
inner iterator is installed. -/
def IndexRootIter.next (s : IndexRootIter κ) : Option (Option (Result κ) × IndexRootIter κ) :=
  let (item, innerIter) := match s.innerIter with
    | some iter => let (item, iter) := iter.next; (item, some iter)
    | none => (none, none)
  match item with
  | some item => some (some item, { s with innerIter := innerIter })
  | none =>
    if s.currentOffset < s.endOffset then do
      let elementSlice ← sliceFrom s.key.hiveData s.currentOffset
      let subkeysListOffset := u32FromLeBytes (← slice elementSlice ⟨0, 4⟩)
      let subkeySlice ← sliceFrom s.key.hiveData (s.key.hivebinOffset + subkeysListOffset.toNat)
      let signature ← slice subkeySlice ⟨0, 2⟩
      match leafKind signature with
      | some kind =>
        IndexRootIter.next ⟨s.key, some ⟨kind, newLeaf s.key kind subkeysListOffset⟩,
          s.currentOffset + 4, s.endOffset⟩
      | none =>
        some (some (.error (.invalidSignature signature leafSignatures
            (s.key.hivebinOffset + subkeysListOffset.toNat))),
          ⟨s.key, innerIter, s.currentOffset + 4, s.endOffset⟩)
    else some (none, { s with innerIter := innerIter })
termination_by s.endOffset - s.currentOffset

namespace IndexRootIter

/-- The results of `n` successive calls of `next`, or `none` if one of them panics. -/
def nexts : Nat → IndexRootIter κ → Option (List (Option (Result κ)))
  | 0, _ => some []
  | n + 1, s => do
    let (item, s) ← s.next newLeaf
    let items ← nexts n s
    pure (item :: items)

/-- The element stored at `offset`: the offset of a Subkeys List. -/
def elementAt (key : Key) (offset : Nat) : UInt32 :=
  u32FromLeBytes ((key.hiveData.drop offset).take 4)

/-- The two signature bytes of the Subkeys List at element `e`. -/
def signatureAt (key : Key) (e : UInt32) : List UInt8 :=
  (key.hiveData.drop (key.hivebinOffset + e.toNat)).take 2

/-- The items an element stands for: those of the leaf its signature announces, or a single
error for any other signature. -/
def elementItems (key : Key) (e : UInt32) : List (Result κ) :=
  match leafKind (signatureAt key e) with
  | some kind => newLeaf key kind e
  | none => [.error (.invalidSignature (signatureAt key e) leafSignatures
      (key.hivebinOffset + e.toNat))]

/-- The number of elements the loop still reads: one per four bytes up to `endOffset`. -/
def remaining (s : IndexRootIter κ) : Nat := (s.endOffset - s.currentOffset + 3) / 4

/-- The items the inner iterator has left. -/
def innerItems (s : IndexRootIter κ) : List (Result κ) := (s.innerIter.map (·.items)).getD []

theorem next_of_item {s : IndexRootIter κ} {iter : LeafIter κ} {x : Result κ} {xs : List (Result κ)}
    (h : s.innerIter = some iter) (hx : iter.items = x :: xs) :
    s.next newLeaf = some (some x, { s with innerIter := some { iter with items := xs } }) := by
  rw [IndexRootIter.next]
  simp [h, LeafIter.next, hx]

theorem innerIter_of_innerItems_nil {s : IndexRootIter κ} (hin : innerItems s = []) :
    s.innerIter = none ∨ ∃ iter, s.innerIter = some iter ∧ iter.items = [] := by
  unfold innerItems at hin
  cases h : s.innerIter with
  | none => exact .inl rfl
  | some iter => exact .inr ⟨iter, rfl, by simpa [h] using hin⟩

theorem innerIter_of_innerItems_cons {s : IndexRootIter κ} {x : Result κ} {xs : List (Result κ)}
    (hin : innerItems s = x :: xs) : ∃ iter, s.innerIter = some iter ∧ iter.items = x :: xs := by
  unfold innerItems at hin
  cases h : s.innerIter with
  | none => simp [h] at hin
  | some iter => exact ⟨iter, rfl, by simpa [h] using hin⟩

theorem next_of_end {s : IndexRootIter κ} (hin : innerItems s = [])
    (h : ¬ s.currentOffset < s.endOffset) : s.next newLeaf = some (none, s) := by
  rw [IndexRootIter.next]
  rcases innerIter_of_innerItems_nil hin with hi | ⟨iter, hi, hx⟩
  · simp only [hi, h, if_false]
    cases s; simp_all
  · simp only [hi, h, LeafIter.next, hx, if_false]
    cases s; simp_all

theorem next_of_element {s : IndexRootIter κ} (hin : innerItems s = [])
    (h : s.currentOffset < s.endOffset) (he : s.currentOffset + 4 ≤ s.key.hiveData.length)
    (hs : s.key.hivebinOffset + (elementAt s.key s.currentOffset).toNat + 2 ≤
      s.key.hiveData.length) :
    s.next newLeaf = match leafKind (signatureAt s.key (elementAt s.key s.currentOffset)) with
      | some kind => next newLeaf ⟨s.key, some ⟨kind, newLeaf s.key kind
          (elementAt s.key s.currentOffset)⟩, s.currentOffset + 4, s.endOffset⟩
      | none => some (some (.error (.invalidSignature
          (signatureAt s.key (elementAt s.key s.currentOffset)) leafSignatures
          (s.key.hivebinOffset + (elementAt s.key s.currentOffset).toNat))),
          ⟨s.key, s.innerIter, s.currentOffset + 4, s.endOffset⟩) := by
  obtain ⟨h1, h2⟩ := sliceFrom_bind_slice he
  obtain ⟨h3, h4⟩ := sliceFrom_bind_slice hs
  have h0 : u32FromLeBytes ((s.key.hiveData.drop s.currentOffset).take 4) =
      elementAt s.key s.currentOffset := rfl
  rw [IndexRootIter.next]
  rcases innerIter_of_innerItems_nil hin with hi | ⟨iter, hi, hx⟩
  · simp only [hi, if_pos h, h1, Option.bind_eq_bind, Option.some_bind, h2, h0, h3, h4]
    rfl
  · simp only [hi, LeafIter.next, hx, if_pos h, h1, Option.bind_eq_bind, Option.some_bind, h2, h0,
      h3, h4]
    rfl

theorem remaining_succ {s : IndexRootIter κ} (h : s.currentOffset < s.endOffset) :
    remaining s = (s.endOffset - (s.currentOffset + 4) + 3) / 4 + 1 := by
  unfold remaining; omega

theorem remaining_eq_zero {s : IndexRootIter κ} (h : ¬ s.currentOffset < s.endOffset) :
    remaining s = 0 := by
  unfold remaining; omega

theorem new_eq {key : Key} {offset : UInt32} {c0 c1 : UInt8} {rest : List UInt8}
    (h : key.hiveData.drop (key.hivebinOffset + offset.toNat) = [0x72, 0x69, c0, c1] ++ rest)
    (hle : key.hivebinOffset + offset.toNat ≤ key.hiveData.length) :
    (IndexRootIter.new key offset : Option (IndexRootIter κ)) =
      some ⟨key, none, key.hivebinOffset + offset.toNat + 4,
        key.hivebinOffset + offset.toNat + 4 + (u16FromLeBytes [c0, c1]).toNat * 4⟩ := by
  simp [IndexRootIter.new, sliceFrom, hle, h, slice, Range.len]

theorem next_of_element_oob {s : IndexRootIter κ} (hin : innerItems s = [])
    (h : s.currentOffset < s.endOffset) (he : s.key.hiveData.length < s.currentOffset + 4) :
    s.next newLeaf = none := by
  have hr := sliceFrom_bind_slice_eq_none he
  rw [IndexRootIter.next]
  rcases innerIter_of_innerItems_nil hin with hi | ⟨iter, hi, hx⟩
  · simp only [hi, if_pos h, Option.bind_eq_bind]
    rw [← Option.bind_assoc, hr, Option.none_bind]
  · simp only [hi, LeafIter.next, hx, if_pos h, Option.bind_eq_bind]
    rw [← Option.bind_assoc, hr, Option.none_bind]

theorem next_of_signature_oob {s : IndexRootIter κ} (hin : innerItems s = [])
    (h : s.currentOffset < s.endOffset) (he : s.currentOffset + 4 ≤ s.key.hiveData.length)
    (hs : s.key.hiveData.length <
      s.key.hivebinOffset + (elementAt s.key s.currentOffset).toNat + 2) :
    s.next newLeaf = none := by
  obtain ⟨h1, h2⟩ := sliceFrom_bind_slice he
  have h0 : u32FromLeBytes ((s.key.hiveData.drop s.currentOffset).take 4) =
      elementAt s.key s.currentOffset := rfl
  have h3 := sliceFrom_bind_slice_eq_none hs
  rw [IndexRootIter.next]
  rcases innerIter_of_innerItems_nil hin with hi | ⟨iter, hi, hx⟩
  · simp only [hi, if_pos h, h1, h2, h0, Option.bind_eq_bind, Option.some_bind]
    rw [← Option.bind_assoc, h3, Option.none_bind]
  · simp only [hi, LeafIter.next, hx, if_pos h, h1, h2, h0, Option.bind_eq_bind, Option.some_bind]
    rw [← Option.bind_assoc, h3, Option.none_bind]

section HeaderOfOne

variable {key : Key} {pre rest : List UInt8} (hk : key.hivebinOffset = pre.length)
include hk

theorem new_of_header_of_one (hd : key.hiveData = pre ++ ([0x72, 0x69, 0x01, 0x00] ++ rest)) :
    (IndexRootIter.new key 0 : Option (IndexRootIter κ)) =
      some ⟨key, none, key.hivebinOffset + 4, key.hivebinOffset + 8⟩ := by
  have h0 : (0 : UInt32).toNat = 0 := rfl
  have hc : (u16FromLeBytes [1, 0]).toNat = 1 := rfl
  rw [new_eq (by rw [hd, hk, h0, Nat.add_zero, List.drop_left]) (by simp [hd, hk, h0])]
  simp only [h0, hc]

/-- An Index Root of count one whose element does not fit in the hive: `new` succeeds, and the
first `next` panics reading the element. -/
theorem next_panics_of_count_past_end (hd : key.hiveData = pre ++ ([0x72, 0x69, 0x01, 0x00] ++ rest))
    (hr : rest.length < 4) :
    (IndexRootIter.new key 0).bind (IndexRootIter.next newLeaf) = none := by
  rw [new_of_header_of_one hk hd, Option.some_bind]
  exact next_of_element_oob newLeaf rfl (by dsimp only; omega) (by simp [hd, hk]; omega)

/-- An Index Root of count one whose element points past the end of the hive: `new` succeeds,
and the first `next` panics reading the Subkeys List's signature. -/
theorem next_panics_of_element_past_end
    (hd : key.hiveData = pre ++ ([0x72, 0x69, 0x01, 0x00] ++ rest)) (hes : rest.length = 4)
    (hs : 6 < (u32FromLeBytes rest).toNat) :
    (IndexRootIter.new key 0).bind (IndexRootIter.next newLeaf) = none := by
  have he : elementAt key (key.hivebinOffset + 4) = u32FromLeBytes rest := by
    rw [elementAt, hd, hk, List.drop_append]
    exact congrArg u32FromLeBytes (List.take_of_length_le hes.le)
  have hl : key.hiveData.length = pre.length + 8 := by simp [hd, hes]
  rw [new_of_header_of_one hk hd, Option.some_bind]
  exact next_of_signature_oob newLeaf rfl (by dsimp only; omega) (by dsimp only; omega)
    (by rw [he, hk, hl]; omega)

end HeaderOfOne

/-- A hive whose Index Root, at the start of the Hive Bins area, counts one element that
lies past the end of the hive. -/
def countPastBlobKey : Key := ⟨List.replicate 4096 0 ++ [0x72, 0x69, 0x01, 0x00], 4096⟩

theorem next_panics_on_count_past_blob :
    (IndexRootIter.new countPastBlobKey 0 : Option (IndexRootIter κ)) =
        some ⟨countPastBlobKey, none, 4100, 4104⟩ ∧
      (IndexRootIter.new countPastBlobKey 0).bind (IndexRootIter.next newLeaf) = none :=
  ⟨new_of_header_of_one (List.length_replicate 4096 0).symm rfl,
    next_panics_of_count_past_end newLeaf (List.length_replicate 4096 0).symm rfl (by decide)⟩

/-- A hive whose Index Root lists one element pointing past the end of the hive. -/
def elementPastBlobKey : Key :=
  ⟨List.replicate 4096 0 ++ [0x72, 0x69, 0x01, 0x00, 0xff, 0xff, 0xff, 0xff], 4096⟩

theorem next_panics_on_subkeys_list_past_blob :
    (IndexRootIter.new elementPastBlobKey 0 : Option (IndexRootIter κ)) =
        some ⟨elementPastBlobKey, none, 4100, 4104⟩ ∧
      (IndexRootIter.new elementPastBlobKey 0).bind (IndexRootIter.next newLeaf) = none :=
  ⟨new_of_header_of_one (List.length_replicate 4096 0).symm rfl,
    next_panics_of_element_past_end newLeaf (List.length_replicate 4096 0).symm rfl rfl
      (by decide)⟩

end IndexRootIter

end NtHive
