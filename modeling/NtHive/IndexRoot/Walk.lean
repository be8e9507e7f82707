import NtHive.IndexRoot

namespace NtHive

namespace IndexRootIter

variable {κ : Type} (newLeaf : Key → LeafKind → UInt32 → List (Result κ))

/-- What the walk of `n` elements from `offset` yields, in order: the items of each element, up
to the first element whose reads leave the blob (the element, or the signature of the Subkeys
List it points to), which is a panic (`none`) and ends the walk. -/
def walk (key : Key) : Nat → Nat → List (Option (Result κ))
  | _, 0 => []
  | offset, n + 1 =>
    if offset + 4 ≤ key.hiveData.length ∧
        key.hivebinOffset + (elementAt key offset).toNat + 2 ≤ key.hiveData.length then
      (elementItems newLeaf key (elementAt key offset)).map some ++ walk key (offset + 4) n
    else [none]

/-- What a state has still to yield: the inner iterator's items, then the walk of the elements
left. -/
def tokens (s : IndexRootIter κ) : List (Option (Result κ)) :=
  (innerItems s).map some ++ walk newLeaf s.key s.currentOffset (remaining s)

/-- One call on what is left to yield: the first item, `None` at the end, a panic at a panic. -/
def tokenNext : List (Option (Result κ)) → Option (Option (Result κ) × List (Option (Result κ)))
  | [] => some (none, [])
  | none :: _ => none
  | some x :: rest => some (some x, rest)

/-- `n` successive calls on what is left to yield, or `none` if one of them panics. -/
def tokenNexts : Nat → List (Option (Result κ)) → Option (List (Option (Result κ)))
  | 0, _ => some []
  | n + 1, ts => do
    let (item, ts) ← tokenNext ts
    let items ← tokenNexts n ts
    pure (item :: items)

theorem tokens_of_element {s : IndexRootIter κ} (hin : innerItems s = [])
    (h : s.currentOffset < s.endOffset) :
    tokens newLeaf s = walk newLeaf s.key s.currentOffset
      ((s.endOffset - (s.currentOffset + 4) + 3) / 4 + 1) := by
  rw [tokens, hin, List.map_nil, List.nil_append, remaining_succ h]

/-- One call of `next` is one call on what the state has left to yield, whatever the hive
holds: the first item, `None` at the end, and a panic where the walk's next read leaves the
blob. -/
theorem next_simulates (s : IndexRootIter κ) :
    (s.next newLeaf).map (fun r => (r.1, tokens newLeaf r.2)) = tokenNext (tokens newLeaf s) := by
  induction' hm : s.endOffset - s.currentOffset using Nat.strong_induction_on with m ih generalizing s
  cases hin : innerItems s with
  | cons x xs =>
      obtain ⟨iter, hi, hx⟩ := innerIter_of_innerItems_cons hin
      rw [next_of_item newLeaf hi hx, tokens, hin]
      rfl
  | nil =>
      by_cases h : s.currentOffset < s.endOffset
      · rw [tokens_of_element newLeaf hin h, walk]
        by_cases he : s.currentOffset + 4 ≤ s.key.hiveData.length
        · by_cases hs : s.key.hivebinOffset + (elementAt s.key s.currentOffset).toNat + 2 ≤
              s.key.hiveData.length
          · rw [if_pos ⟨he, hs⟩, next_of_element newLeaf hin h he hs, elementItems]
            cases hk : leafKind (signatureAt s.key (elementAt s.key s.currentOffset)) with
            | some kind => exact ih _ (by dsimp only; omega) _ rfl
            | none =>
                have hin' : innerItems (⟨s.key, s.innerIter, s.currentOffset + 4, s.endOffset⟩ :
                    IndexRootIter κ) = [] := hin
                simp only [Option.map_some', tokens, hin', remaining, List.map_nil, List.nil_append,
                  List.map_cons, List.map_nil, List.singleton_append]
                rfl
          · rw [if_neg (fun h' => hs h'.2),
              next_of_signature_oob newLeaf hin h he (Nat.lt_of_not_le hs)]
            rfl
        · rw [if_neg (fun h' => he h'.1), next_of_element_oob newLeaf hin h (Nat.lt_of_not_le he)]
          rfl
      · have ht : tokens newLeaf s = [] := by rw [tokens, hin, remaining_eq_zero h]; rfl
        simp only [next_of_end newLeaf hin h, Option.map_some', ht]
        rfl

/-- Over any number of calls, the iterator yields what it has left, one item a call. -/
theorem nexts_eq_tokenNexts (n : Nat) (s : IndexRootIter κ) :
    nexts newLeaf n s = tokenNexts n (tokens newLeaf s) := by
  induction n generalizing s with
  | zero => rfl
  | succ n ih =>
      have hs := next_simulates newLeaf s
      rw [nexts, tokenNexts, ← hs]
      cases s.next newLeaf with
      | none => rfl
      | some r => simp only [Option.map_some', Option.bind_eq_bind, Option.some_bind, ih]

theorem tokenNexts_eq (n : Nat) (ts : List (Option (Result κ))) :
    tokenNexts n ts = ((ts.take n).mapM id).map fun items =>
      items.map some ++ List.replicate (n - items.length) none := by
  induction n generalizing ts with
  | zero => rfl
  | succ n ih =>
      rcases ts with _ | ⟨_ | x, ts⟩
      · simp only [tokenNexts, tokenNext, Option.bind_eq_bind, Option.some_bind, ih, List.take_nil,
          List.mapM_nil, Option.pure_def, Option.map_some']
        rfl
      · rfl
      · simp only [tokenNexts, tokenNext, Option.bind_eq_bind, Option.some_bind, ih,
          List.take_succ_cons, List.mapM_cons, id]
        cases (ts.take n).mapM id <;> simp

theorem new_eq_ite (key : Key) (offset : UInt32) :
    (IndexRootIter.new key offset : Option (IndexRootIter κ)) =
      if key.hivebinOffset + offset.toNat + 4 ≤ key.hiveData.length ∧
          (key.hiveData.drop (key.hivebinOffset + offset.toNat)).take 2 = [0x72, 0x69] then
        some ⟨key, none, key.hivebinOffset + offset.toNat + 4, key.hivebinOffset + offset.toNat + 4 +
          (u16FromLeBytes ((key.hiveData.drop (key.hivebinOffset + offset.toNat + 2)).take 2)).toNat * 4⟩
      else none := by
  simp only [IndexRootIter.new, sliceFrom, slice, Range.len]
  by_cases hp : key.hivebinOffset + offset.toNat + 4 ≤ key.hiveData.length
  · have h2 : 2 ≤ key.hiveData.length - (key.hivebinOffset + offset.toNat) := by omega
    have h4 : 4 ≤ key.hiveData.length - (key.hivebinOffset + offset.toNat) := by omega
    simp [show key.hivebinOffset + offset.toNat ≤ key.hiveData.length by omega, h2, h4, hp,
      List.drop_drop]
  · simp only [hp, false_and, if_false]
    by_cases hp0 : key.hivebinOffset + offset.toNat ≤ key.hiveData.length
    · have h4 : ¬(2 ≤ 4 ∧ 4 ≤ (key.hiveData.drop (key.hivebinOffset + offset.toNat)).length) := by
        rw [List.length_drop]
        omega
      simp only [if_pos hp0, Option.bind_eq_bind, Option.some_bind, h4, if_false, Option.none_bind,
        Option.bind_none, ite_self]
    · rw [if_neg hp0]
      rfl

/-- The whole behaviour of an Index Root, for every hive, offset and number of calls. `new`
panics unless the four header bytes lie in the blob and start with `ri`. Then the calls of
`next` return the items of the `count` elements' leaves in order (a single `InvalidSignature`
error for an element whose Subkeys List has another signature), then `None`. A call panics
exactly when it reaches the first element whose reads leave the blob: the element itself, or
the signature of the Subkeys List it points to. -/
theorem nexts_new_eq_walk (key : Key) (offset : UInt32) (n : Nat) :
    (IndexRootIter.new key offset).bind (nexts newLeaf n) =
      if key.hivebinOffset + offset.toNat + 4 ≤ key.hiveData.length ∧
          (key.hiveData.drop (key.hivebinOffset + offset.toNat)).take 2 = [0x72, 0x69] then
        (((walk newLeaf key (key.hivebinOffset + offset.toNat + 4) (u16FromLeBytes
          ((key.hiveData.drop (key.hivebinOffset + offset.toNat + 2)).take 2)).toNat).take n).mapM
            id).map fun items => items.map some ++ List.replicate (n - items.length) none
      else none := by
  rw [new_eq_ite]
  split_ifs
  · have hr : ∀ a c : Nat, (a + c * 4 - a + 3) / 4 = c := fun a c => by omega
    rw [Option.some_bind, nexts_eq_tokenNexts, tokenNexts_eq]
    simp only [tokens, innerItems, remaining, hr, Option.map_none', Option.getD_none, List.map_nil,
      List.nil_append]
  · rfl

/-- The `n` elements from `offset` on. -/
def elements (key : Key) (offset : Nat) : Nat → List UInt32
  | 0 => []
  | n + 1 => elementAt key offset :: elements key (offset + 4) n

/-- Every read the walk makes of the `n` elements from `offset` is in bounds: the element
itself, and the signature of the Subkeys List it points to. -/
def ReadsInBounds (key : Key) : Nat → Nat → Prop
  | _, 0 => True
  | offset, n + 1 => offset + 4 ≤ key.hiveData.length ∧
      key.hivebinOffset + (elementAt key offset).toNat + 2 ≤ key.hiveData.length ∧
      ReadsInBounds key (offset + 4) n

instance decidableReadsInBounds (key : Key) : ∀ offset n, Decidable (ReadsInBounds key offset n)
  | _, 0 => isTrue trivial
  | offset, n + 1 =>
    haveI := decidableReadsInBounds key (offset + 4) n
    inferInstanceAs (Decidable (_ ∧ _ ∧ _))

theorem walk_of_readsInBounds {key : Key} {offset n : Nat} (hb : ReadsInBounds key offset n) :
    walk newLeaf key offset n =
      ((elements key offset n).flatMap (elementItems newLeaf key)).map some := by
  induction n generalizing offset with
  | zero => rfl
  | succ n ih =>
      obtain ⟨he, hs, hb⟩ := hb
      rw [walk, if_pos ⟨he, hs⟩, ih hb, elements, List.flatMap_cons, List.map_append]

theorem tokenNexts_map_some (n : Nat) (items : List (Result κ)) :
    tokenNexts n (items.map some) = some ((List.range n).map fun i => items[i]?) := by
  induction n generalizing items with
  | zero => rfl
  | succ n ih =>
      rw [List.range_succ_eq_map, List.map_cons, List.map_map]
      cases items with
      | nil =>
          have h0 : tokenNexts n ([] : List (Option (Result κ))) = some (List.replicate n none) := by
            simpa using ih []
          simp [tokenNexts, tokenNext, h0, Function.comp_def]
      | cons x xs =>
          simp [tokenNexts, tokenNext, ih xs, Function.comp_def]

/-- The stream of an Index Root: on an Index Root header at `offset` with count `c` and
elements whose reads are in bounds, the `i`-th call of `next` returns the `i`-th item of the
concatenation over the `c` elements, in order, of the items of the leaf the element points to
(or a single `InvalidSignature` error), and `None` after the last. -/
theorem nexts_new {key : Key} {offset : UInt32} {c0 c1 : UInt8} {rest : List UInt8}
    (h : key.hiveData.drop (key.hivebinOffset + offset.toNat) = [0x72, 0x69, c0, c1] ++ rest)
    (hle : key.hivebinOffset + offset.toNat ≤ key.hiveData.length)
    (hb : ReadsInBounds key (key.hivebinOffset + offset.toNat + 4) (u16FromLeBytes [c0, c1]).toNat)
    (n : Nat) :
    ((IndexRootIter.new key offset).bind (nexts newLeaf n)) = some ((List.range n).map fun i =>
      ((elements key (key.hivebinOffset + offset.toNat + 4) (u16FromLeBytes [c0, c1]).toNat).flatMap
        (elementItems newLeaf key))[i]?) := by
  have hr : (key.hivebinOffset + offset.toNat + 4 + (u16FromLeBytes [c0, c1]).toNat * 4 -
      (key.hivebinOffset + offset.toNat + 4) + 3) / 4 = (u16FromLeBytes [c0, c1]).toNat := by omega
  rw [new_eq h hle, Option.some_bind, nexts_eq_tokenNexts]
  simp only [tokens, innerItems, remaining, hr, Option.map_none', Option.getD_none, List.map_nil,
    List.nil_append, walk_of_readsInBounds newLeaf hb, tokenNexts_map_some]

def threeElementKey : Key :=
  ⟨[0x72, 0x69, 0x03, 0x00, 0x10, 0, 0, 0, 0x12, 0, 0, 0, 0x14, 0, 0, 0,
    0x6c, 0x69, 0x6c, 0x66, 0x6e, 0x6b], 0⟩

def twoItemIndexLeaf : Key → LeafKind → UInt32 → List (Result UInt32)
  | _, .indexLeaf, e => [.ok e, .ok (e + 1)]
  | _, _, _ => []

theorem nexts_new_on_three_elements :
    threeElementKey.hiveData.drop (threeElementKey.hivebinOffset + (0 : UInt32).toNat) =
        [0x72, 0x69, 0x03, 0x00] ++ threeElementKey.hiveData.drop 4 ∧
      threeElementKey.hivebinOffset + (0 : UInt32).toNat ≤ threeElementKey.hiveData.length ∧
      ReadsInBounds threeElementKey (threeElementKey.hivebinOffset + (0 : UInt32).toNat + 4)
        (u16FromLeBytes [0x03, 0x00]).toNat ∧
      (IndexRootIter.new threeElementKey 0).bind (nexts twoItemIndexLeaf 5) =
        some ((List.range 5).map fun i =>
          ((elements threeElementKey (threeElementKey.hivebinOffset + (0 : UInt32).toNat + 4)
            (u16FromLeBytes [0x03, 0x00]).toNat).flatMap
              (elementItems twoItemIndexLeaf threeElementKey))[i]?) ∧
      (IndexRootIter.new threeElementKey 0).bind (nexts twoItemIndexLeaf 5) =
        some [some (.ok 0x10), some (.ok 0x11),
          some (.error (.invalidSignature [0x6e, 0x6b] leafSignatures 0x14)), none, none] :=
  have hb : ReadsInBounds threeElementKey (threeElementKey.hivebinOffset + (0 : UInt32).toNat + 4)
      (u16FromLeBytes [0x03, 0x00]).toNat := by decide
  have hn := @nexts_new _ twoItemIndexLeaf threeElementKey 0 0x03 0x00
    (threeElementKey.hiveData.drop 4) rfl (by decide) hb 5
  ⟨rfl, by decide, hb, hn, hn.trans rfl⟩

end IndexRootIter

end NtHive
