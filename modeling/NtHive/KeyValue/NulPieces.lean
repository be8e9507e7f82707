import NtHive.KeyValue.MultiSZ

namespace NtHive

open RegMultiSZStrings (makeCharIter finish finish_mk)

/-- The NUL-separated strings of a character sequence, up to but excluding the first empty
one. -/
def nulPieces (chars : List Char) : List (List Char) :=
  (chars.splitOn '\x00').takeWhile fun piece => !piece.isEmpty

theorem nul_cases (chars : List Char) :
    '\x00' ∉ chars ∨ ∃ a b, '\x00' ∉ a ∧ chars = a ++ '\x00' :: b := by
  induction chars with
  | nil => simp
  | cons c cs ih =>
      by_cases hc : c = '\x00'
      · exact .inr ⟨[], cs, by simp, by simp [hc]⟩
      · rcases ih with h | ⟨a, b, ha, rfl⟩
        · exact .inl (by simp [Ne.symm hc, h])
        · exact .inr ⟨c :: a, b, by simp [Ne.symm hc, ha], rfl⟩

theorem splitOn_nul_of_nul_free {chars : List Char} (h : '\x00' ∉ chars) :
    chars.splitOn '\x00' = [chars] :=
  List.splitOnP_eq_single _ _ fun x hx => by simpa using ne_of_mem_of_not_mem hx h

theorem splitOn_nul_append {a : List Char} (b : List Char) (h : '\x00' ∉ a) :
    (a ++ '\x00' :: b).splitOn '\x00' = a :: b.splitOn '\x00' :=
  List.splitOnP_first _ _ (fun x hx => by simpa using ne_of_mem_of_not_mem hx h) _ (by simp) _

theorem splitOn_nul_replicate (k : Nat) :
    (List.replicate k '\x00').splitOn '\x00' = List.replicate (k + 1) [] := by
  induction k with
  | zero => rfl
  | succ k ih =>
      rw [List.replicate_succ, ← List.nil_append ('\x00' :: _),
        splitOn_nul_append _ (List.not_mem_nil _), ih]
      rfl

theorem splitOn_nul_terminated {strs : List (List Char)} (hs : ∀ s ∈ strs, '\x00' ∉ s)
    (k : Nat) :
    (strs.flatMap (· ++ ['\x00']) ++ List.replicate k '\x00').splitOn '\x00' =
      strs ++ List.replicate (k + 1) [] := by
  induction strs with
  | nil => simpa using splitOn_nul_replicate k
  | cons s strs ih =>
      rw [List.flatMap_cons, List.append_assoc, List.append_assoc, List.singleton_append,
        splitOn_nul_append _ (hs s (List.mem_cons_self _ _)),
        ih fun t ht => hs t (List.mem_cons_of_mem _ ht)]
      rfl

theorem nulPieces_of_nul_free {chars : List Char} (h : '\x00' ∉ chars) :
    nulPieces chars = if chars = [] then [] else [chars] := by
  rw [nulPieces, splitOn_nul_of_nul_free h]
  cases chars <;> simp

theorem readString_nul_free {a : List Char} (h : '\x00' ∉ a) (string : String)
    (rest : List (Result Char)) :
    readString string (a.map .ok ++ rest) = readString ⟨string.data ++ a⟩ rest := by
  rw [readString_chars, pushUntilNul_eq, if_neg h, takeWhile_notNul_of_nul_free h]

/-- On a stream without errors, the `i`-th read returns the `i`-th NUL-separated piece of the
characters, `None` for an empty piece, and `None` once the pieces are out. -/
theorem readStrings_map_ok (n : Nat) (chars : List Char) :
    readStrings n (chars.map .ok) = (List.range n).map fun i =>
      ((chars.splitOn '\x00')[i]?).bind fun piece => finish ⟨piece⟩ := by
  induction n generalizing chars with
  | zero => rfl
  | succ n ih =>
      rw [readStrings, List.range_succ_eq_map, List.map_cons, List.map_map]
      rcases nul_cases chars with hn | ⟨a, b, ha, rfl⟩
      · have hr : readString "" (chars.map .ok) = (finish ⟨chars⟩, []) := by
          simpa using readString_nul_free hn "" []
        rw [hr, splitOn_nul_of_nul_free hn]
        refine congrArg _ ((ih []).trans (List.map_congr_left fun i _ => ?_))
        cases i <;> simp [List.splitOn_nil, finish_mk]
      · have hr : readString "" ((a ++ '\x00' :: b).map .ok) = (finish ⟨a⟩, b.map .ok) := by
          rw [List.map_append, readString_nul_free ha, List.map_cons, readString, if_pos rfl]
          rfl
        simp only [hr, splitOn_nul_append b ha, ih b, List.getElem?_cons_zero, Option.some_bind,
          Function.comp_def, List.getElem?_cons_succ]

theorem map_range_takeWhile_nonempty (pieces : List (List Char)) :
    (List.range ((pieces.takeWhile fun piece => !piece.isEmpty).length + 1)).map
        (fun i => pieces[i]?.bind fun piece => finish ⟨piece⟩) =
      (pieces.takeWhile fun piece => !piece.isEmpty).map (fun piece => some (.ok ⟨piece⟩)) ++
        [none] := by
  induction pieces with
  | nil => rfl
  | cons p ps ih =>
      cases p with
      | nil => simp [finish_mk, List.range_succ]
      | cons c cs =>
          rw [List.takeWhile_cons_of_pos rfl, List.length_cons, List.range_succ_eq_map,
            List.map_cons, List.map_map, List.map_cons, List.cons_append, ← ih]
          simp [finish_mk, Function.comp_def]

theorem readStrings_nulPieces (chars : List Char) :
    readStrings ((nulPieces chars).length + 1) (chars.map .ok) =
      (nulPieces chars).map (fun piece => some (.ok ⟨piece⟩)) ++ [none] := by
  rw [readStrings_map_ok]
  exact map_range_takeWhile_nonempty _

theorem readStrings_nul_terminated {strs : List (List Char)} {k : Nat}
    (hs : ∀ s ∈ strs, s ≠ [] ∧ '\x00' ∉ s) (n : Nat) :
    readStrings n ((strs.flatMap (· ++ ['\x00']) ++ List.replicate k '\x00').map .ok) =
      (List.range n).map fun i => strs[i]?.map fun s => .ok ⟨s⟩ := by
  rw [readStrings_map_ok, splitOn_nul_terminated (fun s hs' => (hs s hs').2)]
  refine List.map_congr_left fun i _ => ?_
  by_cases hi : i < strs.length
  · rw [List.getElem?_append_left hi, List.getElem?_eq_getElem hi]
    simp [finish_mk, (hs _ (List.getElem_mem hi)).1]
  · rw [List.getElem?_eq_none (by omega : strs.length ≤ i), List.getElem?_append_right (by omega),
      List.getElem?_replicate]
    split <;> rfl

theorem flatMap_sliceTokens_ok (segments : List (List UInt8)) :
    (segments.map .ok).flatMap sliceTokens = (segments.flatMap makeCharIter).map .ok := by
  induction segments with
  | nil => rfl
  | cons s segments ih =>
      rw [List.map_cons, List.flatMap_cons, ih, List.flatMap_cons, List.map_append]
      rfl

namespace KeyValue

variable {kv : KeyValue} {d : KeyValueData}

theorem multiStringData_nexts_chars {segments : List (List UInt8)}
    (ht : kv.dataType = some (.ok .regMultiSZ)) (hd : kv.data = some (.ok d))
    (hs : d.slices = segments.map .ok) :
    ∃ iter, kv.multiStringData = some (.ok iter) ∧
      ∀ n, iter.nexts n = readStrings n ((segments.flatMap makeCharIter).map .ok) := by
  obtain ⟨iter, hm, htok⟩ := multiStringData_tokens ht hd
  refine ⟨iter, hm, fun n => ?_⟩
  rw [RegMultiSZStrings.nexts_eq_readStrings, htok, hs, flatMap_sliceTokens_ok]

/-- The strings of a REG_MULTI_SZ value whose data reads as the slices `segments`: the
NUL-separated strings of the slices' characters, each slice decoded on its own, up to the first
empty string, and then `None`. -/
theorem multiStringData_nexts {segments : List (List UInt8)}
    (ht : kv.dataType = some (.ok .regMultiSZ)) (hd : kv.data = some (.ok d))
    (hs : d.slices = segments.map .ok) :
    ∃ iter, kv.multiStringData = some (.ok iter) ∧
      iter.nexts ((nulPieces (segments.flatMap makeCharIter)).length + 1) =
        (nulPieces (segments.flatMap makeCharIter)).map (fun piece => some (.ok ⟨piece⟩)) ++
          [none] := by
  obtain ⟨iter, hm, hn⟩ := multiStringData_nexts_chars ht hd hs
  exact ⟨iter, hm, (hn _).trans (readStrings_nulPieces _)⟩

/-- Where no segment boundary splits a character, in particular for Small data, the strings are
those of the whole payload decoded. -/
theorem multiStringData_nexts_of_splitsBetweenCharacters {segments : List (List UInt8)}
    (ht : kv.dataType = some (.ok .regMultiSZ)) (hd : kv.data = some (.ok d))
    (hs : d.slices = segments.map .ok) (hsplit : SplitsBetweenCharacters segments) :
    ∃ iter, kv.multiStringData = some (.ok iter) ∧
      iter.nexts ((nulPieces (makeCharIter segments.flatten)).length + 1) =
        (nulPieces (makeCharIter segments.flatten)).map (fun piece => some (.ok ⟨piece⟩)) ++
          [none] := by
  rw [← flatMap_makeCharIter hsplit]
  exact multiStringData_nexts ht hd hs

end KeyValue

def twoStringSlices : List (List UInt8) := [[0x41, 0], [0x42, 0, 0, 0, 0x43, 0, 0, 0]]

theorem multiStringData_nexts_of_splitsBetweenCharacters_on_two_slices :
    (bigDataValue 7 (twoStringSlices.map .ok)).dataType = some (.ok .regMultiSZ) ∧
      (bigDataValue 7 (twoStringSlices.map .ok)).data =
        some (.ok (.big ⟨twoStringSlices.map .ok⟩)) ∧
      KeyValueData.slices (.big ⟨twoStringSlices.map .ok⟩) = twoStringSlices.map .ok ∧
      SplitsBetweenCharacters twoStringSlices ∧
      (∃ iter, (bigDataValue 7 (twoStringSlices.map .ok)).multiStringData = some (.ok iter) ∧
        iter.nexts ((nulPieces (makeCharIter twoStringSlices.flatten)).length + 1) =
          (nulPieces (makeCharIter twoStringSlices.flatten)).map
            (fun piece => some (.ok ⟨piece⟩)) ++ [none]) ∧
      nulPieces (makeCharIter twoStringSlices.flatten) = [['A', 'B'], ['C']] :=
  have hsplit : SplitsBetweenCharacters twoStringSlices := by decide
  ⟨rfl, rfl, rfl, hsplit,
    KeyValue.multiStringData_nexts_of_splitsBetweenCharacters rfl rfl rfl hsplit, by decide⟩

namespace KeyValue

variable {kv : KeyValue} {d : KeyValueData}

/-- Every call of the iterator `multi_string_data` builds, also after a `None`: the `i`-th call
returns the `i`-th NUL-separated piece of the slices' characters, each slice decoded on its own,
`None` for an empty piece, and `None` once the pieces are out. -/
theorem multiStringData_nexts_splitOn {segments : List (List UInt8)}
    (ht : kv.dataType = some (.ok .regMultiSZ)) (hd : kv.data = some (.ok d))
    (hs : d.slices = segments.map .ok) (n : Nat) :
    ∃ iter, kv.multiStringData = some (.ok iter) ∧ iter.nexts n = (List.range n).map fun i =>
      (((segments.flatMap makeCharIter).splitOn '\x00')[i]?).bind fun piece =>
        RegMultiSZStrings.finish ⟨piece⟩ := by
  obtain ⟨iter, hm, hn⟩ := multiStringData_nexts_chars ht hd hs
  exact ⟨iter, hm, (hn n).trans (readStrings_map_ok n _)⟩

end KeyValue

theorem multiStringData_nexts_splitOn_of_inline_value :
    emptyThenAValue.dataType = some (.ok .regMultiSZ) ∧
      emptyThenAValue.data = some (.ok (.small [0, 0, 0x41, 0])) ∧
      KeyValueData.slices (.small [0, 0, 0x41, 0]) = [[0, 0, 0x41, 0]].map .ok ∧
      ∃ iter, emptyThenAValue.multiStringData = some (.ok iter) ∧
        iter.nexts 3 = (List.range 3).map fun i =>
          ((([[0, 0, 0x41, 0]].flatMap makeCharIter).splitOn '\x00')[i]?).bind fun piece =>
            RegMultiSZStrings.finish ⟨piece⟩ :=
  ⟨rfl, rfl, rfl, @KeyValue.multiStringData_nexts_splitOn emptyThenAValue
    (.small [0, 0, 0x41, 0]) [[0, 0, 0x41, 0]] rfl rfl rfl 3⟩

def inlineMultiStringHive : Hive :=
  { emptyThenAHive with data := [0x76, 0x6b, 0, 0, 4, 0, 0, 0x80, 0x41, 0, 0, 0, 7, 0, 0, 0, 0, 0, 0, 0] }

def inlineMultiStringValue : KeyValue := ⟨inlineMultiStringHive, ⟨0, 20⟩, ⟨20, 20⟩⟩

namespace KeyValue

variable {kv : KeyValue} {d : KeyValueData}

/-- A REG_MULTI_SZ value whose characters are nonempty NUL-free strings, each ended by a NUL,
then only NULs (the final double NUL): the calls of the iterator return the strings in order,
then `None` for ever. -/
theorem multiStringData_nexts_of_nul_terminated {segments : List (List UInt8)}
    (ht : kv.dataType = some (.ok .regMultiSZ)) (hd : kv.data = some (.ok d))
    (hs : d.slices = segments.map .ok) {strs : List (List Char)} {k : Nat}
    (hstrs : ∀ s ∈ strs, s ≠ [] ∧ '\x00' ∉ s)
    (hchars : segments.flatMap makeCharIter =
      strs.flatMap (· ++ ['\x00']) ++ List.replicate k '\x00') (n : Nat) :
    ∃ iter, kv.multiStringData = some (.ok iter) ∧
      iter.nexts n = (List.range n).map fun i => strs[i]?.map fun s => .ok ⟨s⟩ := by
  obtain ⟨iter, hm, hn⟩ := multiStringData_nexts_chars ht hd hs
  exact ⟨iter, hm, by rw [hn, hchars, readStrings_nul_terminated hstrs]⟩

end KeyValue

theorem multiStringData_nexts_of_nul_terminated_on_inline_value :
    inlineMultiStringValue.dataType = some (.ok .regMultiSZ) ∧
      inlineMultiStringValue.data = some (.ok (.small [0x41, 0, 0, 0])) ∧
      KeyValueData.slices (.small [0x41, 0, 0, 0]) = [[0x41, 0, 0, 0]].map .ok ∧
      (∀ s ∈ [['A']], s ≠ [] ∧ '\x00' ∉ s) ∧
      [[0x41, 0, 0, 0]].flatMap makeCharIter =
        [['A']].flatMap (· ++ ['\x00']) ++ List.replicate 0 '\x00' ∧
      ∃ iter, inlineMultiStringValue.multiStringData = some (.ok iter) ∧
        iter.nexts 3 = (List.range 3).map fun i => [['A']][i]?.map fun s => .ok ⟨s⟩ :=
  have hstrs : ∀ s ∈ [['A']], s ≠ [] ∧ '\x00' ∉ s := by decide
  have hchars : [[0x41, 0, 0, 0]].flatMap makeCharIter =
      [['A']].flatMap (· ++ ['\x00']) ++ List.replicate 0 '\x00' := by decide
  ⟨rfl, rfl, rfl, hstrs, hchars, @KeyValue.multiStringData_nexts_of_nul_terminated
    inlineMultiStringValue (.small [0x41, 0, 0, 0]) [[0x41, 0, 0, 0]] rfl rfl rfl _ _ hstrs hchars 3⟩

/-- After an empty string the iterator does not stay at `None`: on the REG_MULTI_SZ payload
`00 00 41 00` the first call returns `None`, from the NUL that ends the empty first string, and
the next call resumes the characters left in `char_iter` and returns `A`. -/
theorem next_returns_string_after_none :
    ∃ kv iter, KeyValue.new emptyThenAHive ⟨0, 20⟩ = some (.ok kv) ∧
      kv.multiStringData = some (.ok iter) ∧ iter.nexts 2 = [none, some (.ok "A")] :=
  ⟨emptyThenAValue, _, rfl, rfl, rfl⟩

/-- A REG_MULTI_SZ value whose surrogate pair is split between two Big Data segments: the one
string it returns has two replacement characters where the payload decoded as a whole holds
the one character U+10000. -/
theorem multiStringData_splits_surrogate_pair :
    ∃ kv d iter, KeyValue.new (splitPairHive 7) ⟨0, 20⟩ = some (.ok kv) ∧
      kv.dataType = some (.ok .regMultiSZ) ∧ kv.data = some (.ok d) ∧
      pairHeadSegment.length = bigDataSegmentSize ∧
      d.intoVec = .ok (pairHeadSegment ++ pairTailSegment) ∧
      kv.multiStringData = some (.ok iter) ∧
      iter.nexts 2 = [some (.ok ⟨List.replicate 8171 'A' ++
        [replacementCharacter, replacementCharacter]⟩), none] ∧
      nulPieces (makeCharIter (pairHeadSegment ++ pairTailSegment)) =
        [List.replicate 8171 'A' ++ [Char.ofNat 0x10000]] := by
  have hs : KeyValueData.slices (.big ⟨[.ok pairHeadSegment, .ok pairTailSegment]⟩) =
      [pairHeadSegment, pairTailSegment].map .ok := rfl
  obtain ⟨iter, hm, hn⟩ :=
    @KeyValue.multiStringData_nexts ⟨splitPairHive 7, ⟨0, 20⟩, ⟨20, 20⟩⟩ _ _ rfl rfl hs
  have hne : ∀ {tail : List Char}, tail ≠ [] → ¬List.replicate 8171 'A' ++ tail = [] := by
    intro tail h
    simp only [List.append_eq_nil, h, and_false, not_false_eq_true]
  rw [flatMap_makeCharIter_splitPair, nulPieces_of_nul_free (nul_not_mem_as _ (by decide)),
    if_neg (hne (List.cons_ne_nil _ _))] at hn
  refine ⟨_, _, iter, rfl, rfl, rfl, length_pairHeadSegment, intoVec_eq_ok.mpr ⟨_, hs, by simp⟩, hm, hn, ?_⟩
  rw [makeCharIter_splitPair_payload, nulPieces_of_nul_free (nul_not_mem_as _ (by decide)),
    if_neg (hne (List.cons_ne_nil _ _))]

end NtHive
