import NtHive.KeyValue

namespace NtHive

/-- `RegMultiSZStrings`: the characters left of the current slice (the decoder `char_iter`,
given by what it has left to yield) and the Big Data slices still to come. -/
structure RegMultiSZStrings where
  charIter : Option (List Char)
  bigIter : Option BigDataSlices

/-- `RegMultiSZStrings::make_char_iter`: the characters of a slice, with `U+FFFD` for each
unpaired surrogate. `utf16le_to_string_lossy` builds the same iterator inline. -/
def RegMultiSZStrings.makeCharIter (sliceData : List UInt8) : List Char :=
  decodeUtf16Lossy (leU16s sliceData)

open RegMultiSZStrings (makeCharIter)

/-- The `for c in char_iter` loops: push characters onto `string` up to the first NUL. Returns
the string, and the characters after that NUL, or `none` where the characters ran out first. -/
def pushUntilNul : List Char → String → String × Option (List Char)
  | [], string => (string, none)
  | c :: chars, string =>
    if c = '\x00' then (string, some chars) else pushUntilNul chars (string.push c)

/-- The loop of `utf16le_to_string_lossy` over the slices, with the string built so far. -/
def utf16leToStringLossyLoop : List (Result (List UInt8)) → String → Result String
  | [], string => .ok string
  | .error e :: _, _ => .error e
  | .ok sliceData :: iter, string =>
    match pushUntilNul (makeCharIter sliceData) string with
    | (string, some _) => .ok string
    | (string, none) => utf16leToStringLossyLoop iter string

/-- `KeyValue::utf16le_to_string_lossy`. Its `string.reserve` only allocates and is left out. -/
def utf16leToStringLossy (iter : List (Result (List UInt8))) : Result String :=
  utf16leToStringLossyLoop iter ""

/-- `KeyValue::string_data`. -/
def KeyValue.stringData (kv : KeyValue) : Option (Result String) := do
  match ← kv.dataType with
  | .error e => return .error e
  | .ok .regSZ | .ok .regExpandSZ =>
    match ← kv.data with
    | .error e => return .error e
    | .ok (.small data) => return utf16leToStringLossy [.ok data]
    | .ok (.big iter) => return utf16leToStringLossy iter.items
  | .ok dataType => return .error (.invalidKeyValueDataType [.regSZ, .regExpandSZ] dataType)

section Nul

/-- The test of the string readers' loops: any character but NUL. -/
def notNul (c : Char) : Bool := c != '\x00'

@[simp] theorem notNul_eq_true {c : Char} : notNul c = true ↔ c ≠ '\x00' := by simp [notNul]

@[simp] theorem notNul_eq_false {c : Char} : notNul c = false ↔ c = '\x00' := by simp [notNul]

theorem forall_notNul {xs : List Char} (h : '\x00' ∉ xs) : ∀ c ∈ xs, notNul c = true :=
  fun _ hc => notNul_eq_true.mpr (ne_of_mem_of_not_mem hc h)

theorem takeWhile_dropWhile_append_of_nul_mem {xs : List Char} (ys : List Char)
    (h : '\x00' ∈ xs) :
    (xs ++ ys).takeWhile notNul = xs.takeWhile notNul ∧
      ((xs ++ ys).dropWhile notNul).drop 1 = (xs.dropWhile notNul).drop 1 ++ ys := by
  induction xs with
  | nil => simp at h
  | cons x xs ih =>
      by_cases hx : x = '\x00'
      · simp [List.takeWhile_cons, List.dropWhile_cons, hx]
      · have h' : '\x00' ∈ xs := by simpa [Ne.symm hx] using h
        simp [List.takeWhile_cons, List.dropWhile_cons, hx, ih h']

theorem takeWhile_notNul_of_nul_free {xs : List Char} (h : '\x00' ∉ xs) :
    xs.takeWhile notNul = xs :=
  List.takeWhile_eq_self_iff.mpr (forall_notNul h)

end Nul

theorem pushUntilNul_eq (chars : List Char) (string : String) :
    pushUntilNul chars string = (⟨string.data ++ chars.takeWhile notNul⟩,
      if '\x00' ∈ chars then some ((chars.dropWhile notNul).drop 1) else none) := by
  induction chars generalizing string with
  | nil => simp [pushUntilNul]
  | cons c chars ih =>
      by_cases hc : c = '\x00'
      · subst hc
        simp [pushUntilNul]
      · simp [pushUntilNul, hc, ih, List.takeWhile_cons, List.dropWhile_cons, String.data_push,
          Ne.symm hc]

theorem utf16leToStringLossyLoop_ok (segments : List (List UInt8)) (string : String) :
    utf16leToStringLossyLoop (segments.map .ok) string =
      .ok ⟨string.data ++ (segments.flatMap makeCharIter).takeWhile notNul⟩ := by
  induction segments generalizing string with
  | nil => simp [utf16leToStringLossyLoop]
  | cons s segments ih =>
      simp only [List.map_cons, utf16leToStringLossyLoop, pushUntilNul_eq, List.flatMap_cons]
      by_cases h : '\x00' ∈ makeCharIter s
      · simp only [if_pos h, (takeWhile_dropWhile_append_of_nul_mem _ h).1]
      · simp only [if_neg h, ih, List.takeWhile_append_of_pos (forall_notNul h),
          takeWhile_notNul_of_nul_free h, List.append_assoc]

/-- The slices the string readers go through: the one slice of Small data, or the Big Data
slices. -/
def KeyValueData.slices : KeyValueData → List (Result (List UInt8))
  | .small data => [.ok data]
  | .big iter => iter.items

theorem intoVec_eq_ok {d : KeyValueData} {payload : List UInt8} :
    d.intoVec = .ok payload ↔
      ∃ segments : List (List UInt8), d.slices = segments.map .ok ∧ payload = segments.flatten := by
  cases d with
  | small data =>
      simp only [KeyValueData.intoVec, KeyValueData.slices, Except.ok.injEq]
      constructor
      · rintro rfl
        exact ⟨[data], rfl, by simp⟩
      · rintro ⟨_ | ⟨s, _ | ⟨t, rest⟩⟩, h, rfl⟩ <;> simp_all
  | big iter => simpa using extendFromSlices_eq_ok

/-- Each Big Data segment but the last ends between two characters: after a whole code unit,
and not after a leading surrogate. -/
def SplitsBetweenCharacters : List (List UInt8) → Prop
  | s :: t :: rest => s.length % 2 = 0 ∧ (∀ u ∈ (leU16s s).getLast?, isLeadSurrogate u = false) ∧
      SplitsBetweenCharacters (t :: rest)
  | _ => True

instance decidableSplitsBetweenCharacters :
    ∀ segments, Decidable (SplitsBetweenCharacters segments)
  | _ :: t :: rest =>
    haveI := decidableSplitsBetweenCharacters (t :: rest)
    inferInstanceAs (Decidable (_ ∧ _ ∧ _))
  | [] => isTrue trivial
  | [_] => isTrue trivial

theorem makeCharIter_append {xs : List UInt8} (ys : List UInt8) (h : xs.length % 2 = 0)
    (hl : ∀ u ∈ (leU16s xs).getLast?, isLeadSurrogate u = false) :
    makeCharIter (xs ++ ys) = makeCharIter xs ++ makeCharIter ys := by
  simp only [makeCharIter, decodeUtf16Lossy, leU16s_append ys h, decodeUtf16_append _ _ hl,
    List.map_append]

theorem flatMap_makeCharIter {segments : List (List UInt8)}
    (h : SplitsBetweenCharacters segments) :
    segments.flatMap makeCharIter = makeCharIter segments.flatten := by
  induction segments with
  | nil => rfl
  | cons s rest ih =>
      cases rest with
      | nil => simp
      | cons t rest =>
          obtain ⟨h1, h2, h3⟩ := h
          rw [List.flatMap_cons, ih h3, ← makeCharIter_append _ h1 h2]
          rfl

namespace KeyValue

variable {kv : KeyValue} {d : KeyValueData}

theorem stringData_eq_slices
    (ht : kv.dataType = some (.ok .regSZ) ∨ kv.dataType = some (.ok .regExpandSZ))
    (hd : kv.data = some (.ok d)) : kv.stringData = some (utf16leToStringLossy d.slices) := by
  rcases ht with ht | ht <;> cases d <;> simp [stringData, ht, hd, KeyValueData.slices]

/-- `string_data` of a string value decodes each slice of its data on its own, and stops at the
first NUL. -/
theorem stringData_eq {segments : List (List UInt8)}
    (ht : kv.dataType = some (.ok .regSZ) ∨ kv.dataType = some (.ok .regExpandSZ))
    (hd : kv.data = some (.ok d)) (hs : d.slices = segments.map .ok) :
    kv.stringData = some (.ok ⟨(segments.flatMap makeCharIter).takeWhile notNul⟩) := by
  rw [stringData_eq_slices ht hd, hs, utf16leToStringLossy, utf16leToStringLossyLoop_ok]
  rfl

/-- Where no segment boundary splits a character, in particular for Small data, `string_data`
is the whole payload decoded, up to its first NUL. -/
theorem stringData_eq_of_splitsBetweenCharacters {segments : List (List UInt8)}
    (ht : kv.dataType = some (.ok .regSZ) ∨ kv.dataType = some (.ok .regExpandSZ))
    (hd : kv.data = some (.ok d)) (hs : d.slices = segments.map .ok)
    (hsplit : SplitsBetweenCharacters segments) :
    kv.stringData = some (.ok ⟨(makeCharIter segments.flatten).takeWhile notNul⟩) := by
  rw [stringData_eq ht hd hs, flatMap_makeCharIter hsplit]

end KeyValue

/-- A hive whose bytes are one `vk` cell of type code `dataType` with 16346 data bytes, more
than one Big Data segment holds, which its Big Data reads as the slices `items`. -/
def bigDataHive (dataType : UInt8) (items : List (Result (List UInt8))) : Hive where
  data := [0x76, 0x6b, 0, 0, 0xDA, 0x3F, 0, 0, 0x20, 0, 0, 0, dataType, 0, 0, 0, 0, 0, 0, 0]
  cellRangeFromDataOffset _ := .ok ⟨20, 20⟩
  bigDataSlicesNew _ _ _ := .ok ⟨items⟩
  offsetOfDataOffset := id
  offsetOfField _ := 0

def bigDataValue (dataType : UInt8) (items : List (Result (List UInt8))) : KeyValue :=
  ⟨bigDataHive dataType items, ⟨0, 20⟩, ⟨20, 20⟩⟩

theorem stringData_eq_of_splitsBetweenCharacters_on_two_slices :
    ((bigDataValue 1 [.ok [0x41, 0], .ok [0x42, 0]]).dataType = some (.ok .regSZ) ∨
        (bigDataValue 1 [.ok [0x41, 0], .ok [0x42, 0]]).dataType = some (.ok .regExpandSZ)) ∧
      (bigDataValue 1 [.ok [0x41, 0], .ok [0x42, 0]]).data =
        some (.ok (.big ⟨[.ok [0x41, 0], .ok [0x42, 0]]⟩)) ∧
      KeyValueData.slices (.big ⟨[.ok [0x41, 0], .ok [0x42, 0]]⟩) = [[0x41, 0], [0x42, 0]].map .ok ∧
      SplitsBetweenCharacters [[0x41, 0], [0x42, 0]] ∧
      (bigDataValue 1 [.ok [0x41, 0], .ok [0x42, 0]]).stringData =
        some (.ok ⟨(makeCharIter [[0x41, 0], [0x42, 0]].flatten).takeWhile notNul⟩) ∧
      (makeCharIter [[0x41, 0], [0x42, 0]].flatten).takeWhile notNul = ['A', 'B'] :=
  have hsplit : SplitsBetweenCharacters [[0x41, 0], [0x42, 0]] := by decide
  ⟨.inl rfl, rfl, rfl, hsplit,
    KeyValue.stringData_eq_of_splitsBetweenCharacters (.inl rfl) rfl rfl hsplit, by decide⟩

namespace KeyValue

variable {kv : KeyValue}

theorem stringData_isSome (ht : kv.dataType.isSome) (hd : kv.data.isSome) :
    kv.stringData.isSome := by
  obtain ⟨t, ht⟩ := Option.isSome_iff_exists.mp ht
  obtain ⟨r, hd⟩ := Option.isSome_iff_exists.mp hd
  rcases t with e | t
  · simp [stringData, ht]
  · rcases r with e | (data | iter) <;> cases t <;> simp [stringData, ht, hd]

end KeyValue

section SplitPair

theorem decodeUtf16_replicate {u : UInt16} (h : isSurrogate u = false) (n : Nat) :
    decodeUtf16 (List.replicate n u) = List.replicate n (.ok (Char.ofNat u.toNat)) := by
  induction n with
  | zero => rfl
  | succ n ih =>
      rw [List.replicate_succ, decodeUtf16_cons_of_not_surrogate h, ih, List.replicate_succ]

def asAndThen (n : Nat) (tail : List UInt16) : List UInt8 :=
  (List.replicate n 0x41 ++ tail).flatMap u16ToLeBytes

theorem makeCharIter_asAndThen (n : Nat) (tail : List UInt16) :
    makeCharIter (asAndThen n tail) = List.replicate n 'A' ++ decodeUtf16Lossy tail := by
  have hlast : ∀ u ∈ (List.replicate n (0x41 : UInt16)).getLast?, isLeadSurrogate u = false := by
    intro u hu
    rw [List.getLast?_replicate] at hu
    split at hu
    · cases hu
    · cases hu
      decide
  rw [makeCharIter, asAndThen, leU16s_append_toLeBytes, decodeUtf16Lossy,
    decodeUtf16_append _ _ hlast, decodeUtf16_replicate (by decide), List.map_append,
    List.map_replicate]
  rfl

theorem nul_not_mem_as (n : Nat) {tail : List Char} (h : '\x00' ∉ tail) :
    '\x00' ∉ List.replicate n 'A' ++ tail := by
  simp [List.mem_replicate, h]

/-- The first Big Data segment of a failing input: 8171 times `A`, then a leading surrogate;
16344 bytes, one full segment. -/
def pairHeadSegment : List UInt8 := asAndThen 8171 [0xD800]

/-- The second segment: the trailing surrogate that completes the pair. -/
def pairTailSegment : List UInt8 := u16ToLeBytes 0xDC00

/-- A hive with one `vk` cell at the start of its bytes, of type code `dataType`, whose 16346
data bytes are Big Data split into the two segments above. -/
def splitPairHive (dataType : UInt8) : Hive :=
  bigDataHive dataType [.ok pairHeadSegment, .ok pairTailSegment]

theorem length_pairHeadSegment : pairHeadSegment.length = bigDataSegmentSize := by
  rw [pairHeadSegment, asAndThen, length_flatMap_u16ToLeBytes, List.length_append,
    List.length_replicate]
  rfl

theorem flatMap_makeCharIter_splitPair :
    [pairHeadSegment, pairTailSegment].flatMap makeCharIter =
      List.replicate 8171 'A' ++ [replacementCharacter, replacementCharacter] := by
  rw [List.flatMap_cons, List.flatMap_singleton, pairHeadSegment, makeCharIter_asAndThen,
    List.append_assoc]
  rfl

theorem makeCharIter_splitPair_payload :
    makeCharIter (pairHeadSegment ++ pairTailSegment) =
      List.replicate 8171 'A' ++ [Char.ofNat 0x10000] := by
  have : pairHeadSegment ++ pairTailSegment = asAndThen 8171 [0xD800, 0xDC00] := by
    rw [pairHeadSegment, pairTailSegment, asAndThen, asAndThen, List.flatMap_append,
      List.flatMap_append, List.append_assoc]
    rfl
  rw [this, makeCharIter_asAndThen]
  rfl

end SplitPair

/-- A REG_SZ value whose 16346 data bytes are two Big Data segments, with a surrogate pair split
between them: `string_data` decodes the two halves apart and returns two replacement
characters, where the payload decoded as a whole holds the one character U+10000. -/
theorem stringData_splits_surrogate_pair :
    ∃ kv d, KeyValue.new (splitPairHive 1) ⟨0, 20⟩ = some (.ok kv) ∧
      kv.dataType = some (.ok .regSZ) ∧ kv.data = some (.ok d) ∧
      pairHeadSegment.length = bigDataSegmentSize ∧
      d.intoVec = .ok (pairHeadSegment ++ pairTailSegment) ∧
      kv.stringData = some (.ok ⟨List.replicate 8171 'A' ++
        [replacementCharacter, replacementCharacter]⟩) ∧
      (makeCharIter (pairHeadSegment ++ pairTailSegment)).takeWhile notNul =
        List.replicate 8171 'A' ++ [Char.ofNat 0x10000] := by
  have hs : KeyValueData.slices (.big ⟨[.ok pairHeadSegment, .ok pairTailSegment]⟩) =
      [pairHeadSegment, pairTailSegment].map .ok := rfl
  refine ⟨⟨splitPairHive 1, ⟨0, 20⟩, ⟨20, 20⟩⟩, _, rfl, rfl, rfl, length_pairHeadSegment,
    intoVec_eq_ok.mpr ⟨_, hs, by simp⟩, ?_, ?_⟩
  · rw [@KeyValue.stringData_eq ⟨splitPairHive 1, ⟨0, 20⟩, ⟨20, 20⟩⟩ _ _ (.inl rfl) rfl hs,
      flatMap_makeCharIter_splitPair, takeWhile_notNul_of_nul_free (nul_not_mem_as _ (by decide))]
  · rw [makeCharIter_splitPair_payload, takeWhile_notNul_of_nul_free (nul_not_mem_as _ (by decide))]

end NtHive
