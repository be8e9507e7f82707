import NtHive.NameString.Compare

namespace NtHive

/-- `byte_subrange`, modelled from the spec since `helpers.rs` is not part of the source: the
leading `length` bytes of `range`, if it holds that many. -/
def byteSubrange (range : Range) (length : Nat) : Option Range :=
  if range.start + length ≤ range.end then some ⟨range.start, range.start + length⟩ else none

theorem byteSubrange_eq_some {range r : Range} {length : Nat} :
    byteSubrange range length = some r ↔
      range.start + length ≤ range.end ∧ r = ⟨range.start, range.start + length⟩ := by
  unfold byteSubrange
  split <;> simp_all [eq_comm]

theorem byteSubrange_eq_none {range : Range} {length : Nat} :
    byteSubrange range length = none ↔ range.end < range.start + length := by
  unfold byteSubrange
  split <;> simp_all

/-- `BIG_DATA_SEGMENT_SIZE`, modelled from the spec (`big_data.rs` is not part of the source):
the payload bytes of one Big Data segment. -/
def bigDataSegmentSize : Nat := 16344

/-- `BigDataSlices` (`big_data.rs` is not part of the source), given by the items it has left
to yield: the payload slice of each Big Data segment, or an error. -/
structure BigDataSlices where
  items : List (Result (List UInt8))

/-- What `offset_of_field` is handed: a field of the hive at a position of its bytes, or a
local variable of the caller (`&data` in `dword_data` and `qword_data`, where `data` is the
slice reference itself). -/
inductive FieldAddress
  | blob (position : Nat)
  | stackLocal

/-- The parts of `Hive` that `key_value.rs` uses (`hive.rs` and `big_data.rs` are not part of
the source): the bytes of the Hive Bins, and the helpers, as functions of the hive. -/
structure Hive where
  data : List UInt8
  /-- `cell_range_from_data_offset`. -/
  cellRangeFromDataOffset : UInt32 → Result Range
  /-- `BigDataSlices::new`, given `data_size`, the file offset of that field, and the cell. -/
  bigDataSlicesNew : UInt32 → Nat → Range → Result BigDataSlices
  /-- `offset_of_data_offset`: the file offset of a position of the Hive Bins, for errors. -/
  offsetOfDataOffset : Nat → Nat
  /-- `offset_of_field`: the file offset of a field, for errors. -/
  offsetOfField : FieldAddress → Nat

/-- The contract of `cell_range_from_data_offset`: a range it returns lies inside the blob. -/
def Hive.CellRangesInBlob (hive : Hive) : Prop :=
  ∀ dataOffset r, hive.cellRangeFromDataOffset dataOffset = .ok r →
    r.start ≤ r.end ∧ r.end ≤ hive.data.length

/-- `KeyValueData`: the bytes of a single cell, or the Big Data slices. -/
inductive KeyValueData
  | small (data : List UInt8)
  | big (iter : BigDataSlices)

/-- The loop of `into_vec` over the Big Data slices: append each one to `data`, and return the
first error. -/
def extendFromSlices : List (Result (List UInt8)) → List UInt8 → Result (List UInt8)
  | [], data => .ok data
  | .error e :: _, _ => .error e
  | .ok sliceData :: iter, data => extendFromSlices iter (data ++ sliceData)

/-- `KeyValueData::into_vec`. -/
def KeyValueData.intoVec : KeyValueData → Result (List UInt8)
  | .small data => .ok data
  | .big iter => extendFromSlices iter.items []

theorem extendFromSlices_eq_ok {items : List (Result (List UInt8))} {data v : List UInt8} :
    extendFromSlices items data = .ok v ↔
      ∃ segments : List (List UInt8), items = segments.map .ok ∧ v = data ++ segments.flatten := by
  induction items generalizing data with
  | nil => simp [extendFromSlices, eq_comm]
  | cons item items ih =>
      cases item with
      | error e =>
          simp only [extendFromSlices, reduceCtorEq, false_iff, not_exists, not_and]
          rintro (_ | ⟨s, segments⟩) h <;> simp at h
      | ok sliceData =>
          rw [extendFromSlices, ih]
          constructor
          · rintro ⟨segments, rfl, rfl⟩
            exact ⟨sliceData :: segments, rfl, by simp⟩
          · rintro ⟨_ | ⟨s, segments⟩, h, rfl⟩
            · cases h
            · simp only [List.map_cons, List.cons.injEq, Except.ok.injEq] at h
              obtain ⟨rfl, rfl⟩ := h
              exact ⟨segments, rfl, by simp⟩

/-- `mem::size_of::<KeyValueHeader>()`. -/
def keyValueHeaderSize : Nat := 20

/-- The fields of `KeyValueHeader` that are read. In its 20 packed little-endian bytes,
`signature` is at 0, `name_length` at 2, `data_size` at 4, `data_offset` at 8, `data_type` at 12
and `flags` at 16; `spare`, at 18, is never read. -/
structure KeyValueHeader where
  signature : List UInt8
  nameLength : UInt16
  dataSize : UInt32
  dataOffset : UInt32
  dataType : UInt32
  flags : UInt16

/-- `Ref::from_bytes` for `KeyValueHeader`, which is `Unaligned`: a view of exactly
`keyValueHeaderSize` bytes. The `unwrap` in `header` panics on `none`. -/
def KeyValueHeader.fromBytes (bytes : List UInt8) : Option KeyValueHeader :=
  if bytes.length = keyValueHeaderSize then
    some ⟨bytes.take 2, u16FromLeBytes ((bytes.drop 2).take 2),
      u32FromLeBytes ((bytes.drop 4).take 4), u32FromLeBytes ((bytes.drop 8).take 4),
      u32FromLeBytes ((bytes.drop 12).take 4), u16FromLeBytes ((bytes.drop 16).take 2)⟩
  else none

/-- `DATA_STORED_IN_DATA_OFFSET`: the bit of `data_size` saying that the data is small enough
to be stored in `data_offset`. -/
def dataStoredInDataOffset : UInt32 := 0x80000000

/-- `KeyValueFlags::VALUE_COMP_NAME`: the name is in (extended) ASCII instead of UTF-16LE. -/
def valueCompName : UInt16 := 0x0001

theorem and_dataStoredInDataOffset_pos_iff (x : UInt32) :
    x &&& dataStoredInDataOffset > 0 ↔ 0x80000000 ≤ x.toNat := by
  have hx : x.toNat < 2 ^ 32 := x.toNat_lt_size
  show 0 < x.toNat &&& 2 ^ 31 ↔ _
  constructor
  · intro h
    obtain ⟨i, hi⟩ := Nat.ne_zero_implies_bit_true (Nat.pos_iff_ne_zero.mp h)
    rw [Nat.testBit_and, Nat.testBit_two_pow, Bool.and_eq_true, decide_eq_true_eq] at hi
    obtain ⟨hb, rfl⟩ := hi
    rw [Nat.testBit_to_div_mod, decide_eq_true_eq] at hb
    omega
  · intro h
    have hb : x.toNat.testBit 31 = true := by
      rw [Nat.testBit_to_div_mod, decide_eq_true_eq]
      omega
    apply Nat.pos_of_ne_zero
    intro h0
    have := Nat.testBit_and x.toNat (2 ^ 31) 31
    rw [h0, Nat.zero_testBit, hb, Nat.testBit_two_pow_self] at this
    exact absurd this (by decide)

theorem toNat_and_not_dataStoredInDataOffset (x : UInt32) :
    (x &&& ~~~dataStoredInDataOffset).toNat = x.toNat % 0x80000000 := by
  have : ~~~dataStoredInDataOffset = 0x7FFFFFFF := by decide
  rw [this]
  show x.toNat &&& 2 ^ 31 - 1 = _
  rw [Nat.and_pow_two_sub_one_eq_mod]

theorem and_valueCompName_eq_iff (x : UInt16) :
    x &&& valueCompName &&& valueCompName = valueCompName ↔ x.toNat % 2 = 1 := by
  have h : (x &&& valueCompName &&& valueCompName).toNat = x.toNat % 2 := by
    simp only [UInt16.and_toNat, valueCompName]
    show x.toNat &&& 1 &&& 1 = _
    rw [Nat.and_one_is_mod, Nat.and_one_is_mod, Nat.mod_mod]
  exact ⟨fun he => by rw [he] at h; exact h.symm, fun hx => UInt16.toNat.inj (by rw [h, hx]; rfl)⟩

/-- `KeyValue`: a view of a `vk` cell of the hive. -/
structure KeyValue where
  hive : Hive
  headerRange : Range
  dataRange : Range

namespace KeyValue

/-- `KeyValue::header`, or `none` where it panics. -/
def header (kv : KeyValue) : Option KeyValueHeader :=
  (slice kv.hive.data kv.headerRange).bind KeyValueHeader.fromBytes

/-- `KeyValue::validate_signature`. -/
def validateSignature (kv : KeyValue) : Option (Result Unit) := do
  let header ← kv.header
  let signature := header.signature
  let expectedSignature : List UInt8 := [0x76, 0x6b]
  if signature = expectedSignature then return .ok ()
  else return .error (.invalidTwoByteSignature (kv.hive.offsetOfField (.blob kv.headerRange.start))
    expectedSignature signature)

/-- `KeyValue::new`. -/
def new (hive : Hive) (cellRange : Range) : Option (Result KeyValue) := do
  match byteSubrange cellRange keyValueHeaderSize with
  | none => return .error (.invalidHeaderSize (hive.offsetOfDataOffset cellRange.start)
      keyValueHeaderSize cellRange.len)
  | some headerRange =>
    let dataRange : Range := ⟨headerRange.end, cellRange.end⟩
    let keyValue : KeyValue := ⟨hive, headerRange, dataRange⟩
    match ← keyValue.validateSignature with
    | .error e => return .error e
    | .ok () => return .ok keyValue

/-- `KeyValue::data`. The error offsets name the `data_size` field, at 4 in the header. -/
def data (kv : KeyValue) : Option (Result KeyValueData) := do
  let header ← kv.header
  let dataSize := header.dataSize
  let storedInDataOffset := dataSize &&& dataStoredInDataOffset > 0
  let dataSize := (dataSize &&& ~~~dataStoredInDataOffset).toNat
  if storedInDataOffset then
    if dataSize > 4 then
      return .error (.invalidSizeField (kv.hive.offsetOfField (.blob (kv.headerRange.start + 4)))
        4 dataSize)
    let dataStart := kv.headerRange.start + 8
    let dataEnd := dataStart + dataSize
    return .ok (.small (← slice kv.hive.data ⟨dataStart, dataEnd⟩))
  else if dataSize ≤ bigDataSegmentSize then
    match kv.hive.cellRangeFromDataOffset header.dataOffset with
    | .error e => return .error e
    | .ok cellRange =>
      if cellRange.len < dataSize then
        return .error (.invalidDataSize (kv.hive.offsetOfDataOffset cellRange.start) dataSize
          cellRange.len)
      let dataStart := cellRange.start
      let dataEnd := dataStart + dataSize
      return .ok (.small (← slice kv.hive.data ⟨dataStart, dataEnd⟩))
  else
    return do
      let cellRange ← kv.hive.cellRangeFromDataOffset header.dataOffset
      let iter ← kv.hive.bigDataSlicesNew (UInt32.ofNat dataSize)
        (kv.hive.offsetOfField (.blob (kv.headerRange.start + 4))) cellRange
      pure (.big iter)

/-- `KeyValue::data_size`. -/
def dataSize (kv : KeyValue) : Option UInt32 :=
  kv.header.map fun header => header.dataSize &&& ~~~dataStoredInDataOffset

/-- `KeyValue::data_type`. The error offset names the `data_type` field, at 12. -/
def dataType (kv : KeyValue) : Option (Result KeyValueDataType) :=
  kv.header.map fun header =>
    match KeyValueDataType.n header.dataType with
    | some dataType => .ok dataType
    | none => .error (.unsupportedKeyValueDataType
        (kv.hive.offsetOfField (.blob (kv.headerRange.start + 12))) header.dataType)

/-- `KeyValue::name`. The error offset names the `name_length` field, at 2. -/
def name (kv : KeyValue) : Option (Result NtHiveNameString) := do
  let header ← kv.header
  let flags := header.flags &&& valueCompName
  let nameLength := header.nameLength.toNat
  match byteSubrange kv.dataRange nameLength with
  | none => return .error (.invalidSizeField
      (kv.hive.offsetOfField (.blob (kv.headerRange.start + 2))) nameLength kv.dataRange.len)
  | some nameRange =>
    let nameBytes ← slice kv.hive.data nameRange
    if flags &&& valueCompName = valueCompName then return .ok (.latin1 nameBytes)
    else return .ok (.utf16LE nameBytes)

/-- The body that `dword_data` and `qword_data` share: Small data of exactly `size` bytes, of a
type for which `decode` has a decoder, or `InvalidKeyValueDataType` with `expected`. -/
def integerData {α : Type} (kv : KeyValue) (size : Nat) (expected : List KeyValueDataType)
    (decode : KeyValueDataType → Option (List UInt8 → α)) : Option (Result α) := do
  match ← kv.data with
  | .error e => return .error e
  | .ok (.small data) =>
    if data.length ≠ size then
      return .error (.invalidDataSize (kv.hive.offsetOfField .stackLocal) size data.length)
    match ← kv.dataType with
    | .error e => return .error e
    | .ok dataType =>
      match decode dataType with
      | some fromBytes => return .ok (fromBytes (← tryInto size data))
      | none => return .error (.invalidKeyValueDataType expected dataType)
  | .ok (.big _) =>
    let header ← kv.header
    let dataSize ← kv.dataSize
    return .error (.invalidDataSize (kv.hive.offsetOfDataOffset header.dataOffset.toNat) size
      dataSize.toNat)

/-- `KeyValue::dword_data`. -/
def dwordData (kv : KeyValue) : Option (Result UInt32) :=
  kv.integerData 4 [.regDWord, .regDWordBigEndian] fun
    | .regDWord => some u32FromLeBytes
    | .regDWordBigEndian => some u32FromBeBytes
    | _ => none

/-- `KeyValue::qword_data`. -/
def qwordData (kv : KeyValue) : Option (Result UInt64) :=
  kv.integerData 8 [.regQWord] fun
    | .regQWord => some u64FromLeBytes
    | _ => none

theorem header_isSome_iff {kv : KeyValue} :
    kv.header.isSome ↔ kv.headerRange.start + keyValueHeaderSize = kv.headerRange.end ∧
      kv.headerRange.end ≤ kv.hive.data.length := by
  unfold header slice
  split
  · simp only [Option.some_bind, KeyValueHeader.fromBytes, List.length_take, List.length_drop,
      Range.len, keyValueHeaderSize]
    split <;> simp <;> omega
  · simp only [Option.none_bind, Option.isSome_none, Bool.false_eq_true, false_iff]
    omega

theorem header_of_validateSignature {kv : KeyValue} {r : Result Unit}
    (h : kv.validateSignature = some r) : kv.header.isSome := by
  unfold validateSignature at h
  cases hh : kv.header <;> simp_all

theorem header_of_data {kv : KeyValue} {r : Result KeyValueData} (h : kv.data = some r) :
    ∃ header, kv.header = some header := by
  unfold data at h
  cases hh : kv.header with
  | none => simp [hh] at h
  | some header => exact ⟨header, rfl⟩

theorem signature_of_header {kv : KeyValue} {header : KeyValueHeader}
    (hh : kv.header = some header) :
    header.signature = (kv.hive.data.drop kv.headerRange.start).take 2 := by
  unfold KeyValue.header slice at hh
  split at hh
  · simp only [Option.some_bind, KeyValueHeader.fromBytes] at hh
    split at hh
    · next hl =>
        cases hh
        simp only [List.length_take, List.length_drop, keyValueHeaderSize] at hl
        rw [List.take_take, Nat.min_eq_left (by omega)]
    · cases hh
  · cases hh

theorem validateSignature_eq {kv : KeyValue} {header : KeyValueHeader}
    (hh : kv.header = some header) :
    kv.validateSignature = some (if header.signature = [0x76, 0x6b] then .ok () else
      .error (.invalidTwoByteSignature (kv.hive.offsetOfField (.blob kv.headerRange.start))
        [0x76, 0x6b] header.signature)) := by
  simp only [validateSignature, hh, Option.bind_eq_bind, Option.some_bind]
  split <;> rfl

/-- What `new` establishes for a cell inside the blob: the header is a 20-byte view inside the
blob, and the range after it ends inside the blob too. -/
structure WellFormed (kv : KeyValue) : Prop where
  header_isSome : kv.header.isSome
  dataRange_end_le : kv.dataRange.end ≤ kv.hive.data.length

section New

variable {hive : Hive} {cellRange : Range} {kv : KeyValue}

theorem new_eq_ok (h : new hive cellRange = some (.ok kv)) :
    kv = ⟨hive, ⟨cellRange.start, cellRange.start + keyValueHeaderSize⟩,
      ⟨cellRange.start + keyValueHeaderSize, cellRange.end⟩⟩ ∧ kv.header.isSome := by
  unfold new at h
  split at h
  · cases h
  · next headerRange hr =>
      obtain ⟨-, rfl⟩ := byteSubrange_eq_some.mp hr
      cases hv : validateSignature ⟨hive, ⟨cellRange.start, cellRange.start + keyValueHeaderSize⟩,
          ⟨cellRange.start + keyValueHeaderSize, cellRange.end⟩⟩ with
      | none => simp [hv] at h
      | some r =>
          cases r with
          | error e => simp [hv] at h
          | ok u =>
              simp only [hv, Option.bind_eq_bind, Option.some_bind, Option.pure_def,
                Option.some.injEq, Except.ok.injEq] at h
              subst h
              exact ⟨rfl, header_of_validateSignature hv⟩

theorem new_wellFormed (hr : cellRange.end ≤ hive.data.length)
    (h : new hive cellRange = some (.ok kv)) : kv.WellFormed := by
  obtain ⟨rfl, hh⟩ := new_eq_ok h
  exact ⟨hh, hr⟩

theorem new_isSome (hr : cellRange.end ≤ hive.data.length) : (new hive cellRange).isSome := by
  unfold new
  split
  · rfl
  · next headerRange h =>
      obtain ⟨hle, rfl⟩ := byteSubrange_eq_some.mp h
      have hh : (⟨hive, ⟨cellRange.start, cellRange.start + keyValueHeaderSize⟩,
          ⟨cellRange.start + keyValueHeaderSize, cellRange.end⟩⟩ : KeyValue).header.isSome :=
        header_isSome_iff.mpr ⟨rfl, by simp only; omega⟩
      obtain ⟨header, hh⟩ := Option.isSome_iff_exists.mp hh
      simp only [validateSignature, hh, Option.bind_eq_bind, Option.some_bind]
      split <;> rfl

end New

section Data

variable {kv : KeyValue} {header : KeyValueHeader}

theorem big_eq_ok {x : Result Range} {f : Range → Result BigDataSlices} {d : KeyValueData}
    (h : (do let c ← x; let i ← f c; pure (KeyValueData.big i)) = Except.ok d) :
    ∃ c i, x = .ok c ∧ f c = .ok i ∧ d = .big i := by
  cases x with
  | error e => cases h
  | ok c =>
      cases hf : f c with
      | error e => simp [bind, Except.bind, hf] at h
      | ok i =>
          simp only [bind, Except.bind, hf, pure, Except.pure, Except.ok.injEq] at h
          exact ⟨c, i, rfl, hf, h.symm⟩

theorem length_of_data_eq_small (hh : kv.header = some header) {bytes : List UInt8}
    (h : kv.data = some (.ok (.small bytes))) :
    bytes.length = header.dataSize.toNat % 0x80000000 := by
  simp only [data, hh, Option.bind_eq_bind, Option.some_bind, and_dataStoredInDataOffset_pos_iff,
    toNat_and_not_dataStoredInDataOffset, Option.pure_def] at h
  split_ifs at h
  · cases h
  · obtain ⟨b, hs, hb⟩ := Option.bind_eq_some.mp h
    cases hb
    simp [length_of_slice_eq_some hs, Range.len]
  · split at h
    · cases h
    · split_ifs at h
      · cases h
      · obtain ⟨b, hs, hb⟩ := Option.bind_eq_some.mp h
        cases hb
        simp [length_of_slice_eq_some hs, Range.len]
  · obtain ⟨_, _, -, -, hd⟩ := big_eq_ok (Option.some.inj h)
    cases hd

theorem data_eq_big (hh : kv.header = some header) {iter : BigDataSlices}
    (h : kv.data = some (.ok (.big iter))) :
    header.dataSize.toNat < 0x80000000 ∧ bigDataSegmentSize < header.dataSize.toNat % 0x80000000 ∧
      ∃ r, kv.hive.cellRangeFromDataOffset header.dataOffset = .ok r ∧
        kv.hive.bigDataSlicesNew (UInt32.ofNat (header.dataSize.toNat % 0x80000000))
          (kv.hive.offsetOfField (.blob (kv.headerRange.start + 4))) r = .ok iter := by
  simp only [data, hh, Option.bind_eq_bind, Option.some_bind, and_dataStoredInDataOffset_pos_iff,
    toNat_and_not_dataStoredInDataOffset, Option.pure_def] at h
  split_ifs at h with h1 h2
  · cases h
  · obtain ⟨b, -, hb⟩ := Option.bind_eq_some.mp h
    cases hb
  · split at h
    · cases h
    · split_ifs at h
      · cases h
      · obtain ⟨b, -, hb⟩ := Option.bind_eq_some.mp h
        cases hb
  · obtain ⟨r, i, hr, hi, hd⟩ := big_eq_ok (Option.some.inj h)
    cases hd
    exact ⟨by omega, by omega, r, hr, hi⟩

theorem data_isSome (hc : kv.hive.CellRangesInBlob) (hw : kv.WellFormed) : kv.data.isSome := by
  have hend := header_isSome_iff.mp hw.header_isSome
  obtain ⟨header, hh⟩ := Option.isSome_iff_exists.mp hw.header_isSome
  simp only [keyValueHeaderSize] at hend
  simp only [data, hh, Option.bind_eq_bind, Option.some_bind, and_dataStoredInDataOffset_pos_iff,
    toNat_and_not_dataStoredInDataOffset, Option.pure_def]
  split_ifs
  · rfl
  · rw [slice_start_add (by omega)]
    rfl
  · split
    · rfl
    · next r hr =>
        have := hc _ _ hr
        simp only [Range.len]
        split_ifs
        · rfl
        · rw [slice_start_add (by omega)]
          rfl
  · rfl

end Data

/-- What `data` returns for a header `new` accepted, by the value of `data_size`. -/
def DataFollowsDataSize (kv : KeyValue) : Prop :=
  ∃ header : KeyValueHeader, kv.header = some header ∧
    let n := header.dataSize.toNat % 0x80000000
    (0x80000000 ≤ header.dataSize.toNat → 4 < n → kv.data = some (.error
      (.invalidSizeField (kv.hive.offsetOfField (.blob (kv.headerRange.start + 4))) 4 n))) ∧
    (0x80000000 ≤ header.dataSize.toNat → n ≤ 4 →
      kv.data = some (.ok (.small ((kv.hive.data.drop (kv.headerRange.start + 8)).take n)))) ∧
    (header.dataSize.toNat < 0x80000000 → n ≤ bigDataSegmentSize → ∀ r,
      kv.hive.cellRangeFromDataOffset header.dataOffset = .ok r → n ≤ r.len →
      kv.data = some (.ok (.small ((kv.hive.data.drop r.start).take n)))) ∧
    (header.dataSize.toNat < 0x80000000 → n ≤ bigDataSegmentSize → ∀ e,
      kv.hive.cellRangeFromDataOffset header.dataOffset = .error e → kv.data = some (.error e)) ∧
    (header.dataSize.toNat < 0x80000000 → n ≤ bigDataSegmentSize → ∀ r,
      kv.hive.cellRangeFromDataOffset header.dataOffset = .ok r → r.len < n →
      kv.data = some (.error (.invalidDataSize (kv.hive.offsetOfDataOffset r.start) n r.len))) ∧
    (∀ iter, kv.data = some (.ok (.big iter)) →
      header.dataSize.toNat < 0x80000000 ∧ bigDataSegmentSize < n ∧
      ∃ r, kv.hive.cellRangeFromDataOffset header.dataOffset = .ok r ∧ kv.hive.bigDataSlicesNew
        (UInt32.ofNat n) (kv.hive.offsetOfField (.blob (kv.headerRange.start + 4))) r = .ok iter) ∧
    (∀ bytes, kv.data = some (.ok (.small bytes)) →
      ∃ size, kv.dataSize = some size ∧ bytes.length = size.toNat)

/-- With the inline bit set, `data` is the first bytes of `data_offset`, at most four; with it
clear and up to one segment, the first bytes of the cell `data_offset` resolves to; and Big Data
only past one segment. A Small slice always has exactly `data_size` bytes. -/
theorem data_follows_data_size {hive : Hive} (hc : hive.CellRangesInBlob) {cellRange : Range}
    {kv : KeyValue} (hkv : new hive cellRange = some (.ok kv)) : kv.DataFollowsDataSize := by
  have hw := new_eq_ok hkv
  obtain ⟨header, hh⟩ := Option.isSome_iff_exists.mp hw.2
  have hend := (header_isSome_iff.mp hw.2).2
  obtain ⟨rfl, -⟩ := hw
  simp only [keyValueHeaderSize] at hend
  refine ⟨header, hh, ?_⟩
  dsimp only
  refine ⟨fun h1 h2 => ?_, fun h1 h2 => ?_, fun h1 h2 r hr hle => ?_, fun h1 h2 e he => ?_,
    fun h1 h2 r hr hlt => ?_, fun iter h => data_eq_big hh h,
    fun bytes h => ⟨header.dataSize &&& ~~~dataStoredInDataOffset, by simp [dataSize, hh], by
      rw [length_of_data_eq_small hh h, toNat_and_not_dataStoredInDataOffset]⟩⟩
  all_goals simp only [data, hh, Option.bind_eq_bind, Option.some_bind,
    and_dataStoredInDataOffset_pos_iff, toNat_and_not_dataStoredInDataOffset, Option.pure_def]
  · rw [if_pos h1, if_pos h2]
  · rw [if_pos h1, if_neg (by omega), slice_start_add (by omega)]
    rfl
  · have := hc _ _ hr
    simp only [Range.len] at hle
    rw [if_neg (by omega), if_pos h2, hr]
    simp only [Range.len]
    rw [if_neg (by omega), slice_start_add (by omega)]
    rfl
  · rw [if_neg (by omega), if_pos h2, he]
  · rw [if_neg (by omega), if_pos h2, hr]
    simp only [if_pos hlt]

end KeyValue

/-- A hive whose bytes are one `vk` cell: a REG_MULTI_SZ value with the four data bytes
`00 00 41 00` (an empty string, then `A`) stored in `data_offset`. -/
def emptyThenAHive : Hive where
  data := [0x76, 0x6b, 0, 0, 4, 0, 0, 0x80, 0, 0, 0x41, 0, 7, 0, 0, 0, 0, 0, 0, 0]
  cellRangeFromDataOffset _ := .ok ⟨0, 0⟩
  bigDataSlicesNew _ _ _ := .ok ⟨[]⟩
  offsetOfDataOffset := id
  offsetOfField _ := 0

def emptyThenAValue : KeyValue := ⟨emptyThenAHive, ⟨0, 20⟩, ⟨20, 20⟩⟩

theorem emptyThenAHive_cellRangesInBlob : emptyThenAHive.CellRangesInBlob := by
  rintro _ r ⟨⟩
  exact ⟨le_refl _, Nat.zero_le _⟩

theorem data_follows_data_size_of_inline_value : emptyThenAHive.CellRangesInBlob ∧
    KeyValue.new emptyThenAHive ⟨0, 20⟩ = some (.ok emptyThenAValue) ∧
    emptyThenAValue.DataFollowsDataSize :=
  have hnew : KeyValue.new emptyThenAHive ⟨0, 20⟩ = some (.ok emptyThenAValue) := rfl
  ⟨emptyThenAHive_cellRangesInBlob, hnew,
    KeyValue.data_follows_data_size emptyThenAHive_cellRangesInBlob hnew⟩

namespace KeyValue

theorem name_isSome {kv : KeyValue} (hw : kv.WellFormed) : kv.name.isSome := by
  obtain ⟨header, hh⟩ := Option.isSome_iff_exists.mp hw.header_isSome
  have hend := hw.dataRange_end_le
  simp only [name, hh, Option.bind_eq_bind, Option.some_bind]
  split
  · rfl
  · next nameRange h =>
      obtain ⟨hle, rfl⟩ := byteSubrange_eq_some.mp h
      rw [slice_start_add (by omega), Option.some_bind]
      split <;> rfl

section Spec

variable {hive : Hive} {cellRange : Range} {kv : KeyValue}

/-- `new` on a cell inside the blob: `InvalidHeaderSize` for a cell shorter than the header,
`InvalidTwoByteSignature` at the cell's first byte when the cell does not start with `vk`, and
otherwise the Key Value whose header is the cell's first 20 bytes and whose data range is the
rest of the cell. -/
theorem new_eq_of_cell (hr : cellRange.end ≤ hive.data.length) :
    new hive cellRange =
      if cellRange.start + keyValueHeaderSize ≤ cellRange.end then
        if (hive.data.drop cellRange.start).take 2 = [0x76, 0x6b] then
          some (.ok ⟨hive, ⟨cellRange.start, cellRange.start + keyValueHeaderSize⟩,
            ⟨cellRange.start + keyValueHeaderSize, cellRange.end⟩⟩)
        else some (.error (.invalidTwoByteSignature (hive.offsetOfField (.blob cellRange.start))
          [0x76, 0x6b] ((hive.data.drop cellRange.start).take 2)))
      else some (.error (.invalidHeaderSize (hive.offsetOfDataOffset cellRange.start)
        keyValueHeaderSize cellRange.len)) := by
  by_cases hs : cellRange.start + keyValueHeaderSize ≤ cellRange.end
  · have hh : (⟨hive, ⟨cellRange.start, cellRange.start + keyValueHeaderSize⟩,
        ⟨cellRange.start + keyValueHeaderSize, cellRange.end⟩⟩ : KeyValue).header.isSome :=
      header_isSome_iff.mpr ⟨rfl, by simp only; omega⟩
    obtain ⟨header, hh⟩ := Option.isSome_iff_exists.mp hh
    rw [new, byteSubrange_eq_some.mpr ⟨hs, rfl⟩, if_pos hs]
    simp only [validateSignature_eq hh, ← signature_of_header hh, Option.bind_eq_bind,
      Option.some_bind]
    split_ifs <;> rfl
  · rw [new, byteSubrange_eq_none.mpr (by omega), if_neg hs]
    rfl

theorem new_eq_of_cell_on_inline_value :
    (⟨0, 20⟩ : Range).end ≤ emptyThenAHive.data.length ∧
      new emptyThenAHive ⟨0, 20⟩ =
        if (0 : Nat) + keyValueHeaderSize ≤ 20 then
          if (emptyThenAHive.data.drop 0).take 2 = [0x76, 0x6b] then
            some (.ok ⟨emptyThenAHive, ⟨0, 0 + keyValueHeaderSize⟩, ⟨0 + keyValueHeaderSize, 20⟩⟩)
          else some (.error (.invalidTwoByteSignature (emptyThenAHive.offsetOfField (.blob 0))
            [0x76, 0x6b] ((emptyThenAHive.data.drop 0).take 2)))
        else some (.error (.invalidHeaderSize (emptyThenAHive.offsetOfDataOffset 0)
          keyValueHeaderSize (⟨0, 20⟩ : Range).len)) :=
  ⟨le_refl _, new_eq_of_cell (le_refl _)⟩

/-- `name` of a Key Value that `new` built on a cell inside the blob: the `name_length` bytes
right after the header, as Latin1 when bit 0 of `flags` is set and as UTF-16LE otherwise, or
`InvalidSizeField` at the `name_length` field when the rest of the cell is shorter. -/
theorem name_eq_of_new (hr : cellRange.end ≤ hive.data.length)
    (hkv : new hive cellRange = some (.ok kv)) :
    ∃ header, kv.header = some header ∧ kv.name = some
      (if cellRange.start + keyValueHeaderSize + header.nameLength.toNat ≤ cellRange.end then
        .ok ((if header.flags.toNat % 2 = 1 then NtHiveNameString.latin1 else .utf16LE)
          ((hive.data.drop (cellRange.start + keyValueHeaderSize)).take header.nameLength.toNat))
      else .error (.invalidSizeField (hive.offsetOfField (.blob (cellRange.start + 2)))
        header.nameLength.toNat (cellRange.end - (cellRange.start + keyValueHeaderSize)))) := by
  obtain ⟨rfl, hh⟩ := new_eq_ok hkv
  obtain ⟨header, hh⟩ := Option.isSome_iff_exists.mp hh
  refine ⟨header, hh, ?_⟩
  simp only [name, hh, Option.bind_eq_bind, Option.some_bind, and_valueCompName_eq_iff]
  by_cases hn : cellRange.start + keyValueHeaderSize + header.nameLength.toNat ≤ cellRange.end
  · rw [byteSubrange_eq_some.mpr ⟨hn, rfl⟩, if_pos hn]
    dsimp only
    rw [slice_start_add (by omega), Option.some_bind]
    split_ifs <;> rfl
  · rw [byteSubrange_eq_none.mpr (by dsimp only; omega), if_neg hn]
    rfl

theorem name_eq_of_new_on_inline_value :
    (⟨0, 20⟩ : Range).end ≤ emptyThenAHive.data.length ∧
      new emptyThenAHive ⟨0, 20⟩ = some (.ok emptyThenAValue) ∧
      ∃ header, emptyThenAValue.header = some header ∧ emptyThenAValue.name = some
        (if 0 + keyValueHeaderSize + header.nameLength.toNat ≤ 20 then
          .ok ((if header.flags.toNat % 2 = 1 then NtHiveNameString.latin1 else .utf16LE)
            ((emptyThenAHive.data.drop (0 + keyValueHeaderSize)).take header.nameLength.toNat))
        else .error (.invalidSizeField (emptyThenAHive.offsetOfField (.blob (0 + 2)))
          header.nameLength.toNat (20 - (0 + keyValueHeaderSize)))) :=
  have hnew : new emptyThenAHive ⟨0, 20⟩ = some (.ok emptyThenAValue) := rfl
  ⟨le_refl _, hnew, name_eq_of_new (le_refl _) hnew⟩

end Spec

section Integer

variable {α : Type} {kv : KeyValue} {size : Nat} {expected : List KeyValueDataType}
  {decode : KeyValueDataType → Option (List UInt8 → α)}

theorem integerData_of_data {r : Result KeyValueData} (hd : kv.data = some r) :
    ∃ r', kv.integerData size expected decode = some r' ∧
      ∀ v, r' = .ok v ↔ ∃ bytes, r = .ok (.small bytes) ∧ bytes.length = size ∧
        ∃ dataType fromBytes, kv.dataType = some (.ok dataType) ∧
          decode dataType = some fromBytes ∧ v = fromBytes bytes := by
  obtain ⟨header, hh⟩ := header_of_data hd
  simp only [integerData, hd, Option.bind_eq_bind, Option.some_bind]
  rcases r with e | (bytes | iter)
  · simp
  · by_cases hl : bytes.length = size
    · cases ht : KeyValueDataType.n header.dataType with
      | none => simp [hl, KeyValue.dataType, hh, ht]
      | some t =>
          have hdt : kv.dataType = some (.ok t) := by simp [KeyValue.dataType, hh, ht]
          cases hdec : decode t <;> simp [hl, hdt, hdec, tryInto, eq_comm]
    · simp [hl]
  · simp [hh, dataSize]

theorem integerData_eq_ok {v : α} :
    kv.integerData size expected decode = some (.ok v) ↔
      ∃ bytes, kv.data = some (.ok (.small bytes)) ∧ bytes.length = size ∧
        ∃ dataType fromBytes, kv.dataType = some (.ok dataType) ∧
          decode dataType = some fromBytes ∧ v = fromBytes bytes := by
  cases hd : kv.data with
  | none => simp [integerData, hd]
  | some r =>
      obtain ⟨r', h, hv⟩ := @integerData_of_data α kv size expected decode r hd
      simp only [h, Option.some.injEq, hv]

theorem integerData_eq_none : kv.integerData size expected decode = none ↔ kv.data = none := by
  cases hd : kv.data with
  | none => simp [integerData, hd]
  | some r =>
      obtain ⟨r', h, -⟩ := @integerData_of_data α kv size expected decode r hd
      simp [h]

end Integer

/-- `dword_data` and `qword_data` return a value exactly for Small data of 4 or 8 bytes of
their types, decoded in the type's byte order, and panic only where `data` does: in every other
case they return an error. -/
theorem dwordData_qwordData_decode_small_data (kv : KeyValue) :
    (∀ v, kv.dwordData = some (.ok v) ↔ ∃ bytes, kv.data = some (.ok (.small bytes)) ∧
      bytes.length = 4 ∧ (kv.dataType = some (.ok .regDWord) ∧ v = u32FromLeBytes bytes ∨
        kv.dataType = some (.ok .regDWordBigEndian) ∧ v = u32FromBeBytes bytes)) ∧
    (∀ v, kv.qwordData = some (.ok v) ↔ ∃ bytes, kv.data = some (.ok (.small bytes)) ∧
      bytes.length = 8 ∧ kv.dataType = some (.ok .regQWord) ∧ v = u64FromLeBytes bytes) ∧
    (kv.dwordData = none ↔ kv.data = none) ∧ (kv.qwordData = none ↔ kv.data = none) := by
  refine ⟨fun v => ?_, fun v => ?_, integerData_eq_none, integerData_eq_none⟩
  · rw [dwordData, integerData_eq_ok]
    refine exists_congr fun bytes => and_congr_right fun _ => and_congr_right fun _ => ?_
    constructor
    · rintro ⟨dataType, fromBytes, ht, hdec, rfl⟩
      cases dataType <;> cases hdec <;> simp [ht]
    · rintro (⟨ht, rfl⟩ | ⟨ht, rfl⟩)
      exacts [⟨_, _, ht, rfl, rfl⟩, ⟨_, _, ht, rfl, rfl⟩]
  · rw [qwordData, integerData_eq_ok]
    refine exists_congr fun bytes => and_congr_right fun _ => and_congr_right fun _ => ?_
    constructor
    · rintro ⟨dataType, fromBytes, ht, hdec, rfl⟩
      cases dataType <;> cases hdec
      exact ⟨ht, rfl⟩
    · rintro ⟨ht, rfl⟩
      exact ⟨_, _, ht, rfl, rfl⟩

end KeyValue

end NtHive
