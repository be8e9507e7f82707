import Mathlib.Data.List.Basic

namespace NtHive

/-- `core::ops::Range<usize>`, the half-open byte range a view borrows from the hive. -/
structure Range where
  start : Nat
  «end» : Nat
  deriving DecidableEq, Repr

/-- `Range::len`, which is zero for a range whose start lies past its end. -/
def Range.len (r : Range) : Nat := r.end - r.start

/-- `&data[start..]`: the bytes from `start` on, or `none` where Rust panics. Every
function of the model that indexes a slice returns `none` exactly where the Rust code
panics. -/
def sliceFrom (data : List UInt8) (start : Nat) : Option (List UInt8) :=
  if start ≤ data.length then some (data.drop start) else none

/-- `&data[r.start..r.end]`: the bytes of the range, or `none` where Rust panics. -/
def slice (data : List UInt8) (r : Range) : Option (List UInt8) :=
  if r.start ≤ r.end ∧ r.end ≤ data.length then some ((data.drop r.start).take r.len) else none

theorem length_of_slice_eq_some {data bytes : List UInt8} {r : Range}
    (h : slice data r = some bytes) : bytes.length = r.len := by
  unfold slice at h
  split at h
  · cases h
    simp only [List.length_take, List.length_drop, Range.len]
    omega
  · cases h

theorem slice_start_add {data : List UInt8} {start n : Nat} (h : start + n ≤ data.length) :
    slice data ⟨start, start + n⟩ = some ((data.drop start).take n) := by
  simp [slice, h, Range.len]

theorem sliceFrom_eq_some {data : List UInt8} {start : Nat} (h : start ≤ data.length) :
    sliceFrom data start = some (data.drop start) :=
  if_pos h

theorem sliceFrom_bind_slice {data : List UInt8} {start n : Nat} (h : start + n ≤ data.length) :
    sliceFrom data start = some (data.drop start) ∧
      slice (data.drop start) ⟨0, n⟩ = some ((data.drop start).take n) := by
  refine ⟨sliceFrom_eq_some (by omega), ?_⟩
  simp [slice, Range.len]
  omega

theorem sliceFrom_bind_slice_eq_none {data : List UInt8} {start n : Nat}
    (h : data.length < start + n) : (sliceFrom data start).bind (slice · ⟨0, n⟩) = none := by
  unfold sliceFrom
  split
  · simp [slice, Range.len]
    omega
  · rfl

/-- The natural number with the given little-endian bytes. -/
def leNat : List UInt8 → Nat
  | [] => 0
  | b :: bs => b.toNat + 256 * leNat bs

@[simp] theorem leNat_nil : leNat [] = 0 := rfl

@[simp] theorem leNat_cons (b : UInt8) (bs : List UInt8) :
    leNat (b :: bs) = b.toNat + 256 * leNat bs := rfl

/-- `u16::from_le_bytes`, on the two bytes a `try_into` has checked. -/
def u16FromLeBytes (bytes : List UInt8) : UInt16 := UInt16.ofNat (leNat bytes)

/-- `u32::from_le_bytes`, on the four bytes a `try_into` has checked. -/
def u32FromLeBytes (bytes : List UInt8) : UInt32 := UInt32.ofNat (leNat bytes)

/-- `u32::from_be_bytes`. -/
def u32FromBeBytes (bytes : List UInt8) : UInt32 := UInt32.ofNat (leNat bytes.reverse)

/-- `u64::from_le_bytes`. -/
def u64FromLeBytes (bytes : List UInt8) : UInt64 := UInt64.ofNat (leNat bytes)

/-- `<[u8; n]>::try_from(bytes)`: the bytes when there are exactly `n` of them. Its
`unwrap` panics on `none`. -/
def tryInto (n : Nat) (bytes : List UInt8) : Option (List UInt8) :=
  if bytes.length = n then some bytes else none

/-- `bytes.chunks_exact(2).map(|two_bytes| u16::from_le_bytes(two_bytes.try_into().unwrap()))`,
taking each chunk as the pair of bytes it is; a trailing odd byte is no chunk.
`chunksExact_two_mapM_tryInto` shows that the literal translation, whose `unwrap` can fail,
never does and gives this list. -/
def leU16s : List UInt8 → List UInt16
  | b0 :: b1 :: rest => u16FromLeBytes [b0, b1] :: leU16s rest
  | _ => []

@[simp] theorem leU16s_nil : leU16s [] = [] := rfl

@[simp] theorem leU16s_single (b : UInt8) : leU16s [b] = [] := rfl

@[simp] theorem leU16s_cons_cons (b0 b1 : UInt8) (rest : List UInt8) :
    leU16s (b0 :: b1 :: rest) = u16FromLeBytes [b0, b1] :: leU16s rest := rfl

def u16ToLeBytes (u : UInt16) : List UInt8 :=
  [UInt8.ofNat (u.toNat % 256), UInt8.ofNat (u.toNat / 256)]

theorem u16FromLeBytes_toLeBytes (u : UInt16) : u16FromLeBytes (u16ToLeBytes u) = u := by
  have hu : u.toNat < 65536 := u.toNat_lt_size
  have hlo : (UInt8.ofNat (u.toNat % 256)).toNat = u.toNat % 256 :=
    UInt8.toNat_ofNat_of_lt (show u.toNat % 256 < 256 by omega)
  have hhi : (UInt8.ofNat (u.toNat / 256)).toNat = u.toNat / 256 :=
    UInt8.toNat_ofNat_of_lt (show u.toNat / 256 < 256 by omega)
  apply UInt16.toNat.inj
  simp only [u16FromLeBytes, u16ToLeBytes, leNat_cons, leNat_nil, hlo, hhi]
  rw [UInt16.toNat_ofNat_of_lt (show _ < 65536 by omega)]
  omega

theorem leU16s_append_toLeBytes (units : List UInt16) :
    leU16s (units.flatMap u16ToLeBytes) = units := by
  induction units with
  | nil => rfl
  | cons u us ih =>
      rw [List.flatMap_cons, u16ToLeBytes, List.cons_append, List.cons_append, List.nil_append,
        leU16s_cons_cons, ih, ← u16ToLeBytes, u16FromLeBytes_toLeBytes]

theorem leU16s_append {xs : List UInt8} (ys : List UInt8) (h : xs.length % 2 = 0) :
    leU16s (xs ++ ys) = leU16s xs ++ leU16s ys := by
  induction xs using leU16s.induct with
  | case1 b0 b1 rest ih =>
      simp only [List.length_cons] at h
      simp [ih (by omega)]
  | case2 xs hx =>
      match xs, hx with
      | [], _ => rfl
      | [b], _ => simp at h
      | _ :: _ :: _, hx => exact absurd rfl (hx _ _ _)

theorem length_flatMap_u16ToLeBytes (units : List UInt16) :
    (units.flatMap u16ToLeBytes).length = 2 * units.length := by
  induction units with
  | nil => rfl
  | cons u us ih =>
      simp only [List.flatMap_cons, List.length_append, ih, List.length_cons, u16ToLeBytes,
        List.length_nil]
      omega

/-- `bytes.chunks_exact(n)`: the consecutive chunks of `n` bytes; a shorter tail is no chunk. -/
def chunksExact (n : Nat) (bytes : List UInt8) : List (List UInt8) :=
  if 0 < n ∧ n ≤ bytes.length then bytes.take n :: chunksExact n (bytes.drop n) else []
termination_by bytes.length
decreasing_by simp only [List.length_drop]; omega

theorem chunksExact_two_cons_cons (b0 b1 : UInt8) (rest : List UInt8) :
    chunksExact 2 (b0 :: b1 :: rest) = [b0, b1] :: chunksExact 2 rest := by
  rw [chunksExact, if_pos (by simp)]
  rfl

theorem chunksExact_of_length_lt {n : Nat} {bytes : List UInt8} (h : bytes.length < n) :
    chunksExact n bytes = [] := by
  rw [chunksExact, if_neg (by omega)]

theorem chunksExact_two_mapM_tryInto (bytes : List UInt8) :
    (chunksExact 2 bytes).mapM (fun twoBytes => (tryInto 2 twoBytes).map u16FromLeBytes) =
      some (leU16s bytes) := by
  induction bytes using leU16s.induct with
  | case1 b0 b1 rest ih =>
      rw [chunksExact_two_cons_cons, List.mapM_cons, ih]
      rfl
  | case2 bytes h =>
      match bytes, h with
      | [], _ => rw [chunksExact_of_length_lt (by simp)]; rfl
      | [b], _ => rw [chunksExact_of_length_lt (by simp)]; rfl
      | _ :: _ :: _, h => exact absurd rfl (h _ _ _)

/-- Possible data types of a Key Value (`KeyValueDataType`). -/
inductive KeyValueDataType
  | regNone
  | regSZ
  | regExpandSZ
  | regBinary
  | regDWord
  | regDWordBigEndian
  | regLink
  | regMultiSZ
  | regResourceList
  | regFullResourceDescriptor
  | regResourceRequirementsList
  | regQWord
  deriving DecidableEq, Repr

/-- `KeyValueDataType::n`, derived by `enumn` from the `#[repr(u32)]` discriminants. -/
def KeyValueDataType.n : UInt32 → Option KeyValueDataType
  | 0x0 => some .regNone
  | 0x1 => some .regSZ
  | 0x2 => some .regExpandSZ
  | 0x3 => some .regBinary
  | 0x4 => some .regDWord
  | 0x5 => some .regDWordBigEndian
  | 0x6 => some .regLink
  | 0x7 => some .regMultiSZ
  | 0x8 => some .regResourceList
  | 0x9 => some .regFullResourceDescriptor
  | 0xa => some .regResourceRequirementsList
  | 0xb => some .regQWord
  | _ => none

/-- The variants of `NtHiveError` that the modelled functions build, with the fields they
fill in. `invalidSignature` is the variant of the older `index_root.rs`. -/
inductive NtHiveError
  | invalidDataSize (offset expected actual : Nat)
  | invalidHeaderSize (offset expected actual : Nat)
  | invalidKeyValueDataType (expected : List KeyValueDataType) (actual : KeyValueDataType)
  | invalidSignature (actual expected : List UInt8) (offset : Nat)
  | invalidSizeField (offset expected actual : Nat)
  | invalidTwoByteSignature (offset : Nat) (expected actual : List UInt8)
  | unsupportedKeyValueDataType (offset : Nat) (actual : UInt32)
  deriving DecidableEq, Repr

/-- The crate's `Result<T>`. -/
abbrev Result (α : Type) := Except NtHiveError α

end NtHive
