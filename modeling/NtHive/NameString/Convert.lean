import NtHive.NameString.Compare

namespace NtHive

/-- `*byte as char`: a Latin1 byte is the code point of the same value. -/
def latin1Char (b : UInt8) : Char := Char.ofNat b.toNat

def utf16leBytes (s : String) : List UInt8 := (encodeUtf16 s).flatMap u16ToLeBytes

def latin1Bytes (s : String) : List UInt8 := s.data.map fun c => UInt8.ofNat c.toNat

namespace NtHiveNameString

/-- `to_string_checked`: a Latin1 name always converts; a UTF-16LE name converts unless it
holds an unpaired surrogate, as `collect::<Option<String>>` stops at the first `None`. -/
def toStringChecked : NtHiveNameString → Option String
  | .latin1 bytes => some ⟨bytes.map latin1Char⟩
  | .utf16LE bytes => ((decodeUtf16 (utf16leIter bytes)).mapM Except.toOption).map String.mk

/-- `to_string_lossy`: an unpaired surrogate becomes the replacement character. -/
def toStringLossy : NtHiveNameString → String
  | .latin1 bytes => ⟨bytes.map latin1Char⟩
  | .utf16LE bytes => ⟨decodeUtf16Lossy (utf16leIter bytes)⟩

end NtHiveNameString

theorem toNat_latin1Char (b : UInt8) : (latin1Char b).toNat = b.toNat :=
  toNat_char_ofNat (Or.inl (by have := b.toNat_lt_size; simp only [UInt8.size] at this; omega))

theorem encodeCharUtf16_latin1Char (b : UInt8) : encodeCharUtf16 (latin1Char b) = [b.toUInt16] := by
  have hb : b.toNat < 256 := b.toNat_lt_size
  simp [encodeCharUtf16, toNat_latin1Char, toUInt16_eq_ofNat_toNat, show b.toNat < 0x10000 by omega]

theorem encodeUtf16_latin1 (bytes : List UInt8) :
    encodeUtf16 ⟨bytes.map latin1Char⟩ = latin1Iter bytes := by
  induction bytes with
  | nil => rfl
  | cons b bs ih =>
      simp only [encodeUtf16, List.map_cons, List.flatMap_cons, encodeCharUtf16_latin1Char] at ih ⊢
      rw [ih]
      rfl

theorem mapM_toOption_eq_some {l : List (Except UInt16 Char)} {cs : List Char} :
    l.mapM Except.toOption = some cs ↔ l = cs.map .ok := by
  induction l generalizing cs with
  | nil =>
      rw [List.mapM_nil]
      cases cs <;> simp [pure]
  | cons x xs ih =>
      rw [List.mapM_cons]
      cases x with
      | error e => cases cs <;> simp [Except.toOption]
      | ok c =>
          simp only [Except.toOption, Option.bind_eq_bind, bind, Option.some_bind, Option.bind_eq_some,
            pure, Option.some.injEq, ih]
          cases cs with
          | nil => simp
          | cons d ds =>
              simp only [List.map_cons, List.cons.injEq, Except.ok.injEq]
              constructor
              · rintro ⟨a, h, rfl, rfl⟩
                exact ⟨rfl, h⟩
              · rintro ⟨rfl, h⟩
                exact ⟨ds, h, rfl, rfl⟩

namespace NtHiveNameString

theorem toStringChecked_eq_some_iff (n : NtHiveNameString) (s : String) :
    n.toStringChecked = some s ↔ encodeUtf16 s = (Operand.name n).units := by
  cases n with
  | latin1 bytes =>
      simp only [toStringChecked, Option.some.injEq, Operand.units_latin1, ← encodeUtf16_latin1]
      exact ⟨fun h => h ▸ rfl, fun h => (encodeUtf16_injective h).symm⟩
  | utf16LE bytes =>
      simp only [toStringChecked, Operand.units_utf16LE, Option.map_eq_some', mapM_toOption_eq_some]
      constructor
      · rintro ⟨cs, hcs, rfl⟩
        exact flatMap_encode_of_decodeUtf16 _ cs hcs
      · intro h
        exact ⟨s.data, by rw [← h, decodeUtf16_encodeUtf16], rfl⟩

theorem utf16leIter_utf16leBytes (s : String) : utf16leIter (utf16leBytes s) = encodeUtf16 s :=
  leU16s_append_toLeBytes _

theorem latin1Iter_latin1Bytes (s : String) (h : ∀ c ∈ s.data, c.toNat ≤ 0xFF) :
    latin1Iter (latin1Bytes s) = encodeUtf16 s := by
  obtain ⟨cs⟩ := s
  simp only [latin1Iter, latin1Bytes, encodeUtf16, List.map_map] at h ⊢
  induction cs with
  | nil => rfl
  | cons c cs ih =>
      have hc := h c (List.mem_cons_self _ _)
      have hz : (UInt8.ofNat c.toNat).toUInt16 = UInt16.ofNat c.toNat := by
        rw [toUInt16_eq_ofNat_toNat, UInt8.toNat_ofNat_of_lt (by simp only [UInt8.size]; omega)]
      simp only [List.map_cons, List.flatMap_cons, Function.comp, encodeCharUtf16,
        show c.toNat < 0x10000 by omega, if_true, hz, ih fun d hd => h d (List.mem_cons_of_mem _ hd)]
      rfl

/-- `to_string_checked` returns exactly the strings whose UTF-16 encoding is the name's code
units. So it decodes the UTF-16LE bytes of any string, and the Latin1 bytes of any string
below U+0100, back to that string; and a name compares equal to what it decodes to. -/
theorem toStringChecked_decodes_exactly_encodings :
    (∀ (n : NtHiveNameString) (s : String),
      n.toStringChecked = some s ↔ encodeUtf16 s = (Operand.name n).units) ∧
    (∀ s : String, (utf16LE (utf16leBytes s)).toStringChecked = some s) ∧
    (∀ s : String, (∀ c ∈ s.data, c.toNat ≤ 0xFF) →
      (latin1 (latin1Bytes s)).toStringChecked = some s) ∧
    (∀ (n : NtHiveNameString) (s : String),
      n.toStringChecked = some s → cmpSelfAndStr n s = .eq) := by
  refine ⟨toStringChecked_eq_some_iff, fun s => ?_, fun s h => ?_, fun n s h => ?_⟩
  · rw [toStringChecked_eq_some_iff, Operand.units_utf16LE, utf16leIter_utf16leBytes]
  · rw [toStringChecked_eq_some_iff, Operand.units_latin1, latin1Iter_latin1Bytes s h]
  · rw [cmpSelfAndStr_eq_foldedCompare, foldedCompare, Operand.units_str,
      ← (toStringChecked_eq_some_iff n s).mp h]
    exact lexCompare_eq_iff.mpr rfl

end NtHiveNameString

end NtHive
