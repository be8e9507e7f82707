import NtHive.Basic

namespace NtHive

/-- `u16::is_utf16_surrogate`. -/
def isSurrogate (u : UInt16) : Bool := 0xD800 ≤ u.toNat && u.toNat ≤ 0xDFFF

/-- A leading surrogate, which `DecodeUtf16` pairs with the unit after it. -/
def isLeadSurrogate (u : UInt16) : Bool := 0xD800 ≤ u.toNat && u.toNat ≤ 0xDBFF

/-- A trailing surrogate, the only unit `DecodeUtf16` accepts after a leading one. -/
def isTrailSurrogate (u : UInt16) : Bool := 0xDC00 ≤ u.toNat && u.toNat ≤ 0xDFFF

/-- The character of a surrogate pair: the shifts and masks of `core::char` written with
`*` and `-`, which agree with them on a leading and a trailing surrogate. -/
def combineSurrogates (u u2 : UInt16) : Char :=
  Char.ofNat (0x10000 + (u.toNat - 0xD800) * 0x400 + (u2.toNat - 0xDC00))

/-- `char::decode_utf16` of `core`, collected: a character for each scalar value or
surrogate pair, and `Err` with the unit for each unpaired surrogate. A unit read after a
leading surrogate that is not a trailing one is decoded again, as `DecodeUtf16` buffers it. -/
def decodeUtf16 : List UInt16 → List (Except UInt16 Char)
  | [] => []
  | [u] => [if isSurrogate u then .error u else .ok (Char.ofNat u.toNat)]
  | u :: u2 :: rest =>
    if !isSurrogate u then .ok (Char.ofNat u.toNat) :: decodeUtf16 (u2 :: rest)
    else if 0xDC00 ≤ u.toNat then .error u :: decodeUtf16 (u2 :: rest)
    else if isTrailSurrogate u2 then .ok (combineSurrogates u u2) :: decodeUtf16 rest
    else .error u :: decodeUtf16 (u2 :: rest)

/-- `char::REPLACEMENT_CHARACTER`. -/
def replacementCharacter : Char := '�'

/-- `x.unwrap_or(char::REPLACEMENT_CHARACTER)` on an item of `decode_utf16`. -/
def unwrapOrReplacementCharacter : Except UInt16 Char → Char
  | .ok c => c
  | .error _ => replacementCharacter

/-- `decode_utf16(units).map(|x| x.unwrap_or(char::REPLACEMENT_CHARACTER))`. -/
def decodeUtf16Lossy (units : List UInt16) : List Char :=
  (decodeUtf16 units).map unwrapOrReplacementCharacter

/-- `char::encode_utf16`: one unit below `0x10000`, a surrogate pair above. -/
def encodeCharUtf16 (c : Char) : List UInt16 :=
  if c.toNat < 0x10000 then [UInt16.ofNat c.toNat]
  else [UInt16.ofNat (0xD800 + (c.toNat - 0x10000) / 0x400),
    UInt16.ofNat (0xDC00 + (c.toNat - 0x10000) % 0x400)]

/-- `str::encode_utf16`. -/
def encodeUtf16 (s : String) : List UInt16 := s.data.flatMap encodeCharUtf16

section Decode

variable {u u2 : UInt16} {rest : List UInt16}

theorem decodeUtf16_cons_of_not_surrogate (h : isSurrogate u = false) (rest : List UInt16) :
    decodeUtf16 (u :: rest) = .ok (Char.ofNat u.toNat) :: decodeUtf16 rest := by
  cases rest <;> simp [decodeUtf16, h]

theorem isSurrogate_of_trail (h : isTrailSurrogate u = true) :
    isSurrogate u = true ∧ 0xDC00 ≤ u.toNat := by
  simp only [isTrailSurrogate, isSurrogate, Bool.and_eq_true, decide_eq_true_eq] at h ⊢
  omega

theorem isSurrogate_of_lead (h : isLeadSurrogate u = true) :
    isSurrogate u = true ∧ ¬0xDC00 ≤ u.toNat := by
  simp only [isLeadSurrogate, isSurrogate, Bool.and_eq_true, decide_eq_true_eq] at h ⊢
  omega

theorem isTrailSurrogate_of_high (hs : ¬(!isSurrogate u) = true) (hlow : 0xDC00 ≤ u.toNat) :
    isTrailSurrogate u = true := by
  simp [isSurrogate, isTrailSurrogate] at hs ⊢
  omega

theorem isLeadSurrogate_of_low (hs : ¬(!isSurrogate u) = true) (hlow : ¬0xDC00 ≤ u.toNat) :
    isLeadSurrogate u = true := by
  simp [isSurrogate, isLeadSurrogate] at hs ⊢
  omega

theorem decodeUtf16_cons_of_trail (h : isTrailSurrogate u = true) (rest : List UInt16) :
    decodeUtf16 (u :: rest) = .error u :: decodeUtf16 rest := by
  obtain ⟨hs, hlow⟩ := isSurrogate_of_trail h
  cases rest <;> simp [decodeUtf16, hs, hlow]

theorem decodeUtf16_lead_trail (h : isLeadSurrogate u = true) (h2 : isTrailSurrogate u2 = true)
    (rest : List UInt16) :
    decodeUtf16 (u :: u2 :: rest) = .ok (combineSurrogates u u2) :: decodeUtf16 rest := by
  obtain ⟨hs, hlow⟩ := isSurrogate_of_lead h
  simp [decodeUtf16, hs, h2, hlow]

theorem decodeUtf16_lead_not_trail (h : isLeadSurrogate u = true)
    (h2 : isTrailSurrogate u2 = false) (rest : List UInt16) :
    decodeUtf16 (u :: u2 :: rest) = .error u :: decodeUtf16 (u2 :: rest) := by
  obtain ⟨hs, hlow⟩ := isSurrogate_of_lead h
  simp [decodeUtf16, hs, h2, hlow]

theorem decodeUtf16_lead_single (h : isLeadSurrogate u = true) : decodeUtf16 [u] = [.error u] := by
  simp [decodeUtf16, (isSurrogate_of_lead h).1]

theorem unit_cases (u : UInt16) :
    isSurrogate u = false ∨ isLeadSurrogate u = true ∨ isTrailSurrogate u = true := by
  simp only [isSurrogate, isLeadSurrogate, isTrailSurrogate, Bool.and_eq_true,
    Bool.and_eq_false_iff, decide_eq_true_eq, decide_eq_false_iff_not]
  omega

@[simp] theorem decodeUtf16_nil : decodeUtf16 [] = [] := rfl

theorem decodeUtf16_append_of_step {x : Except UInt16 Char} {ys : List UInt16}
    (hstep : ∀ zs, decodeUtf16 (u :: u2 :: zs) = x :: decodeUtf16 (u2 :: zs))
    (ih : decodeUtf16 (u2 :: rest ++ ys) = decodeUtf16 (u2 :: rest) ++ decodeUtf16 ys) :
    decodeUtf16 (u :: u2 :: rest ++ ys) = decodeUtf16 (u :: u2 :: rest) ++ decodeUtf16 ys := by
  simp only [List.cons_append] at ih ⊢
  rw [hstep, hstep, ih, List.cons_append]

theorem decodeUtf16_append (xs ys : List UInt16)
    (h : ∀ u ∈ xs.getLast?, isLeadSurrogate u = false) :
    decodeUtf16 (xs ++ ys) = decodeUtf16 xs ++ decodeUtf16 ys := by
  induction xs using decodeUtf16.induct with
  | case1 => rfl
  | case2 u =>
      simp only [List.getLast?_singleton, Option.mem_def, Option.some.injEq, forall_eq'] at h
      rcases unit_cases u with hu | hu | hu
      · simp [decodeUtf16_cons_of_not_surrogate hu]
      · simp [hu] at h
      · simp [decodeUtf16_cons_of_trail hu]
  | case3 u u2 rest hs ih =>
      rw [List.getLast?_cons_cons] at h
      exact decodeUtf16_append_of_step
        (fun _ => decodeUtf16_cons_of_not_surrogate (by simpa using hs) _) (ih h)
  | case4 u u2 rest hs hlow ih =>
      rw [List.getLast?_cons_cons] at h
      exact decodeUtf16_append_of_step
        (fun _ => decodeUtf16_cons_of_trail (isTrailSurrogate_of_high hs hlow) _) (ih h)
  | case5 u u2 rest hs hlow hu2 ih =>
      have hl := isLeadSurrogate_of_low hs hlow
      have hrest : ∀ v ∈ rest.getLast?, isLeadSurrogate v = false := fun v hv =>
        h v (by rw [List.getLast?_cons_cons, List.getLast?_cons, Option.mem_def.mp hv]; rfl)
      simp [decodeUtf16_lead_trail hl hu2, ih hrest]
  | case6 u u2 rest hs hlow hu2 ih =>
      rw [List.getLast?_cons_cons] at h
      exact decodeUtf16_append_of_step
        (decodeUtf16_lead_not_trail (isLeadSurrogate_of_low hs hlow) (by simpa using hu2)) (ih h)

end Decode

section Encode

theorem uint16_ofNat_toNat (u : UInt16) : UInt16.ofNat u.toNat = u :=
  UInt16.toNat.inj (UInt16.toNat_ofNat_of_lt u.toNat_lt_size)

theorem char_toNat_valid (c : Char) :
    c.toNat < 0xD800 ∨ 0xDFFF < c.toNat ∧ c.toNat < 0x110000 := c.valid

theorem toNat_char_ofNat {n : Nat} (h : n < 0xD800 ∨ 0xDFFF < n ∧ n < 0x110000) :
    (Char.ofNat n).toNat = n := by
  simp [Char.ofNat, show n.isValidChar from h, Char.ofNatAux, Char.toNat, UInt32.toNat,
    BitVec.toNat_ofNatLt]

theorem encodeCharUtf16_ofNat {u : UInt16} (h : isSurrogate u = false) :
    encodeCharUtf16 (Char.ofNat u.toNat) = [u] := by
  have hu : u.toNat < 65536 := u.toNat_lt_size
  simp only [isSurrogate, Bool.and_eq_false_iff, decide_eq_false_iff_not] at h
  have hc := toNat_char_ofNat (n := u.toNat) (by omega)
  simp [encodeCharUtf16, hc, hu, uint16_ofNat_toNat]

theorem encodeCharUtf16_combineSurrogates {u u2 : UInt16} (h : isLeadSurrogate u = true)
    (h2 : isTrailSurrogate u2 = true) : encodeCharUtf16 (combineSurrogates u u2) = [u, u2] := by
  simp only [isLeadSurrogate, isTrailSurrogate, Bool.and_eq_true, decide_eq_true_eq] at h h2
  have hc := toNat_char_ofNat (n := 0x10000 + (u.toNat - 0xD800) * 0x400 + (u2.toNat - 0xDC00))
    (by omega)
  have hhi : 0xD800 + (0x10000 + (u.toNat - 0xD800) * 0x400 + (u2.toNat - 0xDC00) - 0x10000) / 0x400
      = u.toNat := by omega
  have hlo : 0xDC00 + (0x10000 + (u.toNat - 0xD800) * 0x400 + (u2.toNat - 0xDC00) - 0x10000) % 0x400
      = u2.toNat := by omega
  simp only [encodeCharUtf16, combineSurrogates, hc, hhi, hlo, uint16_ofNat_toNat]
  simp only [show ¬ 0x10000 + (u.toNat - 0xD800) * 0x400 + (u2.toNat - 0xDC00) < 0x10000 by omega,
    if_false]

theorem decodeUtf16_encodeCharUtf16_append (c : Char) (rest : List UInt16) :
    decodeUtf16 (encodeCharUtf16 c ++ rest) = .ok c :: decodeUtf16 rest := by
  have hv := char_toNat_valid c
  by_cases hb : c.toNat < 0x10000
  · have hu : (UInt16.ofNat c.toNat).toNat = c.toNat :=
      UInt16.toNat_ofNat_of_lt (by simp only [UInt16.size]; omega)
    have hs : isSurrogate (UInt16.ofNat c.toNat) = false := by simp [isSurrogate, hu]; omega
    simp [encodeCharUtf16, hb, decodeUtf16_cons_of_not_surrogate hs, hu]
  · have hhi : (UInt16.ofNat (0xD800 + (c.toNat - 0x10000) / 0x400)).toNat
        = 0xD800 + (c.toNat - 0x10000) / 0x400 :=
      UInt16.toNat_ofNat_of_lt (by simp only [UInt16.size]; omega)
    have hlo : (UInt16.ofNat (0xDC00 + (c.toNat - 0x10000) % 0x400)).toNat
        = 0xDC00 + (c.toNat - 0x10000) % 0x400 :=
      UInt16.toNat_ofNat_of_lt (by simp only [UInt16.size]; omega)
    have hl : isLeadSurrogate (UInt16.ofNat (0xD800 + (c.toNat - 0x10000) / 0x400)) = true := by
      simp [isLeadSurrogate, hhi]; omega
    have ht : isTrailSurrogate (UInt16.ofNat (0xDC00 + (c.toNat - 0x10000) % 0x400)) = true := by
      simp [isTrailSurrogate, hlo]; omega
    have hc : combineSurrogates (UInt16.ofNat (0xD800 + (c.toNat - 0x10000) / 0x400))
        (UInt16.ofNat (0xDC00 + (c.toNat - 0x10000) % 0x400)) = c := by
      rw [combineSurrogates, hhi, hlo]
      rw [show 0x10000 + (0xD800 + (c.toNat - 0x10000) / 0x400 - 0xD800) * 0x400
          + (0xDC00 + (c.toNat - 0x10000) % 0x400 - 0xDC00) = c.toNat by omega, Char.ofNat_toNat]
    simp [encodeCharUtf16, hb, decodeUtf16_lead_trail hl ht, hc]

/-- `decode_utf16` inverts `encode_utf16`: it decodes every encoded string back,
with no error. -/
theorem decodeUtf16_encodeUtf16 (s : String) : decodeUtf16 (encodeUtf16 s) = s.data.map .ok := by
  unfold encodeUtf16
  induction s.data with
  | nil => rfl
  | cons c cs ih => rw [List.flatMap_cons, decodeUtf16_encodeCharUtf16_append, ih, List.map_cons]

theorem eq_map_ok_cons {c : Char} {tail : List (Except UInt16 Char)} {cs : List Char}
    (h : .ok c :: tail = cs.map .ok) : ∃ cs', cs = c :: cs' ∧ tail = cs'.map .ok := by
  cases cs with
  | nil => cases h
  | cons c' cs' =>
      simp only [List.map_cons, List.cons.injEq, Except.ok.injEq] at h
      exact ⟨cs', by rw [h.1], h.2⟩

theorem flatMap_encode_of_decodeUtf16 (units : List UInt16) (cs : List Char)
    (h : decodeUtf16 units = cs.map .ok) : cs.flatMap encodeCharUtf16 = units := by
  induction units using decodeUtf16.induct generalizing cs with
  | case1 => cases cs <;> simp_all
  | case2 u =>
      rcases unit_cases u with hu | hu | hu
      · rw [decodeUtf16_cons_of_not_surrogate hu] at h
        obtain ⟨cs, rfl, hcs⟩ := eq_map_ok_cons h
        cases cs <;> simp_all [encodeCharUtf16_ofNat hu]
      · rw [decodeUtf16_lead_single hu] at h
        cases cs <;> simp at h
      · rw [decodeUtf16_cons_of_trail hu] at h
        cases cs <;> simp at h
  | case3 u u2 rest hs ih =>
      have hs' : isSurrogate u = false := by simpa using hs
      rw [decodeUtf16_cons_of_not_surrogate hs'] at h
      obtain ⟨cs, rfl, hcs⟩ := eq_map_ok_cons h
      simp [encodeCharUtf16_ofNat hs', ih cs hcs]
  | case4 u u2 rest hs hlow ih =>
      rw [decodeUtf16_cons_of_trail (isTrailSurrogate_of_high hs hlow)] at h
      cases cs <;> simp at h
  | case5 u u2 rest hs hlow hu2 ih =>
      have hl := isLeadSurrogate_of_low hs hlow
      rw [decodeUtf16_lead_trail hl hu2] at h
      obtain ⟨cs, rfl, hcs⟩ := eq_map_ok_cons h
      simp [encodeCharUtf16_combineSurrogates hl hu2, ih cs hcs]
  | case6 u u2 rest hs hlow hu2 ih =>
      simp only [Bool.not_eq_true] at hu2
      rw [decodeUtf16_lead_not_trail (isLeadSurrogate_of_low hs hlow) hu2] at h
      cases cs <;> simp at h

theorem encodeUtf16_injective {s t : String} (h : encodeUtf16 s = encodeUtf16 t) : s = t := by
  have hd := congrArg decodeUtf16 h
  rw [decodeUtf16_encodeUtf16, decodeUtf16_encodeUtf16] at hd
  exact String.ext (List.map_injective_iff.mpr (fun _ _ h => Except.ok.inj h) hd)

end Encode

end NtHive
