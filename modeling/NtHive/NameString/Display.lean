import NtHive.NameString.Convert

namespace NtHive

/-- `fmt::Alignment`, the side a format spec pads on. -/
inductive Alignment
  | left
  | right
  | center
  deriving DecidableEq, Repr

/-- The parts of `fmt::Formatter` that `Display` for `char` reads and writes: the options of the
format spec and the text written so far. The output is a `String`, as in `to_string`, whose
`write_str` never fails, so no `?` in the name's `fmt` returns early. -/
structure Formatter where
  fill : Char
  align : Option Alignment
  width : Option Nat
  precision : Option Nat
  out : String

/-- `Formatter::new` on an empty `String`, as `ToString::to_string` builds it: fill `' '`, and no
alignment, width or precision. -/
def Formatter.new : Formatter := ⟨' ', none, none, none, ""⟩

/-- `Formatter::write_char`. -/
def Formatter.writeChar (f : Formatter) (c : Char) : Formatter := { f with out := f.out.push c }

/-- `Formatter::write_str`. -/
def Formatter.writeStr (f : Formatter) (s : String) : Formatter := { f with out := f.out ++ s }

/-- `Formatter::pad` of `core`: cut `s` to `precision` characters, then pad it with `fill` up to
`width` characters, on the side `align` gives, or on the right when it gives none. -/
def Formatter.pad (f : Formatter) (s : String) : Formatter :=
  let s : String := match f.precision with
    | some max => ⟨s.data.take max⟩
    | none => s
  match f.width with
  | none => f.writeStr s
  | some width =>
    if width ≤ s.length then f.writeStr s
    else
      let padding := width - s.length
      let (prePad, postPad) := match f.align.getD .left with
        | .left => (0, padding)
        | .right => (padding, 0)
        | .center => (padding / 2, (padding + 1) / 2)
      ((f.writeStr ⟨List.replicate prePad f.fill⟩).writeStr s).writeStr
        ⟨List.replicate postPad f.fill⟩

/-- `Display` for `char`: the character itself, or through `pad` when the spec has a width or a
precision. -/
def charFmt (c : Char) (f : Formatter) : Formatter :=
  if f.width.isNone && f.precision.isNone then f.writeChar c else f.pad (String.singleton c)

namespace NtHiveNameString

/-- `Display::fmt`: each character in turn through `Display` for `char`; the bytes of a Latin1
name as `*byte as char`, a UTF-16LE name decoded with replacement characters. -/
def fmt (self : NtHiveNameString) (f : Formatter) : Formatter :=
  match self with
  | .latin1 bytes => bytes.foldl (fun f byte => charFmt (latin1Char byte) f) f
  | .utf16LE bytes =>
    (decodeUtf16Lossy (utf16leIter bytes)).foldl (fun f singleChar => charFmt singleChar f) f

/-- `ToString::to_string`, which `Display` provides: `fmt` into a new formatter. -/
def toString (self : NtHiveNameString) : String := (self.fmt Formatter.new).out

end NtHiveNameString

section Write

variable {f : Formatter}

theorem pad_eq_append (f : Formatter) (s : String) :
    f.pad s = { f with out := f.out ++ (({ f with out := "" } : Formatter).pad s).out } := by
  obtain ⟨fill, align, width, precision, out⟩ := f
  cases width with
  | none => simp [Formatter.pad, Formatter.writeStr]
  | some w =>
      simp only [Formatter.pad, Formatter.writeStr]
      split_ifs
      · simp
      · split <;> simp [String.append_assoc]

theorem charFmt_eq_append (c : Char) (f : Formatter) :
    charFmt c f = { f with out := f.out ++ (charFmt c { f with out := "" }).out } := by
  by_cases h : (f.width.isNone && f.precision.isNone) = true
  · simp [charFmt, h, Formatter.writeChar, String.ext_iff]
  · simp only [charFmt, h, if_false, Bool.false_eq_true]
    exact pad_eq_append f _

theorem foldl_charFmt (cs : List Char) (f : Formatter) :
    cs.foldl (fun f c => charFmt c f) f = { f with out := ⟨f.out.data ++
      cs.flatMap fun c => (charFmt c { f with out := "" }).out.data⟩ } := by
  induction cs generalizing f with
  | nil => simp
  | cons c cs ih =>
      rw [List.foldl_cons, ih, charFmt_eq_append c f]
      simp

theorem charFmt_plain {c : Char} (hw : f.width = none) (hp : f.precision = none) :
    (charFmt c f).out = f.out.push c := by
  simp [charFmt, hw, hp, Formatter.writeChar]

theorem length_charFmt_of_width {c : Char} {w : Nat} (hw : f.width = some w)
    (hp : f.precision = none) : (charFmt c f).out.length = f.out.length + max w 1 := by
  simp only [charFmt, hw, hp, Option.isNone_some, Bool.false_and, Bool.false_eq_true, if_false,
    Formatter.pad, Formatter.writeStr]
  split_ifs with h
  · simp [String.singleton] at h ⊢
    omega
  · split <;> simp [String.singleton] at * <;> omega

theorem charFmt_of_precision {c : Char} {p : Nat} (hw : f.width = none)
    (hp : f.precision = some p) : (charFmt c f).out.data = f.out.data ++ if p = 0 then [] else [c] := by
  cases p <;> simp [charFmt, hw, hp, Formatter.pad, Formatter.writeStr, String.singleton]

theorem length_flatMap_of_length {g : Char → List Char} {m : Nat} (h : ∀ c, (g c).length = m)
    (cs : List Char) : (cs.flatMap g).length = cs.length * m := by
  induction cs with
  | nil => simp
  | cons c cs ih => rw [List.flatMap_cons, List.length_append, h, ih, List.length_cons, Nat.succ_mul,
      Nat.add_comm]

theorem fmt_eq_foldl (n : NtHiveNameString) (f : Formatter) :
    n.fmt f = n.toStringLossy.data.foldl (fun f c => charFmt c f) f := by
  cases n with
  | latin1 bytes => simp [NtHiveNameString.fmt, NtHiveNameString.toStringLossy, List.foldl_map]
  | utf16LE bytes => rfl

end Write

namespace NtHiveNameString

theorem eq_toStringLossy_of_toStringChecked {n : NtHiveNameString} {s : String}
    (h : n.toStringChecked = some s) : s = n.toStringLossy := by
  cases n with
  | latin1 bytes => exact (Option.some.inj h).symm
  | utf16LE bytes =>
      simp only [toStringChecked, Option.map_eq_some', mapM_toOption_eq_some] at h
      obtain ⟨cs, hcs, rfl⟩ := h
      simp [toStringLossy, decodeUtf16Lossy, hcs, Function.comp_def, unwrapOrReplacementCharacter]

/-- A name's `Display`, with no width and no precision, writes `to_string_lossy`, so
`to_string` is `to_string_lossy`; `to_string_checked` returns nothing else, and for a Latin1 name
it always returns. -/
theorem display_and_toStringChecked_agree_with_toStringLossy (n : NtHiveNameString) :
    (∀ f : Formatter, f.width = none → f.precision = none →
      n.fmt f = { f with out := f.out ++ n.toStringLossy }) ∧
    n.toString = n.toStringLossy ∧
    (∀ s, n.toStringChecked = some s → s = n.toStringLossy) ∧
    (∀ bytes, n = .latin1 bytes → n.toStringChecked ≠ none) := by
  have hplain : ∀ f : Formatter, f.width = none → f.precision = none →
      n.fmt f = { f with out := f.out ++ n.toStringLossy } := fun f hw hp => by
    simp [fmt_eq_foldl, foldl_charFmt, @charFmt_plain { f with out := "" } _ hw hp,
      String.ext_iff]
  refine ⟨hplain, ?_, fun _ => eq_toStringLossy_of_toStringChecked, ?_⟩
  · rw [toString, hplain _ rfl rfl]
    exact String.ext (List.nil_append _)
  · rintro bytes rfl
    simp [toStringChecked]

/-- A name's `Display` hands each character on its own to `char`'s `fmt`, with the whole format
spec: with a width `w` and no precision it writes `max w 1` characters for every character of
`to_string_lossy`, so it pads each character instead of the name. -/
theorem fmt_formats_each_character (n : NtHiveNameString) (f : Formatter) :
    n.fmt f = { f with out := ⟨f.out.data ++
      n.toStringLossy.data.flatMap fun c => (charFmt c { f with out := "" }).out.data⟩ } ∧
    ∀ w, f.width = some w → f.precision = none →
      (n.fmt f).out.length = f.out.length + n.toStringLossy.length * max w 1 := by
  refine ⟨by rw [fmt_eq_foldl, foldl_charFmt], fun w hw hp => ?_⟩
  have hc : ∀ c, (charFmt c { f with out := "" }).out.data.length = max w 1 := fun c =>
    (@length_charFmt_of_width { f with out := "" } c w hw hp).trans (Nat.zero_add _)
  rw [fmt_eq_foldl, foldl_charFmt]
  exact (List.length_append _ _).trans (congrArg _ (length_flatMap_of_length hc _))

example : ((latin1 [0x61, 0x62]).fmt ⟨' ', some .right, some 3, none, ""⟩).out = "  a  b" := by
  decide

/-- A precision does not cut a name short, as it would a `str`: `Display` hands it to each
character, so with no width, a precision of at least one writes the whole of
`to_string_lossy`, and a precision of zero writes nothing. -/
theorem fmt_precision_keeps_whole_name (n : NtHiveNameString) {f : Formatter}
    (hw : f.width = none) {p : Nat} (hp : f.precision = some p) :
    n.fmt f = if p = 0 then f else { f with out := f.out ++ n.toStringLossy } := by
  have hc : ∀ c, (charFmt c { f with out := "" }).out.data = if p = 0 then [] else [c] :=
    fun c => (@charFmt_of_precision { f with out := "" } c p hw hp).trans (List.nil_append _)
  rw [fmt_eq_foldl, foldl_charFmt]
  by_cases h0 : p = 0
  · rw [if_pos h0, List.flatMap_eq_nil_iff.mpr fun c _ => (hc c).trans (if_pos h0),
      List.append_nil]
  · simp only [hc, if_neg h0, List.flatMap_singleton']
    rfl

theorem fmt_precision_keeps_whole_name_of_three :
    (⟨' ', none, none, some 3, ""⟩ : Formatter).width = none ∧
      (⟨' ', none, none, some 3, ""⟩ : Formatter).precision = some 3 ∧
      (latin1 [0x61, 0x62, 0x63, 0x64]).fmt ⟨' ', none, none, some 3, ""⟩ =
        if 3 = 0 then ⟨' ', none, none, some 3, ""⟩ else
          { (⟨' ', none, none, some 3, ""⟩ : Formatter) with
            out := "" ++ (latin1 [0x61, 0x62, 0x63, 0x64]).toStringLossy } :=
  ⟨rfl, rfl, fmt_precision_keeps_whole_name _ rfl rfl⟩

end NtHiveNameString

end NtHive
