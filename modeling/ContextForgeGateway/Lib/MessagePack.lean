import Mathlib.Data.List.Basic
import Mathlib.Data.List.Induction
import Mathlib.Data.Nat.Notation
import Mathlib.Algebra.Ring.Nat

/-!
# MessagePack

Strings, arrays and maps of the MessagePack format are written as a header that holds a length, and
what it is the length of. A header is one byte for a small length (`base + n`), and otherwise a marker
with the length in big-endian bytes behind it, in the first width that is enough.

* `HeaderFormat` is one such family of headers, and `readHeader_header` reads a header back.
* `writeStr`, `writeStrs` are a string and an array of strings; `readStr_writeStr` and
  `writeStrs_injective` say that what is written determines what it was written from.
-/

namespace MessagePack

/-! ### Big-endian numbers -/

/-- The last `w` bytes of `n`, the most significant one first. -/
def bigEndian : ℕ → ℕ → List UInt8
  | 0, _ => []
  | w + 1, n => bigEndian w (n / 256) ++ [UInt8.ofNat n]

/-- The number with the bytes `bs`. -/
def ofBigEndian (bs : List UInt8) : ℕ := bs.foldl (fun n b => 256 * n + b.toNat) 0

@[simp] theorem length_bigEndian (w n : ℕ) : (bigEndian w n).length = w := by
  induction w generalizing n with
  | zero => rfl
  | succ w ih => rw [bigEndian, List.length_append, ih, List.length_singleton]

theorem ofBigEndian_bigEndian {w n : ℕ} (h : n < 256 ^ w) : ofBigEndian (bigEndian w n) = n := by
  induction w generalizing n with
  | zero =>
    rw [Nat.pow_zero] at h
    obtain rfl : n = 0 := by omega
    rfl
  | succ w ih =>
    have hdiv : n / 256 < 256 ^ w := by
      rw [Nat.pow_succ] at h
      exact Nat.div_lt_of_lt_mul (by omega)
    have hmod : (UInt8.ofNat n).toNat = n % 256 := UInt8.toNat_ofNat'
    have hrec := ih hdiv
    rw [ofBigEndian] at hrec
    rw [bigEndian, ofBigEndian, List.foldl_append, hrec, List.foldl_cons, List.foldl_nil, hmod]
    exact Nat.div_add_mod n 256

/-! ### Headers -/

/-- Lengths below `limit` are written as `base + n`; the others as the first marker of `wide` whose
number of bytes is enough, with these bytes behind it. -/
structure HeaderFormat where
  base : ℕ
  limit : ℕ
  wide : List (ℕ × ℕ)

/-- `fixstr`, `str8`, `str16` and `str32`. -/
def str : HeaderFormat := ⟨0xa0, 32, [(0xd9, 1), (0xda, 2), (0xdb, 4)]⟩

/-- `fixarray`, `array16` and `array32`. -/
def array : HeaderFormat := ⟨0x90, 16, [(0xdc, 2), (0xdd, 4)]⟩

/-- `fixmap`, `map16` and `map32`. -/
def map : HeaderFormat := ⟨0x80, 16, [(0xde, 2), (0xdf, 4)]⟩

/-- The markers are bytes, different from one another and from the one-byte headers. -/
structure HeaderFormat.Valid (format : HeaderFormat) : Prop where
  nodup : (format.wide.map Prod.fst).Nodup
  base_lt : format.base + format.limit ≤ 256
  marker_lt : ∀ marker ∈ format.wide.map Prod.fst, marker < 256
  disjoint : ∀ marker ∈ format.wide.map Prod.fst,
    marker < format.base ∨ format.base + format.limit ≤ marker

theorem str_valid : str.Valid := by constructor <;> decide

theorem array_valid : array.Valid := by constructor <;> decide

theorem map_valid : map.Valid := by constructor <;> decide

/-- The first `n` bytes and the rest, if there are as many. -/
def splitOff (n : ℕ) (bs : List UInt8) : Option (List UInt8 × List UInt8) :=
  if n ≤ bs.length then some (bs.take n, bs.drop n) else none

theorem splitOff_append {n : ℕ} {s : List UInt8} (h : s.length = n) (r : List UInt8) :
    splitOff n (s ++ r) = some (s, r) := by
  have hle : n ≤ (s ++ r).length := by
    rw [List.length_append]
    omega
  rw [splitOff, if_pos hle, List.take_left' h, List.drop_left' h]

/-- A length with its marker. -/
def wideHeader : List (ℕ × ℕ) → ℕ → List UInt8
  | [], _ => []
  | (marker, width) :: wide, n =>
    if n < 256 ^ width then UInt8.ofNat marker :: bigEndian width n else wideHeader wide n

/-- The header of the length `n`. -/
def header (format : HeaderFormat) (n : ℕ) : List UInt8 :=
  if n < format.limit then [UInt8.ofNat (format.base + n)] else wideHeader format.wide n

/-- The length behind the marker `b`. -/
def readWide : List (ℕ × ℕ) → UInt8 → List UInt8 → Option (ℕ × List UInt8)
  | [], _, _ => none
  | (marker, width) :: wide, b, bs =>
    if b.toNat = marker then (splitOff width bs).map fun p => (ofBigEndian p.1, p.2)
    else readWide wide b bs

/-- The length at the beginning of the input, and the rest. -/
def readHeader (format : HeaderFormat) : List UInt8 → Option (ℕ × List UInt8)
  | [] => none
  | b :: bs =>
    if format.base ≤ b.toNat ∧ b.toNat < format.base + format.limit then
      some (b.toNat - format.base, bs)
    else readWide format.wide b bs

theorem toNat_ofNat_of_lt {n : ℕ} (h : n < 256) : (UInt8.ofNat n).toNat = n := by
  rw [UInt8.toNat_ofNat']
  exact Nat.mod_eq_of_lt h

/-- What is written behind the first marker that is wide enough is read back, if the reader takes
what is behind the first marker that it meets. -/
theorem exists_marker {α : Type} (write : List (ℕ × ℕ) → List UInt8)
    {read : List (ℕ × ℕ) → UInt8 → List UInt8 → Option (α × List UInt8)} {fits : ℕ → Prop}
    {bytes : ℕ → List UInt8} {x : α} {r : List UInt8}
    (hwrite : ∀ marker width wide, fits width →
      write ((marker, width) :: wide) = UInt8.ofNat marker :: bytes width)
    (hnarrow : ∀ marker width wide, ¬ fits width → write ((marker, width) :: wide) = write wide)
    (hread : ∀ marker width wide b, b.toNat = marker → fits width →
      read ((marker, width) :: wide) b (bytes width ++ r) = some (x, r))
    (hskip : ∀ marker width wide b bs, b.toNat ≠ marker →
      read ((marker, width) :: wide) b bs = read wide b bs)
    {wide : List (ℕ × ℕ)} (hnodup : (wide.map Prod.fst).Nodup)
    (hlt : ∀ marker ∈ wide.map Prod.fst, marker < 256) (hwide : ∃ e ∈ wide, fits e.2) :
    ∃ marker ∈ wide.map Prod.fst, ∃ bs, write wide = UInt8.ofNat marker :: bs ∧
      read wide (UInt8.ofNat marker) (bs ++ r) = some (x, r) := by
  induction wide with
  | nil =>
    obtain ⟨e, he, -⟩ := hwide
    cases he
  | cons e wide ih =>
    obtain ⟨marker, width⟩ := e
    rw [List.map_cons] at hnodup hlt ⊢
    obtain ⟨hnot, hnodup⟩ := List.nodup_cons.1 hnodup
    by_cases hw : fits width
    · have hmarker := toNat_ofNat_of_lt (hlt marker List.mem_cons_self)
      exact ⟨marker, List.mem_cons_self, bytes width, hwrite marker width wide hw,
        hread marker width wide _ hmarker hw⟩
    · obtain ⟨e, he, hfits⟩ := hwide
      have he' : e ∈ wide := by
        rcases List.mem_cons.1 he with rfl | he'
        · exact absurd hfits hw
        · exact he'
      obtain ⟨marker', hmem, bs, hbs, hbsRead⟩ :=
        ih hnodup (fun m hm => hlt m (List.mem_cons_of_mem _ hm)) ⟨e, he', hfits⟩
      refine ⟨marker', List.mem_cons_of_mem _ hmem, bs, ?_, ?_⟩
      · rw [hnarrow marker width wide hw, hbs]
      · have hne : (UInt8.ofNat marker').toNat ≠ marker := by
          rw [toNat_ofNat_of_lt (hlt marker' (List.mem_cons_of_mem _ hmem))]
          rintro rfl
          exact hnot hmem
        rw [hskip marker width wide _ _ hne, hbsRead]

theorem readWide_wideHeader {wide : List (ℕ × ℕ)} (hnodup : (wide.map Prod.fst).Nodup)
    (hlt : ∀ marker ∈ wide.map Prod.fst, marker < 256) {n : ℕ} (hn : ∃ e ∈ wide, n < 256 ^ e.2)
    (r : List UInt8) :
    ∃ marker ∈ wide.map Prod.fst, ∃ bs, wideHeader wide n = UInt8.ofNat marker :: bs ∧
      readWide wide (UInt8.ofNat marker) (bs ++ r) = some (n, r) := by
  have hwrite : ∀ marker width wide, n < 256 ^ width →
      wideHeader ((marker, width) :: wide) n = UInt8.ofNat marker :: bigEndian width n :=
    fun _ _ _ hw => if_pos hw
  have hread : ∀ marker width wide (b : UInt8), b.toNat = marker → n < 256 ^ width →
      readWide ((marker, width) :: wide) b (bigEndian width n ++ r) = some (n, r) := by
    intro marker width wide b hb hw
    rw [readWide, if_pos hb, splitOff_append (length_bigEndian width n), Option.map_some,
      ofBigEndian_bigEndian hw]
  exact exists_marker (wideHeader · n) hwrite (fun _ _ _ hw => if_neg hw) hread
    (fun _ _ _ _ _ hb => if_neg hb) hnodup hlt hn

/-- There is a header for the length `n`. -/
def HeaderFormat.Fits (format : HeaderFormat) (n : ℕ) : Prop :=
  n < format.limit ∨ ∃ e ∈ format.wide, n < 256 ^ e.2

theorem str_fits {n : ℕ} (h : n < 2 ^ 32) : str.Fits n := Or.inr ⟨(0xdb, 4), by decide, h⟩

theorem array_fits {n : ℕ} (h : n < 2 ^ 32) : array.Fits n := Or.inr ⟨(0xdd, 4), by decide, h⟩

theorem map_fits {n : ℕ} (h : n < 2 ^ 32) : map.Fits n := Or.inr ⟨(0xdf, 4), by decide, h⟩

/-- A header is read back, whatever is behind it. -/
theorem readHeader_header {format : HeaderFormat} (h : format.Valid) {n : ℕ}
    (hn : format.Fits n) (r : List UInt8) :
    readHeader format (header format n ++ r) = some (n, r) := by
  by_cases hlimit : n < format.limit
  · have hbyte : (UInt8.ofNat (format.base + n)).toNat = format.base + n :=
      toNat_ofNat_of_lt (by have := h.base_lt; omega)
    rw [header, if_pos hlimit, List.cons_append, List.nil_append, readHeader, hbyte,
      if_pos ⟨Nat.le_add_right _ _, by omega⟩, Nat.add_sub_cancel_left]
  · obtain ⟨marker, hmem, bs, hbs, hread⟩ :=
      readWide_wideHeader h.nodup h.marker_lt (hn.resolve_left hlimit) r
    have hbyte := toNat_ofNat_of_lt (h.marker_lt marker hmem)
    have hout := h.disjoint marker hmem
    rw [header, if_neg hlimit, hbs, List.cons_append, readHeader, if_neg (by omega), hread]

/-! ### Strings -/

/-- The string with the bytes `s`. -/
def writeStr (s : List UInt8) : List UInt8 := header str s.length ++ s

/-- The string at the beginning of the input, and the rest. -/
def readStr (bs : List UInt8) : Option (List UInt8 × List UInt8) :=
  (readHeader str bs).bind fun p => splitOff p.1 p.2

theorem readStr_writeStr {s : List UInt8} (h : s.length < 2 ^ 32) (r : List UInt8) :
    readStr (writeStr s ++ r) = some (s, r) := by
  rw [readStr, writeStr, List.append_assoc, readHeader_header str_valid (str_fits h), Option.bind_some,
    splitOff_append rfl]

/-- Where a string ends can be told from its bytes. -/
theorem writeStr_append_inj {s t : List UInt8} (hs : s.length < 2 ^ 32) (ht : t.length < 2 ^ 32)
    {r q : List UInt8} (h : writeStr s ++ r = writeStr t ++ q) : s = t ∧ r = q := by
  have hread := readStr_writeStr hs r
  rw [h, readStr_writeStr ht] at hread
  cases hread
  exact ⟨rfl, rfl⟩

/-- An array of strings. -/
def writeStrs (ss : List (List UInt8)) : List UInt8 := header array ss.length ++ ss.flatMap writeStr

theorem flatMap_writeStr_inj {ss ts : List (List UInt8)} (hs : ∀ s ∈ ss, s.length < 2 ^ 32)
    (ht : ∀ t ∈ ts, t.length < 2 ^ 32) (hlen : ss.length = ts.length)
    (h : ss.flatMap writeStr = ts.flatMap writeStr) : ss = ts := by
  induction ss generalizing ts with
  | nil => exact (List.eq_nil_of_length_eq_zero hlen.symm).symm
  | cons s ss ih =>
    cases ts with
    | nil => cases hlen
    | cons t ts =>
      rw [List.flatMap_cons, List.flatMap_cons] at h
      obtain ⟨rfl, hrest⟩ := writeStr_append_inj (hs s List.mem_cons_self)
        (ht t List.mem_cons_self) h
      rw [ih (fun s' hs' => hs s' (List.mem_cons_of_mem _ hs'))
        (fun t' ht' => ht t' (List.mem_cons_of_mem _ ht')) (Nat.succ.inj hlen) hrest]

/-- Different arrays of strings are written differently. -/
theorem writeStrs_injective {ss ts : List (List UInt8)} (hs : ∀ s ∈ ss, s.length < 2 ^ 32)
    (ht : ∀ t ∈ ts, t.length < 2 ^ 32) (hslen : ss.length < 2 ^ 32) (htlen : ts.length < 2 ^ 32)
    (h : writeStrs ss = writeStrs ts) : ss = ts := by
  have hread := readHeader_header array_valid (array_fits hslen) (ss.flatMap writeStr)
  rw [← writeStrs, h, writeStrs, readHeader_header array_valid (array_fits htlen)] at hread
  obtain ⟨hlen, hrest⟩ := Prod.mk.inj (Option.some.inj hread)
  exact flatMap_writeStr_inj hs ht hlen.symm hrest.symm

end MessagePack
