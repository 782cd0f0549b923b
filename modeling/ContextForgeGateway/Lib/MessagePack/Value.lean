import ContextForgeGateway.Lib.MessagePack
import ContextForgeGateway.Lib.Serde

/-!
# MessagePack of the data model of serde

`write` is the encoding of a value in which every header is as short as possible, and `readValue`
reads a value at the beginning of its input. The first byte decides what is read (`kind`), so that a
map is read only behind the marker of a map. `readValue_write` is the round trip.
-/

namespace MessagePack

open Serde

/-! ### First bytes -/

/-- `positive fixint`, `uint8` to `uint64`. -/
def uint : HeaderFormat := ⟨0, 128, [(0xcc, 1), (0xcd, 2), (0xce, 4), (0xcf, 8)]⟩

/-- `bin8`, `bin16` and `bin32`. -/
def bin : HeaderFormat := ⟨0xc4, 0, [(0xc4, 1), (0xc5, 2), (0xc6, 4)]⟩

theorem uint_valid : uint.Valid := by constructor <;> decide

theorem bin_valid : bin.Valid := by constructor <;> decide

theorem uint_fits {n : ℕ} (h : n < 2 ^ 64) : uint.Fits n := Or.inr ⟨(0xcf, 8), by decide, h⟩

theorem bin_fits {n : ℕ} (h : n < 2 ^ 32) : bin.Fits n := Or.inr ⟨(0xc6, 4), by decide, h⟩

/-- `int8` to `int64`. -/
def sint : List (ℕ × ℕ) := [(0xd0, 1), (0xd1, 2), (0xd2, 4), (0xd3, 8)]

/-- What a value is, by its first byte. -/
inductive Kind
  | unit
  | bool (b : Bool)
  | uint
  | negative
  | sint
  | float32
  | float64
  | str
  | bytes
  | seq
  | map
  deriving DecidableEq

/-- What begins with the byte `b`. The extension types are not values of the data model. -/
def kind (b : ℕ) : Option Kind :=
  if b < 0x80 then some .uint
  else if b < 0x90 then some .map
  else if b < 0xa0 then some .seq
  else if b < 0xc0 then some .str
  else if b = 0xc0 then some .unit
  else if b = 0xc2 then some (.bool false)
  else if b = 0xc3 then some (.bool true)
  else if 0xc4 ≤ b ∧ b ≤ 0xc6 then some .bytes
  else if b = 0xca then some .float32
  else if b = 0xcb then some .float64
  else if 0xcc ≤ b ∧ b ≤ 0xcf then some .uint
  else if 0xd0 ≤ b ∧ b ≤ 0xd3 then some .sint
  else if 0xd9 ≤ b ∧ b ≤ 0xdb then some .str
  else if b = 0xdc ∨ b = 0xdd then some .seq
  else if b = 0xde ∨ b = 0xdf then some .map
  else if 0xe0 ≤ b then some .negative
  else none

/-- The headers of the format begin with `b`. -/
def HeaderFormat.Owns (format : HeaderFormat) (b : ℕ) : Prop :=
  (format.base ≤ b ∧ b < format.base + format.limit) ∨ b ∈ format.wide.map Prod.fst

instance (format : HeaderFormat) (b : ℕ) : Decidable (format.Owns b) :=
  inferInstanceAs (Decidable ((format.base ≤ b ∧ b < format.base + format.limit) ∨
    b ∈ format.wide.map Prod.fst))

theorem kind_uint : ∀ b < 256, uint.Owns b → kind b = some .uint := by decide +kernel

theorem kind_str : ∀ b < 256, str.Owns b → kind b = some .str := by decide +kernel

theorem kind_bin : ∀ b < 256, bin.Owns b → kind b = some .bytes := by decide +kernel

theorem kind_array : ∀ b < 256, array.Owns b → kind b = some .seq := by decide +kernel

theorem kind_map : ∀ b < 256, map.Owns b → kind b = some .map := by decide +kernel

theorem kind_sint : ∀ b ∈ sint.map Prod.fst, kind b = some .sint := by decide +kernel

theorem kind_negative : ∀ m < 32, kind (255 - m) = some .negative := by decide +kernel

/-- The markers of maps and sequences are not characters of ASCII. -/
theorem ascii_kind : ∀ b < 0x80, kind b = some .uint := by decide +kernel

/-- A header begins with a byte of its format. -/
theorem header_cons {format : HeaderFormat} (h : format.Valid) {n : ℕ} (hn : format.Fits n) :
    ∃ b bs, header format n = b :: bs ∧ format.Owns b.toNat := by
  by_cases hlimit : n < format.limit
  · refine ⟨UInt8.ofNat (format.base + n), [], if_pos hlimit, Or.inl ?_⟩
    have hbyte : (UInt8.ofNat (format.base + n)).toNat = format.base + n :=
      toNat_ofNat_of_lt (by have := h.base_lt; omega)
    rw [hbyte]
    exact ⟨Nat.le_add_right _ _, by omega⟩
  · obtain ⟨marker, hmem, bs, hbs, -⟩ :=
      readWide_wideHeader h.nodup h.marker_lt (hn.resolve_left hlimit) []
    refine ⟨UInt8.ofNat marker, bs, ?_, Or.inr ?_⟩
    · rw [header, if_neg hlimit, hbs]
    · rw [toNat_ofNat_of_lt (h.marker_lt marker hmem)]
      exact hmem

/-! ### Negative numbers -/

/-- The number `-m - 1`, in two's complement behind the first marker that is wide enough. -/
def writeNegative : List (ℕ × ℕ) → ℕ → List UInt8
  | [], _ => []
  | (marker, width) :: wide, m =>
    if 2 * m + 1 < 256 ^ width then UInt8.ofNat marker :: bigEndian width (256 ^ width - 1 - m)
    else writeNegative wide m

/-- The two's complement number of `width` bytes whose unsigned value is `x`. -/
def signed (width x : ℕ) : ℤ :=
  if 2 * x < 256 ^ width then .ofNat x else .negSucc (256 ^ width - 1 - x)

/-- The signed number behind the marker `b`. -/
def readSigned : List (ℕ × ℕ) → UInt8 → List UInt8 → Option (ℤ × List UInt8)
  | [], _, _ => none
  | (marker, width) :: wide, b, bs =>
    if b.toNat = marker then (splitOff width bs).map fun p => (signed width (ofBigEndian p.1), p.2)
    else readSigned wide b bs

theorem signed_complement {width m : ℕ} (h : 2 * m + 1 < 256 ^ width) :
    signed width (256 ^ width - 1 - m) = .negSucc m := by
  have heven : 256 ^ width - 1 - (256 ^ width - 1 - m) = m := by omega
  rw [signed, if_neg (by omega), heven]

theorem readSigned_writeNegative {wide : List (ℕ × ℕ)} (hnodup : (wide.map Prod.fst).Nodup)
    (hlt : ∀ marker ∈ wide.map Prod.fst, marker < 256) {m : ℕ}
    (hm : ∃ e ∈ wide, 2 * m + 1 < 256 ^ e.2) (r : List UInt8) :
    ∃ marker ∈ wide.map Prod.fst, ∃ bs, writeNegative wide m = UInt8.ofNat marker :: bs ∧
      readSigned wide (UInt8.ofNat marker) (bs ++ r) = some (.negSucc m, r) := by
  have hwrite : ∀ marker width wide, 2 * m + 1 < 256 ^ width →
      writeNegative ((marker, width) :: wide) m =
        UInt8.ofNat marker :: bigEndian width (256 ^ width - 1 - m) :=
    fun _ _ _ hw => if_pos hw
  have hread : ∀ marker width wide (b : UInt8), b.toNat = marker → 2 * m + 1 < 256 ^ width →
      readSigned ((marker, width) :: wide) b (bigEndian width (256 ^ width - 1 - m) ++ r) =
        some (.negSucc m, r) := by
    intro marker width wide b hb hw
    have hfits : 256 ^ width - 1 - m < 256 ^ width := by omega
    rw [readSigned, if_pos hb, splitOff_append (length_bigEndian _ _), Option.map_some,
      ofBigEndian_bigEndian hfits, signed_complement hw]
  exact exists_marker (writeNegative · m) hwrite (fun _ _ _ hw => if_neg hw) hread
    (fun _ _ _ _ _ hb => if_neg hb) hnodup hlt hm

/-! ### Writing -/

/-- An integer, in its shortest encoding. -/
def writeInt : ℤ → List UInt8
  | .ofNat n => header uint n
  | .negSucc m => if m < 32 then [UInt8.ofNat (255 - m)] else writeNegative sint m

mutual

/-- The encoding of a value. -/
def write : Value → List UInt8
  | .unit => [0xc0]
  | .bool false => [0xc2]
  | .bool true => [0xc3]
  | .int n => writeInt n
  | .float32 bits => 0xca :: bigEndian 4 bits.toNat
  | .float64 bits => 0xcb :: bigEndian 8 bits.toNat
  | .str s => writeStr (strBytes s)
  | .bytes bs => header bin bs.length ++ bs
  | .seq items => header array items.length ++ writeItems items
  | .map entries => header map entries.length ++ writeEntries entries

def writeItems : List Value → List UInt8
  | [] => []
  | v :: items => write v ++ writeItems items

def writeEntries : List (Value × Value) → List UInt8
  | [] => []
  | (k, v) :: entries => (write k ++ write v) ++ writeEntries entries

end

theorem writeItems_eq (items : List Value) : writeItems items = items.flatMap write := by
  induction items with
  | nil => rw [writeItems, List.flatMap_nil]
  | cons v items ih => rw [writeItems, List.flatMap_cons, ih]

theorem writeEntries_eq (entries : List (Value × Value)) :
    writeEntries entries = entries.flatMap fun e => write e.1 ++ write e.2 := by
  induction entries with
  | nil => rw [writeEntries, List.flatMap_nil]
  | cons e entries ih => rw [writeEntries, List.flatMap_cons, ih]

/-- The lengths and the integers of the value have headers. -/
inductive Writable : Value → Prop
  | unit : Writable .unit
  | bool (b : Bool) : Writable (.bool b)
  | ofNat {n : ℕ} : n < 2 ^ 64 → Writable (.int (.ofNat n))
  | negSucc {m : ℕ} : m < 2 ^ 63 → Writable (.int (.negSucc m))
  | float32 (bits : UInt32) : Writable (.float32 bits)
  | float64 (bits : UInt64) : Writable (.float64 bits)
  | str {s : String} : (strBytes s).length < 2 ^ 32 → Writable (.str s)
  | bytes {bs : List UInt8} : bs.length < 2 ^ 32 → Writable (.bytes bs)
  | seq {items : List Value} : items.length < 2 ^ 32 → (∀ v ∈ items, Writable v) →
    Writable (.seq items)
  | map {entries : List (Value × Value)} : entries.length < 2 ^ 32 →
    (∀ e ∈ entries, Writable e.1) → (∀ e ∈ entries, Writable e.2) → Writable (.map entries)

/-! ### Reading -/

/-- What `read` gives, `n` times. -/
def readMany {α : Type} (read : List UInt8 → Option (α × List UInt8)) :
    ℕ → List UInt8 → Option (List α × List UInt8)
  | 0, bs => some ([], bs)
  | n + 1, bs =>
    (read bs).bind fun p => (readMany read n p.2).map fun q => (p.1 :: q.1, q.2)

/-- A key and a value. -/
def readEntry (read : List UInt8 → Option (Value × List UInt8)) (bs : List UInt8) :
    Option ((Value × Value) × List UInt8) :=
  (read bs).bind fun p => (read p.2).map fun q => ((p.1, q.1), q.2)

/-- The string with the bytes `bs`, if they are UTF-8. -/
def ofStrBytes (bs : List UInt8) : Option String := String.fromUTF8? ⟨bs.toArray⟩

/-- The value at the beginning of the input, and the rest. The first argument bounds the nesting. -/
def readValue : ℕ → List UInt8 → Option (Value × List UInt8)
  | 0, _ => none
  | _ + 1, [] => none
  | fuel + 1, b :: bs =>
    match kind b.toNat with
    | some .unit => some (.unit, bs)
    | some (.bool a) => some (.bool a, bs)
    | some .uint => (readHeader uint (b :: bs)).map fun p => (.int (.ofNat p.1), p.2)
    | some .negative => some (.int (.negSucc (255 - b.toNat)), bs)
    | some .sint => (readSigned sint b bs).map fun p => (.int p.1, p.2)
    | some .float32 =>
      (splitOff 4 bs).map fun p => (.float32 (UInt32.ofNat (ofBigEndian p.1)), p.2)
    | some .float64 =>
      (splitOff 8 bs).map fun p => (.float64 (UInt64.ofNat (ofBigEndian p.1)), p.2)
    | some .str =>
      (readStr (b :: bs)).bind fun p => (ofStrBytes p.1).map fun s => (.str s, p.2)
    | some .bytes =>
      (readHeader bin (b :: bs)).bind fun p =>
        (splitOff p.1 p.2).map fun q => (.bytes q.1, q.2)
    | some .seq =>
      (readHeader array (b :: bs)).bind fun p =>
        (readMany (readValue fuel) p.1 p.2).map fun q => (.seq q.1, q.2)
    | some .map =>
      (readHeader map (b :: bs)).bind fun p =>
        (readMany (readEntry (readValue fuel)) p.1 p.2).map fun q => (.map q.1, q.2)
    | none => none

/-- The value at the beginning of the input. -/
def read (bs : List UInt8) : Option Value := (readValue (bs.length + 1) bs).map Prod.fst

/-! ### The round trip -/

theorem ofStrBytes_strBytes (s : String) : ofStrBytes (strBytes s) = some s := by
  have hbytes : (⟨(strBytes s).toArray⟩ : ByteArray) = s.toByteArray := rfl
  unfold ofStrBytes String.fromUTF8?
  rw [hbytes, dif_pos s.isValidUTF8]
  rfl

theorem readMany_flatMap {α : Type} {read : List UInt8 → Option (α × List UInt8)}
    {write : α → List UInt8} {xs : List α}
    (h : ∀ x ∈ xs, ∀ r, read (write x ++ r) = some (x, r)) (r : List UInt8) :
    readMany read xs.length (xs.flatMap write ++ r) = some (xs, r) := by
  induction xs with
  | nil => rfl
  | cons x xs ih =>
    have hx := h x List.mem_cons_self (xs.flatMap write ++ r)
    have hxs := ih fun y hy => h y (List.mem_cons_of_mem _ hy)
    rw [List.flatMap_cons, List.append_assoc, List.length_cons, readMany, hx, Option.bind_some, hxs]
    rfl

/-- An element is not longer than the list in which it is written. -/
theorem length_le_flatMap {α : Type} {f : α → List UInt8} {x : α} {xs : List α} (h : x ∈ xs) :
    (f x).length ≤ (xs.flatMap f).length := by
  have hinfix : f x <:+: xs.flatMap f :=
    List.infix_of_mem_flatten (List.mem_map_of_mem h)
  exact hinfix.length_le

section

variable {fuel n : ℕ} {r : List UInt8}

theorem readValue_uint (hn : n < 2 ^ 64) :
    readValue (fuel + 1) (header uint n ++ r) = some (.int (.ofNat n), r) := by
  obtain ⟨b, bs, hheader, howns⟩ := header_cons uint_valid (uint_fits hn)
  have hread := readHeader_header uint_valid (uint_fits hn) r
  rw [hheader, List.cons_append] at hread ⊢
  rw [readValue, kind_uint b.toNat b.toNat_lt howns]
  simp only [hread, Option.map_some]

theorem readValue_negative {m : ℕ} (hm : m < 2 ^ 63) :
    readValue (fuel + 1) (writeInt (.negSucc m) ++ r) = some (.int (.negSucc m), r) := by
  by_cases hsmall : m < 32
  · have hbyte : (UInt8.ofNat (255 - m)).toNat = 255 - m := toNat_ofNat_of_lt (by omega)
    have hback : 255 - (255 - m) = m := by omega
    rw [writeInt, if_pos hsmall, List.cons_append, List.nil_append, readValue, hbyte,
      kind_negative m hsmall]
    simp only [hback]
  · have hbits : 2 * m + 1 < 256 ^ 8 := by omega
    have hwide : ∃ e ∈ sint, 2 * m + 1 < 256 ^ e.2 := ⟨(0xd3, 8), by decide, hbits⟩
    have hlt : ∀ marker ∈ sint.map Prod.fst, marker < 256 := by decide
    obtain ⟨marker, hmem, bs, hbs, hread⟩ :=
      readSigned_writeNegative (by decide : (sint.map Prod.fst).Nodup) hlt hwide r
    have hbyte := toNat_ofNat_of_lt (hlt marker hmem)
    rw [writeInt, if_neg hsmall, hbs, List.cons_append, readValue, hbyte, kind_sint marker hmem]
    simp only [hread, Option.map_some]

theorem readValue_str {s : String} (hs : (strBytes s).length < 2 ^ 32) :
    readValue (fuel + 1) (writeStr (strBytes s) ++ r) = some (.str s, r) := by
  obtain ⟨b, bs, hheader, howns⟩ := header_cons str_valid (str_fits hs)
  have hread := readStr_writeStr hs r
  rw [writeStr, hheader, List.cons_append, List.cons_append] at hread ⊢
  rw [readValue, kind_str b.toNat b.toNat_lt howns]
  simp only [hread, Option.bind_some, ofStrBytes_strBytes, Option.map_some]

theorem readValue_bytes {s : List UInt8} (hs : s.length < 2 ^ 32) :
    readValue (fuel + 1) (header bin s.length ++ s ++ r) = some (.bytes s, r) := by
  obtain ⟨b, bs, hheader, howns⟩ := header_cons bin_valid (bin_fits hs)
  have hread := readHeader_header bin_valid (bin_fits hs) (s ++ r)
  rw [List.append_assoc]
  rw [hheader, List.cons_append] at hread ⊢
  rw [readValue, kind_bin b.toNat b.toNat_lt howns]
  simp only [hread, Option.bind_some, splitOff_append rfl, Option.map_some]

theorem readValue_seq {items : List Value} (hlen : items.length < 2 ^ 32)
    (h : ∀ v ∈ items, ∀ r, readValue fuel (write v ++ r) = some (v, r)) :
    readValue (fuel + 1) (write (.seq items) ++ r) = some (.seq items, r) := by
  obtain ⟨b, bs, hheader, howns⟩ := header_cons array_valid (array_fits hlen)
  have hread := readHeader_header array_valid (array_fits hlen) (items.flatMap write ++ r)
  rw [write, writeItems_eq, List.append_assoc]
  rw [hheader, List.cons_append] at hread ⊢
  rw [readValue, kind_array b.toNat b.toNat_lt howns]
  simp only [hread, Option.bind_some, readMany_flatMap h, Option.map_some]

theorem readValue_map {entries : List (Value × Value)} (hlen : entries.length < 2 ^ 32)
    (hkey : ∀ e ∈ entries, ∀ r, readValue fuel (write e.1 ++ r) = some (e.1, r))
    (hvalue : ∀ e ∈ entries, ∀ r, readValue fuel (write e.2 ++ r) = some (e.2, r)) :
    readValue (fuel + 1) (write (.map entries) ++ r) = some (.map entries, r) := by
  obtain ⟨b, bs, hheader, howns⟩ := header_cons map_valid (map_fits hlen)
  have hentry : ∀ e ∈ entries, ∀ r,
      readEntry (readValue fuel) (write e.1 ++ write e.2 ++ r) = some (e, r) := by
    intro e he r
    rw [readEntry, List.append_assoc, hkey e he, Option.bind_some, hvalue e he]
    rfl
  have hread := readHeader_header map_valid (map_fits hlen)
    ((entries.flatMap fun e => write e.1 ++ write e.2) ++ r)
  rw [write, writeEntries_eq, List.append_assoc]
  rw [hheader, List.cons_append] at hread ⊢
  rw [readValue, kind_map b.toNat b.toNat_lt howns]
  simp only [hread, Option.bind_some, readMany_flatMap hentry, Option.map_some]

theorem readValue_float32 (bits : UInt32) :
    readValue (fuel + 1) (write (.float32 bits) ++ r) = some (.float32 bits, r) := by
  have hbits : bits.toNat < 256 ^ 4 := bits.toNat_lt
  have hkind : kind (0xca : UInt8).toNat = some .float32 := rfl
  rw [write, List.cons_append, readValue, hkind]
  simp only [splitOff_append (length_bigEndian 4 bits.toNat), Option.map_some,
    ofBigEndian_bigEndian hbits, UInt32.ofNat_toNat]

theorem readValue_float64 (bits : UInt64) :
    readValue (fuel + 1) (write (.float64 bits) ++ r) = some (.float64 bits, r) := by
  have hbits : bits.toNat < 256 ^ 8 := bits.toNat_lt
  have hkind : kind (0xcb : UInt8).toNat = some .float64 := rfl
  rw [write, List.cons_append, readValue, hkind]
  simp only [splitOff_append (length_bigEndian 8 bits.toNat), Option.map_some,
    ofBigEndian_bigEndian hbits, UInt64.ofNat_toNat]

end

theorem length_header_pos {format : HeaderFormat} (h : format.Valid) {n : ℕ} (hn : format.Fits n) :
    0 < (header format n).length := by
  obtain ⟨b, bs, hheader, -⟩ := header_cons h hn
  rw [hheader]
  exact Nat.succ_pos _

/-- What is written is read back, whatever is behind it. -/
theorem readValue_write {v : Value} (h : Writable v) {fuel : ℕ} (hfuel : (write v).length ≤ fuel)
    (r : List UInt8) : readValue (fuel + 1) (write v ++ r) = some (v, r) := by
  induction h generalizing fuel r with
  | unit =>
    rw [write]
    rfl
  | bool b =>
    cases b with
    | false => rw [write]; rfl
    | true => rw [write]; rfl
  | ofNat hn =>
    rw [write]
    exact readValue_uint hn
  | negSucc hm =>
    rw [write]
    exact readValue_negative hm
  | float32 bits => exact readValue_float32 bits
  | float64 bits => exact readValue_float64 bits
  | str hs =>
    rw [write]
    exact readValue_str hs
  | bytes hs =>
    rw [write]
    exact readValue_bytes hs
  | @seq items hlen _ ih =>
    apply readValue_seq hlen
    intro v hv r
    -- the header takes one byte at least, and so one level of nesting
    have hheader := length_header_pos array_valid (array_fits hlen)
    have hle := length_le_flatMap (f := write) hv
    rw [write, writeItems_eq, List.length_append] at hfuel
    obtain ⟨fuel, rfl⟩ : ∃ k, fuel = k + 1 := Nat.exists_eq_add_one.2 (by omega)
    exact ih v hv (by omega) r
  | @map entries hlen _ _ ihkey ihvalue =>
    have hheader := length_header_pos map_valid (map_fits hlen)
    rw [write, writeEntries_eq, List.length_append] at hfuel
    obtain ⟨fuel, rfl⟩ : ∃ k, fuel = k + 1 := Nat.exists_eq_add_one.2 (by omega)
    have hentry : ∀ e ∈ entries, (write e.1).length + (write e.2).length ≤ fuel := by
      intro e he
      have hle := length_le_flatMap (f := fun e : Value × Value => write e.1 ++ write e.2) he
      rw [List.length_append] at hle
      omega
    apply readValue_map hlen
    · intro e he r
      have hle := hentry e he
      exact ihkey e he (by omega) r
    · intro e he r
      have hle := hentry e he
      exact ihvalue e he (by omega) r

theorem read_write {v : Value} (h : Writable v) : read (write v) = some v := by
  have hread := readValue_write h (Nat.le_refl _) []
  rw [List.append_nil] at hread
  rw [read, hread]
  rfl

/-! ### Where maps and sequences begin -/

/-- The values whose first byte is a marker of their own. -/
def container : Value → Option Kind
  | .seq _ => some .seq
  | .map _ => some .map
  | _ => none

/-- A sequence or a map is read only behind the marker of one. -/
theorem kind_of_read {bs : List UInt8} {v : Value} {k : Kind} (h : read bs = some v)
    (hv : container v = some k) : ∃ b rest, bs = b :: rest ∧ kind b.toNat = some k := by
  obtain ⟨⟨_, r⟩, hread, rfl⟩ := Option.map_eq_some_iff.1 h
  rcases bs with _ | ⟨b, rest⟩
  · cases hread
  · refine ⟨b, rest, rfl, ?_⟩
    rw [readValue] at hread
    rcases hkind : kind b.toNat with _ | k'
    · rw [hkind] at hread
      cases hread
    · rw [hkind] at hread
      cases k' <;>
        simp only [Option.map_eq_some_iff, Option.bind_eq_some_iff, Option.some.injEq,
          Prod.mk.injEq] at hread
      all_goals grind [container]

end MessagePack
