import Mathlib.Data.List.Infix
import Mathlib.Data.List.Basic

/-!
# Strings, prefixes and byte offsets

The string operations of the standard library that the gateway uses. A string is sliced at byte
offsets of its UTF-8 encoding, and a slice whose ends are out of range or inside a character is a
panic (`none`). `sliceFrom_append` is the case that never panics: the text after a matched prefix.
-/

namespace Text

/-- `s.starts_with(p)`. -/
def startsWith (s p : String) : Bool := p.toList.isPrefixOf s.toList

/-- `s.ends_with(p)`. -/
def endsWith (s p : String) : Bool := p.toList.isSuffixOf s.toList

/-- The number of bytes of the UTF-8 encoding. -/
def byteLen : List Char → ℕ
  | [] => 0
  | c :: cs => c.utf8Size + byteLen cs

/-- `s.len()`. -/
def len (s : String) : ℕ := byteLen s.toList

/-- The characters from byte offset `n` on, if a character starts (or the text ends) there. -/
def dropBytes : List Char → ℕ → Option (List Char)
  | cs, 0 => some cs
  | [], _ + 1 => none
  | c :: cs, n + 1 => if c.utf8Size ≤ n + 1 then dropBytes cs (n + 1 - c.utf8Size) else none

/-- The characters before byte offset `n`, if a character starts (or the text ends) there. -/
def takeBytes : List Char → ℕ → Option (List Char)
  | _, 0 => some []
  | [], _ + 1 => none
  | c :: cs, n + 1 =>
    if c.utf8Size ≤ n + 1 then (takeBytes cs (n + 1 - c.utf8Size)).map (c :: ·) else none

/-- `&s[i..]`; `none` is a panic. -/
def sliceFrom (s : String) (i : ℕ) : Option String := (dropBytes s.toList i).map String.ofList

/-- `&s[i..j]`; `none` is a panic. -/
def slice (s : String) (i j : ℕ) : Option String :=
  if i ≤ j then
    ((dropBytes s.toList i).bind fun cs => takeBytes cs (j - i)).map String.ofList
  else none

/-! ### Prefixes and suffixes -/

theorem startsWith_iff {s p : String} : startsWith s p = true ↔ p.toList <+: s.toList := by
  simp [startsWith]

theorem endsWith_iff {s p : String} : endsWith s p = true ↔ p.toList <:+ s.toList := by
  simp [endsWith]

theorem startsWith_append (p t : String) : startsWith (p ++ t) p = true := by
  simp [startsWith_iff]

/-! ### Byte offsets -/

@[simp] theorem byteLen_nil : byteLen [] = 0 := rfl

@[simp] theorem byteLen_cons (c : Char) (cs : List Char) :
    byteLen (c :: cs) = c.utf8Size + byteLen cs := rfl

@[simp] theorem byteLen_append (cs ds : List Char) :
    byteLen (cs ++ ds) = byteLen cs + byteLen ds := by
  induction cs with
  | nil => simp
  | cons c cs ih =>
    rw [List.cons_append, byteLen_cons, byteLen_cons, ih]
    omega

@[simp] theorem dropBytes_zero (cs : List Char) : dropBytes cs 0 = some cs := by
  cases cs <;> rfl

@[simp] theorem takeBytes_zero (cs : List Char) : takeBytes cs 0 = some [] := by
  cases cs <;> rfl

/-- The end of a prefix is a character boundary, and what follows it is the rest. -/
theorem dropBytes_append (cs ds : List Char) : dropBytes (cs ++ ds) (byteLen cs) = some ds := by
  induction cs with
  | nil => simp
  | cons c cs ih =>
    have hc := c.utf8Size_pos
    obtain ⟨k, hk⟩ : ∃ k, byteLen (c :: cs) = k + 1 :=
      Nat.exists_eq_succ_of_ne_zero (by simp; omega)
    rw [List.cons_append, hk, dropBytes, if_pos (by simp at hk; omega), ← hk,
      byteLen_cons, Nat.add_sub_cancel_left, ih]

theorem takeBytes_append (cs ds : List Char) : takeBytes (cs ++ ds) (byteLen cs) = some cs := by
  induction cs with
  | nil => simp
  | cons c cs ih =>
    have hc := c.utf8Size_pos
    obtain ⟨k, hk⟩ : ∃ k, byteLen (c :: cs) = k + 1 :=
      Nat.exists_eq_succ_of_ne_zero (by simp; omega)
    rw [List.cons_append, hk, takeBytes, if_pos (by simp at hk; omega), ← hk,
      byteLen_cons, Nat.add_sub_cancel_left, ih]
    rfl

theorem len_append (s t : String) : len (s ++ t) = len s + len t := by
  unfold len
  rw [String.toList_append, byteLen_append]

theorem sliceFrom_append (p t : String) : sliceFrom (p ++ t) (len p) = some t := by
  simp [sliceFrom, len, dropBytes_append]

/-- Slicing behind a matched prefix does not panic. -/
theorem sliceFrom_isSome {s p : String} (h : startsWith s p = true) :
    (sliceFrom s (len p)).isSome = true := by
  obtain ⟨t, ht⟩ := startsWith_iff.1 h
  simp [sliceFrom, len, ← ht, dropBytes_append]

/-- A slice between two character boundaries is the text between them. -/
theorem slice_append (p m t : String) :
    slice (p ++ m ++ t) (len p) (len p + len m) = some m := by
  simp [slice, len, dropBytes_append, takeBytes_append]

/-! ### The text between a prefix and a suffix -/

theorem byteLen_eq_zero {cs : List Char} (h : byteLen cs = 0) : cs = [] := by
  cases cs with
  | nil => rfl
  | cons c cs =>
    have hc := c.utf8Size_pos
    rw [byteLen_cons] at h
    omega

/-- A prefix and a suffix that fit into a text side by side do not overlap. -/
theorem exists_between {s p t : String} (hp : startsWith s p = true) (ht : endsWith s t = true)
    (hlen : len p + len t ≤ len s) : ∃ m, s = p ++ m ++ t := by
  obtain ⟨u, hu⟩ := startsWith_iff.1 hp
  have htu : t.toList <:+ u := by
    have hs : t.toList <:+ p.toList ++ u := hu ▸ endsWith_iff.1 ht
    rcases List.suffix_or_suffix_of_suffix hs (List.suffix_append p.toList u) with h | h
    · exact h
    · -- the suffix is at least as long as what follows the prefix, so it is all of it
      obtain ⟨v, hv⟩ := h
      have hv0 : byteLen v = 0 := by
        have hlt : len t = byteLen v + byteLen u := by rw [len, ← hv, byteLen_append]
        have hls : len s = len p + byteLen u := by rw [len, ← hu, byteLen_append, len]
        omega
      rw [← hv, byteLen_eq_zero hv0]
      exact List.suffix_refl u
  obtain ⟨m, hm⟩ := htu
  refine ⟨String.ofList m, String.toList_inj.1 ?_⟩
  rw [String.toList_append, String.toList_append, String.toList_ofList, List.append_assoc, hm, hu]

/-- A text that is shorter than a prefix and a suffix of it together is the prefix with only a
part of the suffix behind it. -/
theorem exists_overlap {s p t : String} (hp : startsWith s p = true)
    (ht : endsWith s t = true) (hlen : len s < len p + len t) :
    ∃ k ≤ t.toList.length, s.toList = p.toList ++ t.toList.drop k ∧
      t.toList <:+ p.toList ++ t.toList.drop k := by
  obtain ⟨u, hu⟩ := startsWith_iff.1 hp
  have hts : t.toList <:+ p.toList ++ u := hu ▸ endsWith_iff.1 ht
  have hut : u <:+ t.toList := by
    rcases List.suffix_or_suffix_of_suffix hts (List.suffix_append p.toList u) with h | h
    · -- then the text would be long enough for both
      obtain ⟨v, hv⟩ := h
      have hs : len s = len p + byteLen u := by rw [len, ← hu, byteLen_append, len]
      have hb : byteLen u = byteLen v + len t := by rw [← hv, byteLen_append, len]
      omega
    · exact h
  have hdrop := List.suffix_iff_eq_drop.1 hut
  refine ⟨t.toList.length - u.length, Nat.sub_le _ _, ?_, ?_⟩
  · rw [← hdrop, hu]
  · rw [← hdrop]
    exact hts

end Text
