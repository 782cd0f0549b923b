import Mathlib.Data.List.Infix
import Mathlib.Data.List.Perm.Basic
import Mathlib.Tactic.TypeStar

/-!
# First-match decoding of prefixed words

Every name `n` of a list is given a code word `code n`. A pair `(n, t)` is written as the word
`code n ++ t`, and read back by taking the first name, in some order of the list, whose code word
is a prefix of the input (`decode`). `PrefixFree` says that no code word is a prefix of another
one's.

* `decode_encode`: over a prefix-free list every pair is read back exactly, in any order.
* `prefixFree_iff_decode`: conversely, if every pair is read back in every order, the list is
  prefix free.
* `prefixFree_iff_injOn`: this is also when different pairs are always written differently.
-/

namespace PrefixCode

variable {ι α : Type*} (code : ι → List α)

/-- No code word of the list is a prefix of the code word of another name. -/
def PrefixFree (ns : List ι) : Prop := ∀ n ∈ ns, ∀ m ∈ ns, code n <+: code m → n = m

variable {code}

theorem PrefixFree.perm {ns ms : List ι} (h : PrefixFree code ns) (hp : ms.Perm ns) :
    PrefixFree code ms := fun n hn m hm =>
  h n (hp.mem_iff.1 hn) m (hp.mem_iff.1 hm)

/-- Two code words that are prefixes of one word are comparable, so over a prefix-free list they
belong to the same name. -/
theorem PrefixFree.eq_of_comparable {ns : List ι} (h : PrefixFree code ns) {n m : ι} (hn : n ∈ ns)
    (hm : m ∈ ns) {s : List α} (hns : code n <+: s) (hms : code m <+: s) : n = m := by
  rcases List.prefix_or_prefix_of_prefix hns hms with hc | hc
  · exact h n hn m hm hc
  · exact (h m hm n hn hc).symm

/-- Different pairs are written as different words exactly over prefix-free lists. -/
theorem prefixFree_iff_injOn {ns : List ι} :
    PrefixFree code ns ↔
      ∀ n ∈ ns, ∀ m ∈ ns, ∀ s t, code n ++ s = code m ++ t → n = m ∧ s = t := by
  constructor
  · intro h n hn m hm s t heq
    obtain rfl : n = m :=
      h.eq_of_comparable hn hm (List.prefix_append _ s) (heq ▸ List.prefix_append _ t)
    exact ⟨rfl, List.append_cancel_left heq⟩
  · rintro h n hn m hm ⟨t, ht⟩
    exact (h n hn m hm t [] (by simpa using ht)).1

variable [DecidableEq α] (code)

/-- The first name whose code word is a prefix of `s`, with the rest of `s`. -/
def decode : List ι → List α → Option (ι × List α)
  | [], _ => none
  | n :: ns, s =>
    if code n <+: s then some (n, s.drop (code n).length) else decode ns s

variable {code}

theorem decode_cons_pos {n : ι} {s : List α} (h : code n <+: s) (ns : List ι) :
    decode code (n :: ns) s = some (n, s.drop (code n).length) := if_pos h

theorem decode_cons_neg {n : ι} {s : List α} (h : ¬ code n <+: s) (ns : List ι) :
    decode code (n :: ns) s = decode code ns s := if_neg h

/-- What is read back is a name of the list, and writing it again gives the input. -/
theorem decode_eq_some {ns : List ι} {s t : List α} {n : ι}
    (h : decode code ns s = some (n, t)) : n ∈ ns ∧ s = code n ++ t := by
  induction ns with
  | nil => cases h
  | cons m ns ih =>
    by_cases hm : code m <+: s
    · rw [decode_cons_pos hm] at h
      cases h
      exact ⟨List.mem_cons_self, (List.prefix_iff_eq_append.1 hm).symm⟩
    · rw [decode_cons_neg hm] at h
      exact ⟨List.mem_cons_of_mem _ (ih h).1, (ih h).2⟩

/-- Nothing is read back exactly when no code word is a prefix of the input. -/
theorem decode_eq_none {ns : List ι} {s : List α} :
    decode code ns s = none ↔ ∀ n ∈ ns, ¬ code n <+: s := by
  induction ns with
  | nil => simp [decode]
  | cons m ns ih =>
    by_cases hm : code m <+: s
    · simp [decode_cons_pos hm, hm]
    · simp [decode_cons_neg hm, hm, ih]

theorem decode_encode {ns : List ι} (h : PrefixFree code ns) {n : ι} (hn : n ∈ ns) (t : List α) :
    decode code ns (code n ++ t) = some (n, t) := by
  have hpre : code n <+: code n ++ t := List.prefix_append _ _
  cases hd : decode code ns (code n ++ t) with
  | none => exact absurd hpre (decode_eq_none.1 hd n hn)
  | some p =>
    obtain ⟨m, u⟩ := p
    obtain ⟨hm, hs⟩ := decode_eq_some hd
    obtain rfl : n = m := h.eq_of_comparable hn hm hpre (hs ▸ List.prefix_append _ _)
    rw [List.append_cancel_left hs]

/-- Reading back always works, in every order of the names, exactly over prefix-free lists. -/
theorem prefixFree_iff_decode [DecidableEq ι] {ns : List ι} :
    PrefixFree code ns ↔
      ∀ ms : List ι, ms.Perm ns → ∀ n ∈ ns, ∀ t, decode code ms (code n ++ t) = some (n, t) := by
  constructor
  · intro h ms hp n hn t
    exact decode_encode (h.perm hp) (hp.mem_iff.2 hn) t
  · intro h n hn m hm hpre
    -- in the order that tries `n` first, the code word of `m` is taken for `n`
    have hfirst := decode_cons_pos (hpre.trans (List.prefix_append _ [])) (ns.erase n)
    have hm' := h (n :: ns.erase n) (List.perm_cons_erase hn).symm m hm []
    rw [hm'] at hfirst
    exact (Prod.mk.inj (Option.some.inj hfirst)).1.symm

end PrefixCode
