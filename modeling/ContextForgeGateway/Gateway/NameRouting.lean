import ContextForgeGateway.Gateway.ListedIsCalled
import Mathlib.Data.Finset.Dedup
import Mathlib.Tactic.TFAE

/-!
# When names route back

The backend names of a virtual host are a finite set, and a request sees them in some order of it
(`Enumerates`). Splitting undoes prefixing in every order of the set exactly when prefixing is
injective on it, which is when no name of it begins with another one and a hyphen
(`nameRouting_tfae`).

All three are the prefix-freeness of the code words of the names, said of the splitter, of the
prefixing and of the names themselves.
-/

namespace ContextForge

/-- The list has the names of the set, each of them once. -/
def Enumerates (order : List String) (N : Finset String) : Prop :=
  order.Nodup ∧ ∀ n, n ∈ order ↔ n ∈ N

/-- In every order of the names, both splitters read a prefixed name back. -/
def RoutesBack (N : Finset String) : Prop :=
  ∀ order, Enumerates order N → ∀ b ∈ N, ∀ t,
    splitToolName (prefixName b t) order = some ⟨b, t⟩ ∧
      splitResourceName (prefixName b t) order = some ⟨b, t⟩

/-- Different pairs of a name of the set and a string are prefixed differently. -/
def PrefixingInjective (N : Finset String) : Prop :=
  Set.InjOn (fun pair : String × String => prefixName pair.1 pair.2) {pair | pair.1 ∈ N}

/-- No name of the set begins with another one and a hyphen. -/
def NoNameExtendsAnother (N : Finset String) : Prop :=
  ∀ n ∈ N, ∀ m ∈ N, n ≠ m → Text.startsWith m (n ++ "-") = false

theorem enumerates_iff_perm {order : List String} {N : Finset String} :
    Enumerates order N ↔ order.Perm N.toList := by
  constructor
  · rintro ⟨hnodup, hmem⟩
    refine (List.perm_ext_iff_of_nodup hnodup N.nodup_toList).2 fun n => ?_
    rw [hmem, Finset.mem_toList]
  · intro h
    refine ⟨h.nodup_iff.2 N.nodup_toList, fun n => ?_⟩
    rw [h.mem_iff, Finset.mem_toList]

theorem prefixFree_iff_noNameExtendsAnother {N : Finset String} :
    PrefixCode.PrefixFree backendWord N.toList ↔ NoNameExtendsAnother N := by
  rw [prefixFree_iff_unambiguous]
  simp only [Unambiguous, NoNameExtendsAnother, Finset.mem_toList]

theorem prefixFree_iff_prefixingInjective {N : Finset String} :
    PrefixCode.PrefixFree backendWord N.toList ↔ PrefixingInjective N := by
  rw [PrefixCode.prefixFree_iff_injOn]
  constructor
  · rintro h ⟨n, s⟩ hn ⟨m, t⟩ hm heq
    have hwords : backendWord n ++ s.toList = backendWord m ++ t.toList := by
      rw [← prefixName_toList, ← prefixName_toList]
      exact congrArg String.toList heq
    obtain ⟨rfl, hst⟩ :=
      h n (Finset.mem_toList.2 hn) m (Finset.mem_toList.2 hm) s.toList t.toList hwords
    rw [String.toList_inj.1 hst]
  · intro h n hn m hm s t heq
    have hnames : prefixName n (String.ofList s) = prefixName m (String.ofList t) := by
      rw [← String.toList_inj, prefixName_toList, prefixName_toList, String.toList_ofList,
        String.toList_ofList, heq]
    obtain ⟨rfl, hst⟩ := Prod.mk.inj (@h (n, String.ofList s) (Finset.mem_toList.1 hn)
      (m, String.ofList t) (Finset.mem_toList.1 hm) hnames)
    refine ⟨rfl, ?_⟩
    rw [← String.toList_ofList (l := s), hst, String.toList_ofList]

/-- Splitting gives the name and the string back exactly when decoding does. -/
theorem splitName_prefixName_iff {b t : String} {order : List String} :
    splitName (prefixName b t) order = some (b, t) ↔
      PrefixCode.decode backendWord order (backendWord b ++ t.toList) = some (b, t.toList) := by
  rw [splitName_eq_decode, prefixName_toList, Option.map_eq_some_iff]
  constructor
  · rintro ⟨⟨n, cs⟩, hd, heq⟩
    obtain ⟨rfl, rfl⟩ := Prod.mk.inj heq
    simpa only [String.toList_ofList] using hd
  · intro hd
    exact ⟨_, hd, by rw [String.ofList_toList]⟩

theorem prefixFree_iff_routesBack {N : Finset String} :
    PrefixCode.PrefixFree backendWord N.toList ↔ RoutesBack N := by
  rw [PrefixCode.prefixFree_iff_decode]
  constructor
  · intro h order horder b hb t
    have hsplit : splitName (prefixName b t) order = some (b, t) :=
      splitName_prefixName_iff.2
        (h order (enumerates_iff_perm.1 horder) b (Finset.mem_toList.2 hb) t.toList)
    exact ⟨splitToolName_eq_some.2 hsplit, splitResourceName_eq_some.2 hsplit⟩
  · intro h order hperm b hb cs
    obtain ⟨htool, -⟩ := h order (enumerates_iff_perm.2 hperm) b (Finset.mem_toList.1 hb)
      (String.ofList cs)
    have hd := splitName_prefixName_iff.1 (splitToolName_eq_some.1 htool)
    rwa [String.toList_ofList] at hd

/-- Nothing is split off exactly when no name of the order and a hyphen begin the input. -/
theorem splitName_eq_none {name : String} {order : List String} :
    splitName name order = none ↔ ∀ b ∈ order, Text.startsWith name (b ++ "-") = false := by
  rw [splitName_eq_decode, Option.map_eq_none_iff, PrefixCode.decode_eq_none]
  simp only [← startsWith_word, Bool.not_eq_true]

/-- What a splitter of names may return over an enumeration of `N`. -/
theorem splitName_spec {order : List String} {N : Finset String} (horder : Enumerates order N)
    (name : String) :
    (∀ b t, splitName name order = some (b, t) → b ∈ N ∧ prefixName b t = name) ∧
      (splitName name order = none ↔ ∀ b ∈ N, Text.startsWith name (b ++ "-") = false) := by
  constructor
  · intro b t h
    obtain ⟨hmem, hname⟩ := splitName_eq_some h
    exact ⟨(horder.2 b).1 hmem, hname.symm⟩
  · rw [splitName_eq_none]
    simp only [horder.2]

/-- Splitting undoes prefixing in every order of the names exactly when prefixing is injective, and
exactly when no name begins with another one and a hyphen. Over any names, a splitter returns a name
and a string that give the input back, and nothing only where no name fits. -/
theorem nameRouting_tfae (N : Finset String) :
    List.TFAE [RoutesBack N, PrefixingInjective N, NoNameExtendsAnother N] ∧
      ∀ order, Enumerates order N → ∀ name,
        (∀ b t, splitToolName name order = some ⟨b, t⟩ → b ∈ N ∧ prefixName b t = name) ∧
        (splitToolName name order = none ↔ ∀ b ∈ N, Text.startsWith name (b ++ "-") = false) ∧
        (∀ b t, splitResourceName name order = some ⟨b, t⟩ → b ∈ N ∧ prefixName b t = name) ∧
        (splitResourceName name order = none ↔
          ∀ b ∈ N, Text.startsWith name (b ++ "-") = false) := by
  constructor
  · have h12 : RoutesBack N ↔ PrefixingInjective N :=
      prefixFree_iff_routesBack.symm.trans prefixFree_iff_prefixingInjective
    have h23 : PrefixingInjective N ↔ NoNameExtendsAnother N :=
      prefixFree_iff_prefixingInjective.symm.trans prefixFree_iff_noNameExtendsAnother
    tfae_have 1 ↔ 2 := h12
    tfae_have 2 ↔ 3 := h23
    tfae_finish
  · intro order horder name
    obtain ⟨hsome, hnone⟩ := splitName_spec horder name
    refine ⟨fun b t h => hsome b t (splitToolName_eq_some.1 h), ?_,
      fun b t h => hsome b t (splitResourceName_eq_some.1 h), ?_⟩
    · rw [← hnone]
      exact Option.map_eq_none_iff
    · rw [← hnone]
      exact Option.map_eq_none_iff

end ContextForge
