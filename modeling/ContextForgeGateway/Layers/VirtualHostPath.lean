import ContextForgeGateway.Layers.Authentication

/-!
# The paths that name a virtual host

The grammar of such a path is `/servers/`, one segment that is not empty, and `/mcp`: what the
route `/servers/{virtual_host_name}/mcp` captures a name from. `extract_virtual_host_id` tests the
prefix and the suffix independently of each other and looks at nothing between them, so it meets the
grammar on all paths but those of two kinds (`followsGrammar_iff`): the one in which prefix and
suffix overlap, on which it panics, and those with no segment or several of them between the two,
which it accepts.
-/

namespace ContextForge

/-- The path is `/servers/`, the segment `name` and `/mcp`. -/
def InGrammar (path name : String) : Prop :=
  path = "/servers/" ++ name ++ "/mcp" ∧ name ≠ "" ∧ '/' ∉ name.toList

/-- On this path `extract_virtual_host_id` returns, without a panic, and returns the segment if the
path is in the grammar and nothing if it is not. -/
def FollowsGrammar (path : String) : Prop :=
  ∃ found, extractVirtualHostId path = some found ∧
    ∀ name, found = some ⟨name⟩ ↔ InGrammar path name

/-- The one path on which `extract_virtual_host_id` panics: its prefix and its suffix share a
character. -/
theorem extractVirtualHostId_eq_none {path : String} :
    extractVirtualHostId path = none ↔ path = "/servers/mcp" := by
  constructor
  · intro h
    have hs : Text.startsWith path "/servers/" = true := by
      by_contra hs
      simp [extractVirtualHostId, hs] at h
    have he : Text.endsWith path "/mcp" = true := by
      by_contra he
      simp [extractVirtualHostId, hs, he] at h
    have hlen : Text.len path < Text.len "/servers/" + Text.len "/mcp" := by
      by_contra hlen
      rcases extractVirtualHostId_cases (Nat.le_of_not_lt hlen) with hn | ⟨id, -, hid⟩
      · rw [hn] at h
        cases h
      · rw [hid] at h
        cases h
    obtain ⟨k, hk, hpath, hsuffix⟩ := Text.exists_overlap hs he hlen
    -- of the five tails of `/mcp`, only `mcp` makes a path behind `/servers/` that ends in `/mcp`
    rw [← String.toList_inj, hpath]
    have hcases : k = 0 ∨ k = 1 ∨ k = 2 ∨ k = 3 ∨ k = 4 := by
      have hle : k ≤ 4 := hk
      omega
    rcases hcases with rfl | rfl | rfl | rfl | rfl
    · have hlong : Text.len path = Text.len "/servers/" + Text.len "/mcp" := by
        rw [Text.len, hpath]
        rfl
      omega
    · rfl
    · exact absurd hsuffix (by decide)
    · exact absurd hsuffix (by decide)
    · exact absurd hsuffix (by decide)
  · rintro rfl
    decide

/-- `extract_virtual_host_id` meets the grammar on every path but `/servers/mcp` and those with
nothing or with several segments between `/servers/` and `/mcp`. -/
theorem followsGrammar_iff (path : String) :
    FollowsGrammar path ↔ path ≠ "/servers/mcp" ∧
      ∀ name, path = "/servers/" ++ name ++ "/mcp" → name ≠ "" ∧ '/' ∉ name.toList := by
  constructor
  · rintro ⟨found, hfound, hgrammar⟩
    refine ⟨fun hpath => ?_, fun name hpath => ?_⟩
    · rw [extractVirtualHostId_eq_none.2 hpath] at hfound
      cases hfound
    · have hname : extractVirtualHostId path = some (some ⟨name⟩) :=
        extractVirtualHostId_eq_some.2 hpath
      obtain rfl : found = some ⟨name⟩ := Option.some.inj (hfound.symm.trans hname)
      exact ((hgrammar name).1 rfl).2
  · rintro ⟨hpath, hnames⟩
    obtain ⟨found, hfound⟩ := Option.ne_none_iff_exists'.1 (mt extractVirtualHostId_eq_none.1 hpath)
    refine ⟨found, hfound, fun name => ⟨?_, ?_⟩⟩
    · rintro rfl
      have hbetween := extractVirtualHostId_eq_some.1 hfound
      exact ⟨hbetween, hnames name hbetween⟩
    · rintro ⟨hbetween, -, -⟩
      have hname : extractVirtualHostId path = some (some ⟨name⟩) :=
        extractVirtualHostId_eq_some.2 hbetween
      exact Option.some.inj (hfound.symm.trans hname)

/-- A path on which it panics, and one that the route matches with the name `a` and from which it
takes `a/mcp/b`. -/
theorem overlap_not_followsGrammar :
    ¬ FollowsGrammar "/servers/mcp" ∧
      OnMcpRoute "/servers/a/mcp/b/mcp" ∧ ¬ FollowsGrammar "/servers/a/mcp/b/mcp" := by
  refine ⟨?_, ⟨"a", by decide, by decide, Or.inr ⟨"b/mcp", by decide⟩⟩, ?_⟩
  · rintro ⟨found, hfound, -⟩
    have hpanic : extractVirtualHostId "/servers/mcp" = none := by decide
    rw [hpanic] at hfound
    cases hfound
  · rintro ⟨found, hfound, hgrammar⟩
    have hid : extractVirtualHostId "/servers/a/mcp/b/mcp" = some (some ⟨"a/mcp/b"⟩) := by decide
    obtain rfl : found = some ⟨"a/mcp/b"⟩ := Option.some.inj (hfound.symm.trans hid)
    obtain ⟨-, -, hslash⟩ := (hgrammar "a/mcp/b").1 rfl
    exact hslash (by decide)

end ContextForge
