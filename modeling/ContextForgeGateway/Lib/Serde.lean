import ContextForgeGateway.Lib.KeyedList
import Mathlib.Data.List.Nodup
import Mathlib.Data.List.Perm.Basic
import Mathlib.Data.Nat.Notation
import Mathlib.Data.Int.Notation

/-!
# The data model of serde

A format of serde reads bytes as a `Value`, and a derived `Deserialize` reads a value as a struct.
The derived code accepts a sequence that holds the fields in order, and a map whose keys name fields:
by name, or by index where the format has integers as keys. Keys that name no field are passed over; a
field that occurs twice, or not at all, is an error.

JSON has maps with strings as keys only (`object`). Of these, `readStruct_object` says that every
field is looked up by its name, and `readStruct_perm` that the order of the members does not matter.
-/

namespace Serde

/-- A value of serde's data model, as far as self-describing formats have it. -/
inductive Value
  | unit
  | bool (b : Bool)
  | int (n : ℤ)
  | float32 (bits : UInt32)
  | float64 (bits : UInt64)
  | str (s : String)
  | bytes (bs : List UInt8)
  | seq (items : List Value)
  | map (entries : List (Value × Value))

/-- The UTF-8 bytes of a string. -/
def strBytes (s : String) : List UInt8 := s.toByteArray.data.toList

/-- A map with strings as keys. -/
def object (members : List (String × Value)) : Value :=
  .map (members.map fun m => (.str m.1, m.2))

mutual

/-- How many sequences and maps lie inside each other; parsers have a limit for it. -/
def depth : Value → ℕ
  | .seq items => depthItems items + 1
  | .map entries => depthEntries entries + 1
  | _ => 0

def depthItems : List Value → ℕ
  | [] => 0
  | v :: items => max (depth v) (depthItems items)

def depthEntries : List (Value × Value) → ℕ
  | [] => 0
  | (k, v) :: entries => max (max (depth k) (depth v)) (depthEntries entries)

end

theorem depth_object_le {members : List (String × Value)} {n : ℕ}
    (h : ∀ m ∈ members, depth m.2 ≤ n) : depth (object members) ≤ n + 1 := by
  rw [object, depth]
  refine Nat.succ_le_succ ?_
  induction members with
  | nil => exact Nat.zero_le n
  | cons m members ih =>
    obtain ⟨hm, hmembers⟩ := List.forall_mem_cons.1 h
    rw [List.map_cons, depthEntries]
    exact Nat.max_le.2 ⟨Nat.max_le.2 ⟨Nat.zero_le n, hm⟩, ih hmembers⟩

/-! ### Derived structs -/

/-- What a derived field identifier accepts. -/
def isIdentifier : Value → Bool
  | .str _ | .bytes _ => true
  | .int n => 0 ≤ n
  | _ => false

/-- The key names the field `name`, which is the `i`-th. -/
def isField (name : String) (i : ℕ) : Value → Bool
  | .str s => s = name
  | .bytes bs => bs = strBytes name
  | .int n => n = i
  | _ => false

/-- The value of the only entry. -/
def single {κ : Type} : List (κ × Value) → Option Value
  | [e] => some e.2
  | _ => none

/-- The value of the only entry whose key satisfies `p`. -/
def only {κ : Type} (p : κ → Bool) (entries : List (κ × Value)) : Option Value :=
  single (entries.filter fun e => p e.1)

/-- The values of the fields `names`, in order, as a derived `Deserialize` finds them. -/
def readStruct (names : List String) : Value → Option (List Value)
  | .seq items => if items.length = names.length then some items else none
  | .map entries =>
    if entries.all fun e => isIdentifier e.1 then
      names.zipIdx.mapM fun field => only (isField field.1 field.2) entries
    else none
  | _ => none

/-- The member `name` of an object, if it occurs once. -/
def member (members : List (String × Value)) (name : String) : Option Value :=
  only (fun s => s = name) members

variable {κ : Type}

theorem only_eq_some {p : κ → Bool} {entries : List (κ × Value)} {v : Value} :
    only p entries = some v ↔ ∃ k, entries.filter (fun e => p e.1) = [(k, v)] := by
  unfold only
  constructor
  · intro h
    rcases hes : entries.filter fun e => p e.1 with _ | ⟨e, _ | ⟨e', es⟩⟩
    · rw [hes] at h
      cases h
    · rw [hes] at h
      cases h
      exact ⟨e.1, hes⟩
    · rw [hes] at h
      cases h
  · rintro ⟨k, hk⟩
    rw [hk]
    rfl

/-- The order of the entries does not matter. -/
theorem only_perm {p : κ → Bool} {entries entries' : List (κ × Value)}
    (h : entries.Perm entries') : only p entries = only p entries' := by
  have hsome : ∀ {es es' : List (κ × Value)}, es.Perm es' → ∀ v, only p es = some v →
      only p es' = some v := by
    intro es es' hes v hv
    obtain ⟨k, hk⟩ := only_eq_some.1 hv
    have hperm := hes.filter fun e => p e.1
    rw [hk] at hperm
    exact only_eq_some.2 ⟨k, (List.singleton_perm.1 hperm).symm⟩
  apply Option.ext
  intro v
  exact ⟨hsome h v, hsome h.symm v⟩

theorem single_map (members : List (String × Value)) :
    single (members.map fun m => (Value.str m.1, m.2)) = single members := by
  rcases members with _ | ⟨m, _ | ⟨m', members⟩⟩
  · rfl
  · rfl
  · rfl

theorem only_object (name : String) (i : ℕ) (members : List (String × Value)) :
    only (isField name i) (members.map fun m => (Value.str m.1, m.2)) = member members name := by
  have hfilter : (members.map fun m => (Value.str m.1, m.2)).filter (fun e => isField name i e.1) =
      (members.filter fun m => m.1 = name).map fun m => (Value.str m.1, m.2) := List.filter_map
  rw [only, hfilter]
  exact single_map (members.filter fun m => m.1 = name)

/-- Of an object, the fields are the members with their names. -/
theorem readStruct_object (names : List String) (members : List (String × Value)) :
    readStruct names (object members) = names.mapM (member members) := by
  have hall : (members.map fun m => (Value.str m.1, m.2)).all (fun e => isIdentifier e.1) =
      true := by
    rw [List.all_map, List.all_eq_true]
    intro m _
    rfl
  have hfields : (fun field : String × ℕ => only (isField field.1 field.2)
      (members.map fun m => (Value.str m.1, m.2))) = member members ∘ Prod.fst := by
    funext field
    exact only_object field.1 field.2 members
  rw [object, readStruct, if_pos hall, hfields, ← List.mapM_map, List.zipIdx_map_fst]

theorem member_cons_self {name : String} {v : Value} {members : List (String × Value)}
    (h : ∀ m ∈ members, m.1 ≠ name) : member ((name, v) :: members) name = some v := by
  refine only_eq_some.2 ⟨name, ?_⟩
  have hnil : members.filter (fun m => m.1 = name) = [] := by
    rw [List.filter_eq_nil_iff]
    intro m hm
    simpa using h m hm
  rw [List.filter_cons_of_pos (p := fun m : String × Value => decide (m.1 = name))
    (decide_eq_true rfl), hnil]

theorem member_cons_of_ne {name other : String} (h : other ≠ name) (v : Value)
    (members : List (String × Value)) :
    member ((other, v) :: members) name = member members name := by
  unfold member only
  rw [List.filter_cons_of_neg (by simpa using h)]

/-- The order of the members of an object does not matter. -/
theorem readStruct_perm (names : List String) {members members' : List (String × Value)}
    (h : members.Perm members') :
    readStruct names (object members) = readStruct names (object members') := by
  have hmember : member members = member members' := funext fun name => only_perm h
  rw [readStruct_object, readStruct_object, hmember]

/-! ### JSON values -/

/-- A value as JSON has it: the keys are strings, and no object has two members of one name. -/
inductive IsJson : Value → Prop
  | unit : IsJson .unit
  | bool (b : Bool) : IsJson (.bool b)
  | int (n : ℤ) : IsJson (.int n)
  | float64 (bits : UInt64) : IsJson (.float64 bits)
  | str (s : String) : IsJson (.str s)
  | seq {items : List Value} : (∀ v ∈ items, IsJson v) → IsJson (.seq items)
  | object {members : List (String × Value)} : (members.map Prod.fst).Nodup →
    (∀ m ∈ members, IsJson m.2) → IsJson (object members)

theorem object_injective : Function.Injective object := by
  intro members members' h
  have hmap := Value.map.inj h
  refine List.map_injective_iff.2 ?_ hmap
  rintro ⟨name, v⟩ ⟨name', v'⟩ hm
  cases hm
  rfl

theorem isJson_object {members : List (String × Value)} :
    IsJson (object members) ↔ (members.map Prod.fst).Nodup ∧ ∀ m ∈ members, IsJson m.2 := by
  constructor
  · intro h
    generalize hv : object members = v at h
    cases h with
    | object hnodup hvalues =>
      cases object_injective hv
      exact ⟨hnodup, hvalues⟩
    | _ => cases hv
  · rintro ⟨hnodup, hvalues⟩
    exact IsJson.object hnodup hvalues

theorem isJson_singleton {name : String} {v : Value} (h : IsJson v) :
    IsJson (object [(name, v)]) :=
  isJson_object.2 ⟨List.nodup_singleton name, List.forall_mem_singleton.2 h⟩

theorem mem_of_only {p : κ → Bool} {entries : List (κ × Value)} {v : Value}
    (h : only p entries = some v) : ∃ k, (k, v) ∈ entries := by
  obtain ⟨k, hk⟩ := only_eq_some.1 h
  have hmem : (k, v) ∈ entries.filter fun e => p e.1 := hk ▸ List.mem_singleton_self _
  exact ⟨k, List.mem_of_mem_filter hmem⟩

/-- Of an object without repetitions, the member of a name is its only one. -/
theorem member_eq_some {members : List (String × Value)} (h : (members.map Prod.fst).Nodup)
    {name : String} {v : Value} : member members name = some v ↔ (name, v) ∈ members := by
  induction members with
  | nil => simp [member, only, single]
  | cons m members ih =>
    obtain ⟨other, w⟩ := m
    rw [List.map_cons] at h
    obtain ⟨hnot, hnodup⟩ := List.nodup_cons.1 h
    have hother : ∀ m ∈ members, m.1 ≠ other := by
      intro m hm hsame
      have hmem : m.1 ∈ members.map Prod.fst := List.mem_map_of_mem hm
      rw [hsame] at hmem
      exact hnot hmem
    by_cases hne : other = name
    · subst hne
      rw [member_cons_self hother, Option.some.injEq, List.mem_cons, Prod.mk.injEq]
      constructor
      · rintro rfl
        exact Or.inl ⟨rfl, rfl⟩
      · rintro (⟨-, rfl⟩ | hmem)
        · rfl
        · exact absurd rfl (hother _ hmem)
    · rw [member_cons_of_ne hne, ih hnodup, List.mem_cons, Prod.mk.injEq]
      constructor
      · exact Or.inr
      · rintro (⟨rfl, -⟩ | hmem)
        · exact absurd rfl hne
        · exact hmem

/-! ### Strings, sequences and maps -/

/-- `String::deserialize`, of text. A format with byte strings may read these as well. -/
def readString : Value → Option String
  | .str s => some s
  | _ => none

/-- `Vec::<String>::deserialize`. -/
def readStrings : Value → Option (List String)
  | .seq items => items.mapM readString
  | _ => none

/-- The entry of a map whose values `read` reads. -/
def readEntry {α : Type} (read : Value → Option α) (e : Value × Value) : Option (String × α) :=
  (readString e.1).bind fun k => (read e.2).map fun x => (k, x)

/-- `HashMap::<String, _>::deserialize`. -/
def readMap {α : Type} (read : Value → Option α) : Value → Option (KeyedList String α)
  | .map entries => (entries.mapM (readEntry read)).map KeyedList.ofList
  | _ => none

section

variable {α β γ : Type} {f : α → Option β}

theorem mapM_cons_eq_some {x : α} {xs : List α} {ys : List β} :
    (x :: xs).mapM f = some ys ↔
      ∃ y ys', f x = some y ∧ xs.mapM f = some ys' ∧ ys = y :: ys' := by
  rw [List.mapM_cons]
  cases hx : f x with
  | none => simp
  | some y =>
    cases hxs : xs.mapM f with
    | none => simp
    | some ys' => simp [eq_comm]

theorem mem_mapM {xs : List α} {ys : List β} (h : xs.mapM f = some ys) {y : β} :
    y ∈ ys ↔ ∃ x ∈ xs, f x = some y := by
  induction xs generalizing ys with
  | nil =>
    cases h
    simp
  | cons x xs ih =>
    obtain ⟨y', ys', hx, hxs, rfl⟩ := mapM_cons_eq_some.1 h
    rw [List.mem_cons, ih hxs, List.exists_mem_cons_iff, hx, Option.some.injEq, eq_comm]

theorem map_mapM {g : β → γ} {k : α → γ} (hk : ∀ x y, f x = some y → g y = k x) {xs : List α}
    {ys : List β} (h : xs.mapM f = some ys) : ys.map g = xs.map k := by
  induction xs generalizing ys with
  | nil =>
    cases h
    rfl
  | cons x xs ih =>
    obtain ⟨y, ys', hx, hxs, rfl⟩ := mapM_cons_eq_some.1 h
    rw [List.map_cons, List.map_cons, hk x y hx, ih hxs]

theorem length_mapM {xs : List α} {ys : List β} (h : xs.mapM f = some ys) :
    ys.length = xs.length := by
  have hmap := map_mapM (g := fun _ => ()) (k := fun _ => ()) (fun _ _ _ => rfl) h
  simpa only [List.length_map] using congrArg List.length hmap

theorem exists_mapM {xs : List α} :
    (∃ ys, xs.mapM f = some ys) ↔ ∀ x ∈ xs, ∃ y, f x = some y := by
  induction xs with
  | nil => simp
  | cons x xs ih =>
    rw [List.forall_mem_cons, ← ih]
    constructor
    · rintro ⟨_, h⟩
      obtain ⟨y, ys, hy, hys, -⟩ := mapM_cons_eq_some.1 h
      exact ⟨⟨y, hy⟩, ys, hys⟩
    · rintro ⟨⟨y, hy⟩, ys, hys⟩
      exact ⟨y :: ys, mapM_cons_eq_some.2 ⟨y, ys, hy, hys, rfl⟩⟩

end

section

variable {α : Type} {read : Value → Option α}

theorem readEntry_eq_some {e : Value × Value} {k : String} {x : α} :
    readEntry read e = some (k, x) ↔ e.1 = .str k ∧ read e.2 = some x := by
  obtain ⟨key, v⟩ := e
  cases key with
  | str s =>
    cases hv : read v <;> simp [readEntry, readString, hv]
  | _ => simp [readEntry, readString]

/-- What is read as a map is an object. -/
theorem object_of_readMap {v : Value} (hv : IsJson v) {m : KeyedList String α}
    (h : readMap read v = some m) : ∃ members, v = object members := by
  cases hv with
  | object _ _ => exact ⟨_, rfl⟩
  | _ => cases h

/-- The entries of a map that is read are the members of the object, each of which is read. -/
theorem get_readMap {members : List (String × Value)} (hnodup : (members.map Prod.fst).Nodup)
    {m : KeyedList String α} (h : readMap read (object members) = some m) {k : String} {x : α} :
    m.get k = some x ↔ ∃ v, (k, v) ∈ members ∧ read v = some x := by
  obtain ⟨es, hes, rfl⟩ := Option.map_eq_some_iff.1 h
  rw [List.mapM_map] at hes
  have hkeys : es.map Prod.fst = members.map Prod.fst := by
    refine map_mapM ?_ hes
    rintro m ⟨k, x⟩ hm
    exact (Value.str.inj (readEntry_eq_some.1 hm).1).symm
  rw [KeyedList.get_eq_some, KeyedList.entries_ofList (hkeys ▸ hnodup), mem_mapM hes]
  constructor
  · rintro ⟨⟨k', v⟩, hmem, hread⟩
    obtain ⟨hk, hx⟩ := readEntry_eq_some.1 hread
    cases hk
    exact ⟨v, hmem, hx⟩
  · rintro ⟨v, hv, hx⟩
    exact ⟨(k, v), hv, readEntry_eq_some.2 ⟨rfl, hx⟩⟩

/-- An object is read as a map exactly if every value in it is read. -/
theorem exists_readMap {members : List (String × Value)} :
    (∃ m, readMap read (object members) = some m) ↔ ∀ m ∈ members, ∃ x, read m.2 = some x := by
  have hmap : (∃ m, readMap read (object members) = some m) ↔
      ∃ es, members.mapM (readEntry read ∘ fun m => (.str m.1, m.2)) = some es := by
    rw [object, readMap, List.mapM_map]
    constructor
    · rintro ⟨m, hm⟩
      obtain ⟨es, hes, -⟩ := Option.map_eq_some_iff.1 hm
      exact ⟨es, hes⟩
    · rintro ⟨es, hes⟩
      exact ⟨_, Option.map_eq_some_iff.2 ⟨es, hes, rfl⟩⟩
  rw [hmap, exists_mapM]
  refine forall₂_congr fun m _ => ?_
  constructor
  · rintro ⟨⟨k, x⟩, hx⟩
    exact ⟨x, (readEntry_eq_some.1 hx).2⟩
  · rintro ⟨x, hx⟩
    exact ⟨(m.1, x), readEntry_eq_some.2 ⟨rfl, hx⟩⟩

/-- A map is read back from its entries, if its values are. -/
theorem readMap_entries {write : α → Value} {m : KeyedList String α}
    (h : ∀ e ∈ m.entries, read (write e.2) = some e.2) :
    readMap read (object (m.entries.map fun e => (e.1, write e.2))) = some m := by
  have hentries : ∀ l : List (String × α), (∀ e ∈ l, read (write e.2) = some e.2) →
      (l.map fun e => (Value.str e.1, write e.2)).mapM (readEntry read) = some l := by
    intro l hl
    induction l with
    | nil => rfl
    | cons e l ih =>
      have he : readEntry read (.str e.1, write e.2) = some e :=
        readEntry_eq_some.2 ⟨rfl, hl e List.mem_cons_self⟩
      rw [List.map_cons, mapM_cons_eq_some]
      exact ⟨e, l, he, ih fun e' he' => hl e' (List.mem_cons_of_mem _ he'), rfl⟩
  rw [object, List.map_map, readMap]
  exact Option.map_eq_some_iff.2 ⟨m.entries, hentries _ h, KeyedList.ofList_entries m⟩

end

theorem readString_eq_some {v : Value} {s : String} : readString v = some s ↔ v = .str s := by
  cases v <;> simp [readString]

theorem readStrings_eq_some {v : Value} {ss : List String} :
    readStrings v = some ss ↔ v = .seq (ss.map .str) := by
  cases v with
  | seq items =>
    rw [readStrings, Value.seq.injEq]
    constructor
    · intro h
      have hmap := map_mapM (fun v s hs => (readString_eq_some.1 hs).symm) h
      rw [hmap, List.map_id']
    · rintro rfl
      have hread : readString ∘ Value.str = fun s => some (id s) := rfl
      rw [List.mapM_map, hread]
      exact List.mapM_pure.trans (congrArg some (List.map_id ss))
  | _ => simp [readStrings]

/-- The fields of a struct are items of the sequence, or values in the map, from which it is read. -/
theorem mem_of_readStruct {names : List String} {v : Value} {fields : List Value}
    (h : readStruct names v = some fields) {w : Value} (hw : w ∈ fields) :
    (∃ items, v = .seq items ∧ w ∈ items) ∨ ∃ entries k, v = .map entries ∧ (k, w) ∈ entries := by
  cases v with
  | seq items =>
    rw [readStruct] at h
    split_ifs at h
    cases h
    exact Or.inl ⟨fields, rfl, hw⟩
  | map entries =>
    rw [readStruct] at h
    split_ifs at h
    obtain ⟨field, -, hfield⟩ := (mem_mapM h).1 hw
    obtain ⟨k, hk⟩ := mem_of_only hfield
    exact Or.inr ⟨entries, k, rfl, hk⟩
  | _ => cases h

/-- The fields of a JSON value are JSON values. -/
theorem isJson_of_readStruct {names : List String} {v : Value} (hv : IsJson v) {fields : List Value}
    (h : readStruct names v = some fields) {w : Value} (hw : w ∈ fields) : IsJson w := by
  cases hv with
  | seq hitems =>
    rw [readStruct] at h
    split_ifs at h
    cases h
    exact hitems w hw
  | object hnodup hvalues =>
    rw [readStruct_object] at h
    obtain ⟨name, -, hname⟩ := (mem_mapM h).1 hw
    obtain ⟨k, hk⟩ := mem_of_only hname
    exact hvalues _ hk
  | _ => cases h

end Serde
