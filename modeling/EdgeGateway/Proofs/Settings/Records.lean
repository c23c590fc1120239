import EdgeGateway.Settings.Writer
import Mathlib.Data.List.Forall2

/-!
# EdgeGateway.Proofs.Settings.Records

Reading back an object of which only a part is left.

* `Settings.Keeps`    : an object with the members of a record under the keys that are kept, in any
  order, and others under keys that are none of its own.
* `Settings.Overlays` : fields that store the members of a record one by one.
* `Settings.Overlays.readRecord` : then reading such an object overlays the defaults with the
  members kept.
-/

namespace EdgeGateway.Settings

/-! ## Values -/

@[simp] theorem readBool_bool (b : Bool) : readBool (.bool b) = some b := rfl

@[simp] theorem readString_ofString (s : String) : readString (.ofString s) = some s := rfl

theorem readBelow_ofNat {n limit : Nat} (h : n < limit) :
    readBelow limit (.ofNat n) = some n := by
  simp [readBelow, Json.ofNat, Numeral.toNat?, h]

@[simp] theorem readUInt16_ofNat (n : UInt16) : readUInt16 (.ofNat n.toNat) = some n := by
  rw [readUInt16, readBelow_ofNat n.toNat_lt, Option.map_some, UInt16.ofNat_toNat]

@[simp] theorem readUInt32_ofNat (n : UInt32) : readUInt32 (.ofNat n.toNat) = some n := by
  rw [readUInt32, readBelow_ofNat n.toNat_lt, Option.map_some, UInt32.ofNat_toNat]

@[simp] theorem readUInt64_ofNat (n : UInt64) : readUInt64 (.ofNat n.toNat) = some n := by
  rw [readUInt64, readBelow_ofNat n.toNat_lt, Option.map_some, UInt64.ofNat_toNat]

/-- A value that may be null is read back if what is written for it is no null. -/
theorem readOptional_optional {α : Type} {read : Json → Option α} {write : α → Json}
    (hread : ∀ a, read (write a) = some a) (hnull : read .null = none) (o : Option α) :
    readOptional read (optional write o) = some o := by
  cases o with
  | none => rfl
  | some a =>
    have ha := hread a
    simp only [optional]
    cases hw : write a with
    | null =>
      rw [hw, hnull] at ha
      cases ha
    | bool | number | text | array | object =>
      rw [hw] at ha
      simp [readOptional, ha]

@[simp] theorem readOptional_string (o : Option String) :
    readOptional readString (optional .ofString o) = some o :=
  readOptional_optional readString_ofString rfl o

@[simp] theorem readOptional_uint64 (o : Option UInt64) :
    readOptional readUInt64 (optional (.ofNat ·.toNat) o) = some o :=
  readOptional_optional readUInt64_ofNat rfl o

@[simp] theorem readChoice_linkKind (kind : LinkKind) :
    readChoice linkKindNames (nameOf linkKindNames kind) = some kind := by
  cases kind <;> rfl

@[simp] theorem readChoice_security (security : WifiSecurity) :
    readChoice securityNames (nameOf securityNames security) = some security := by
  cases security <;> rfl

@[simp] theorem readChoice_auth (auth : PppAuth) :
    readChoice authNames (nameOf authNames auth) = some auth := by
  cases auth <;> rfl

@[simp] theorem readChoice_qos (qos : Qos) :
    readChoice qosNames (nameOf qosNames qos) = some qos := by
  cases qos <;> rfl

/-! ## Parts of records -/

/-- The file holds the members under the keys that are kept, in any order, and what it holds
besides stands under other keys. -/
def Keeps (kept : String → Bool) (full file : Json) : Prop :=
  ∃ members extras part : List (String × Json), full = record members ∧
    (∀ m ∈ extras, m.1 ∉ members.map (·.1)) ∧
    part.Perm (members.filter (fun m => kept m.1) ++ extras) ∧ file = record part

theorem record_injective {ms ms' : List (String × Json)} (h : record ms = record ms') :
    ms = ms' := by
  refine List.map_injective_iff.2 ?_ (Json.object.inj h)
  rintro ⟨k, v⟩ ⟨k', v'⟩ heq
  cases heq
  rfl

/-- The kept members as they come, and nothing else. -/
theorem keeps_filter (kept : String → Bool) (members : List (String × Json)) :
    Keeps kept (record members) (record (members.filter fun m => kept m.1)) := by
  refine ⟨members, [], members.filter fun m => kept m.1, rfl, ?_, ?_, rfl⟩
  · intro m hm
    cases hm
  · rw [List.append_nil]

/-- A whole record is a part of itself. -/
theorem keeps_all (members : List (String × Json)) :
    Keeps (fun _ => true) (record members) (record members) := by
  have h := keeps_filter (fun _ => true) members
  rwa [List.filter_true] at h

/-- The fields store the members one by one: `overlay` has those whose keys are kept, and the
defaults for the others. -/
structure Overlays {σ : Type} (fields : List (Field σ)) (members : List (String × Json))
    (defaults : σ) (overlay : (String → Bool) → σ) : Prop where
  distinct : (members.map (·.1)).Nodup
  blank : overlay (fun _ => false) = defaults
  stores : List.Forall₂
    (fun field member => field.1 = member.1 ∧ ∀ kept,
      field.2 member.2 (overlay kept) = some (overlay fun k => k == member.1 || kept k))
    fields members
  only : ∀ kept kept', (∀ m ∈ members, kept m.1 = kept' m.1) → overlay kept = overlay kept'

namespace Overlays

variable {σ : Type} {fields : List (Field σ)} {members : List (String × Json)} {defaults : σ}
  {overlay : (String → Bool) → σ}

theorem lookup_of_mem (h : Overlays fields members defaults overlay) :
    ∀ m ∈ members, ∃ store, fields.lookup m.1 = some store ∧ ∀ kept,
      store m.2 (overlay kept) = some (overlay fun k => k == m.1 || kept k) := by
  have hdistinct := h.distinct
  have hstores := h.stores
  clear h
  induction hstores with
  | nil =>
    intro m hm
    cases hm
  | @cons field member fields members hfield _ ih =>
    rw [List.map_cons, List.nodup_cons] at hdistinct
    obtain ⟨hnotin, hdistinct⟩ := hdistinct
    obtain ⟨key, store⟩ := field
    obtain ⟨hkey, hstore⟩ := hfield
    intro m hm
    rcases List.mem_cons.1 hm with rfl | hm
    · refine ⟨store, ?_, hstore⟩
      simp only at hkey
      rw [hkey, List.lookup_cons_self]
    · obtain ⟨store', hlookup, hstore'⟩ := ih hdistinct m hm
      refine ⟨store', ?_, hstore'⟩
      have hne : (m.1 == key) = false := by
        rw [beq_eq_false_iff_ne]
        intro heq
        exact hnotin (hkey ▸ heq ▸ List.mem_map_of_mem hm)
      rw [List.lookup_cons, hne, hlookup]

theorem lookup_of_not_mem (h : Overlays fields members defaults overlay) {key : String}
    (hkey : key ∉ members.map (·.1)) : fields.lookup key = none := by
  have hstores := h.stores
  clear h
  induction hstores with
  | nil => rfl
  | @cons field member fields members hfield _ ih =>
    rw [List.map_cons, List.mem_cons, not_or] at hkey
    have hne : (key == field.1) = false := by
      rw [beq_eq_false_iff_ne, hfield.1]
      exact hkey.1
    rw [List.lookup_cons, hne]
    exact ih hkey.2

/-- Of two members under one key, neither belongs to the record. -/
def Apart (members : List (String × Json)) (a b : String × Json) : Prop :=
  a.1 = b.1 → a.1 ∉ members.map (·.1)

/-- The loop over the members of the file. What is stored is what came so far. -/
theorem readMembers (h : Overlays fields members defaults overlay) (part : List (String × Json)) :
    ∀ seen kept, (∀ m ∈ part, m ∈ members ∨ m.1 ∉ members.map (·.1)) →
      part.Pairwise (Apart members) → (∀ m ∈ part, m ∈ members → m.1 ∉ seen) →
      Settings.readMembers fields (part.map fun (key, v) => (some key, v)) seen (overlay kept) =
        some (overlay fun k => kept k || part.any (·.1 == k)) := by
  induction part with
  | nil =>
    intro seen kept _ _ _
    simp [Settings.readMembers]
  | cons m part ih =>
    intro seen kept hfrom hapart hfresh
    obtain ⟨hfirst, hapart⟩ := List.pairwise_cons.1 hapart
    have hrest : ∀ x ∈ part, x ∈ members ∨ x.1 ∉ members.map (·.1) := fun x hx =>
      hfrom x (List.mem_cons_of_mem m hx)
    by_cases hm : m.1 ∈ members.map (·.1)
    · have hmem : m ∈ members := (hfrom m List.mem_cons_self).resolve_right (fun h => h hm)
      obtain ⟨store, hlookup, hstore⟩ := h.lookup_of_mem m hmem
      have hseen : seen.contains m.1 = false := by
        simpa using hfresh m List.mem_cons_self hmem
      have hnext : ∀ x ∈ part, x ∈ members → x.1 ∉ m.1 :: seen := by
        intro x hx hxm hin
        rcases List.mem_cons.1 hin with heq | hin
        · exact hfirst x hx heq.symm hm
        · exact hfresh x (List.mem_cons_of_mem m hx) hxm hin
      rw [List.map_cons, Settings.readMembers, hlookup]
      simp only [hseen, Bool.false_eq_true, if_false, hstore, Option.bind_some]
      rw [ih (m.1 :: seen) _ hrest hapart hnext]
      congr 2
      funext k
      rw [List.any_cons, Bool.or_assoc, Bool.or_left_comm, Bool.beq_comm (a := k)]
    · -- an unknown key: passed over, and no field looks at it
      rw [List.map_cons, Settings.readMembers, h.lookup_of_not_mem hm]
      simp only
      rw [ih seen kept hrest hapart fun x hx => hfresh x (List.mem_cons_of_mem m hx)]
      congr 1
      refine h.only _ _ fun x hx => ?_
      have hne : (m.1 == x.1) = false := by
        rw [beq_eq_false_iff_ne]
        intro heq
        exact hm (heq ▸ List.mem_map_of_mem hx)
      rw [List.any_cons, hne, Bool.false_or]

theorem readRecord (h : Overlays fields members defaults overlay) {kept : String → Bool}
    {file : Json} (hfile : Keeps kept (record members) file) :
    Settings.readRecord fields defaults file = some (overlay kept) := by
  obtain ⟨members', extras, part, hfull, hextras, hperm, rfl⟩ := hfile
  obtain rfl := record_injective hfull
  have hmem : ∀ x, x ∈ part ↔ (x ∈ members ∧ kept x.1 = true) ∨ x ∈ extras := by
    intro x
    rw [hperm.mem_iff, List.mem_append, List.mem_filter]
  have hfrom : ∀ m ∈ part, m ∈ members ∨ m.1 ∉ members.map (·.1) := by
    intro m hm
    rcases (hmem m).1 hm with hm | hm
    · exact .inl hm.1
    · exact .inr (hextras m hm)
  have hapart : part.Pairwise (Apart members) := by
    refine (hperm.pairwise_iff ?_).2 ?_
    · intro a b hab heq
      rw [heq]
      exact hab heq.symm
    · refine List.pairwise_append.2 ⟨?_, ?_, ?_⟩
      · have hpair := List.pairwise_map.1 h.distinct
        refine (hpair.sublist List.filter_sublist).imp ?_
        intro a b hne heq
        exact absurd heq hne
      · refine List.pairwise_of_forall_mem_list ?_
        intro a ha b _ _
        exact hextras a ha
      · intro a ha b hb heq
        rw [heq]
        exact hextras b hb
  have hrun := h.readMembers part [] (fun _ => false) hfrom hapart (by simp)
  rw [h.blank] at hrun
  rw [record, Settings.readRecord, hrun]
  congr 1
  refine h.only _ _ fun m hm => ?_
  rw [Bool.false_or, Bool.eq_iff_iff, List.any_eq_true]
  constructor
  · rintro ⟨x, hx, heq⟩
    have hkey : x.1 = m.1 := beq_iff_eq.1 heq
    rcases (hmem x).1 hx with ⟨-, hkept⟩ | hx
    · exact hkey ▸ hkept
    · exact absurd (hkey ▸ List.mem_map_of_mem hm) (hextras x hx)
  · intro hkept
    exact ⟨m, (hmem m).2 (.inl ⟨hm, hkept⟩), beq_self_eq_true _⟩

end Overlays

end EdgeGateway.Settings
