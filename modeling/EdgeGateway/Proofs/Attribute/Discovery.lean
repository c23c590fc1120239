import EdgeGateway.Proofs.Attribute.Listing
import EdgeGateway.Proofs.Attribute.Packing

/-!
# EdgeGateway.Proofs.Attribute.Discovery

A client finds all attributes of a type by asking again and again (`discovers_all`).

* `Discovery`               : the client asks for a range, from one past the last handle it was
  told of the time before, until nothing is found or the range is used up.
* `Discovery.deterministic` : the responses it gets are fixed by the table and the range.
* `matching_onward`         : what is left to ask for after a response.
* `exists_discovery`        : there is an end to it, by induction on the attributes that match.
-/

namespace EdgeGateway.AttributeTable

/-- The client asks for the attributes of a type from a handle on, and gets the responses. -/
inductive Discovery (t : AttributeTable) (last type : UInt16) (maxLength : Nat) :
    UInt16 → List Bytes → Prop where
  | notFound {first : UInt16} :
      t.readByType first last type maxLength = .error .attributeNotFound →
      Discovery t last type maxLength first []
  /-- the last handle of the range was among those listed -/
  | usedUp {first handle : UInt16} {response : Bytes} :
      t.readByType first last type maxLength = .ok response →
      (listed response).getLast? = some handle → ¬ handle < last →
      Discovery t last type maxLength first [response]
  | onward {first handle : UInt16} {response : Bytes} {responses : List Bytes} :
      t.readByType first last type maxLength = .ok response →
      (listed response).getLast? = some handle → handle < last →
      Discovery t last type maxLength (handle + 1) responses →
      Discovery t last type maxLength first (response :: responses)

variable {t : AttributeTable} {first last type handle : UInt16} {maxLength : Nat}

theorem Discovery.deterministic {responses others : List Bytes}
    (h : Discovery t last type maxLength first responses)
    (h' : Discovery t last type maxLength first others) : responses = others := by
  induction h generalizing others with
  | notFound hn =>
    cases h' with
    | notFound _ => rfl
    | usedUp ho _ _ => rw [hn] at ho; cases ho
    | onward ho _ _ _ => rw [hn] at ho; cases ho
  | usedUp ho hl hu =>
    cases h' with
    | notFound hn => rw [ho] at hn; cases hn
    | usedUp ho' _ _ => rw [ho] at ho'; cases ho'; rfl
    | onward ho' hl' hlt _ =>
      rw [ho] at ho'
      cases ho'
      rw [hl] at hl'
      cases hl'
      exact absurd hlt hu
  | onward ho hl hlt _ ih =>
    cases h' with
    | notFound hn => rw [ho] at hn; cases hn
    | usedUp ho' hl' hu =>
      rw [ho] at ho'
      cases ho'
      rw [hl] at hl'
      cases hl'
      exact absurd hlt hu
    | onward ho' hl' _ hrest =>
      rw [ho] at ho'
      cases ho'
      rw [hl] at hl'
      cases hl'
      rw [ih hrest]

/-! ## What matches -/

theorem succ_le_iff {before after : UInt16} (hlt : before < last) :
    before + 1 ≤ after ↔ before < after := by
  have hlast := last.toNat_lt
  rw [UInt16.lt_iff_toNat_lt] at hlt
  rw [UInt16.le_iff_toNat_le, UInt16.lt_iff_toNat_lt, UInt16.toNat_add, UInt16.toNat_one,
    Nat.mod_eq_of_lt (by omega)]
  omega

/-- One past an attribute that matches, the ones after it are left. -/
theorem matching_onward (h : Ascending t.attributes) {taken left : List Attribute} {a : Attribute}
    (hmatch : t.matching first last type = taken ++ a :: left) (hlt : a.handle < last) :
    t.matching (a.handle + 1) last type = left := by
  have hascending : Ascending (taken ++ a :: left) := hmatch ▸ ascending_matching h
  obtain ⟨-, hrest, hbetween⟩ := List.pairwise_append.mp hascending
  have hfirst : first ≤ a.handle := by
    have ha : a ∈ t.matching first last type := by
      rw [hmatch]
      exact List.mem_append_right taken List.mem_cons_self
    exact ((mem_matching h).mp ha).2.1
  have hnarrow : t.matching (a.handle + 1) last type =
      (t.matching first last type).filter fun b => a.handle < b.handle := by
    rw [matching_eq_filter h, matching_eq_filter h, List.filter_filter]
    apply List.filter_congr
    intro b _
    rw [Bool.eq_iff_iff]
    simp only [Bool.and_eq_true, decide_eq_true_eq, beq_iff_eq, succ_le_iff hlt]
    constructor
    · rintro ⟨⟨⟨hab, hb⟩, htype⟩, hread⟩
      exact ⟨hab, ⟨⟨UInt16.le_trans hfirst (UInt16.le_of_lt hab), hb⟩, htype⟩, hread⟩
    · rintro ⟨hab, ⟨⟨-, hb⟩, htype⟩, hread⟩
      exact ⟨⟨⟨hab, hb⟩, htype⟩, hread⟩
  have htaken : taken.filter (fun b => decide (a.handle < b.handle)) = [] := by
    rw [List.filter_eq_nil_iff]
    intro b hb
    have hba : b.handle < a.handle := hbetween b hb a List.mem_cons_self
    simpa using UInt16.le_of_lt hba
  have hleft : left.filter (fun b => decide (a.handle < b.handle)) = left := by
    rw [List.filter_eq_self]
    intro b hb
    simpa using (List.pairwise_cons.mp hrest).1 b hb
  rw [hnarrow, hmatch, List.filter_append, htaken, List.nil_append, List.filter_cons, hleft]
  simp [UInt16.lt_irrefl]

/-- With the last handle of the range nothing is left. -/
theorem matching_usedUp (h : Ascending t.attributes) {taken left : List Attribute} {a : Attribute}
    (hmatch : t.matching first last type = taken ++ a :: left) (hlt : ¬ a.handle < last) :
    left = [] := by
  have hascending : Ascending (taken ++ a :: left) := hmatch ▸ ascending_matching h
  obtain ⟨-, hrest, -⟩ := List.pairwise_append.mp hascending
  apply List.eq_nil_iff_forall_not_mem.mpr
  intro b hb
  have hab : a.handle < b.handle := (List.pairwise_cons.mp hrest).1 b hb
  have hlast : b.handle ≤ last := by
    have hmem : b ∈ t.matching first last type := by
      rw [hmatch]
      exact List.mem_append_right taken (List.mem_cons_of_mem a hb)
    exact ((mem_matching h).mp hmem).2.2.1
  exact hlt (UInt16.lt_of_lt_of_le hab hlast)

/-! ## The whole range -/

/-- The client comes to an end, and has been told of all that matches. -/
theorem exists_discovery (hm : 3 ≤ maxLength) (h : Ascending t.attributes)
    (first last type : UInt16) :
    ∃ responses, Discovery t last type maxLength first responses ∧
      responses.flatMap listed = (t.matching first last type).map (·.handle) ∧
      ∀ response ∈ responses, response.length ≤ maxLength := by
  induction hn : (t.matching first last type).length using Nat.strongRecOn generalizing first with
  | ind n ih =>
    by_cases hnone : t.matching first last type = []
    · refine ⟨[], .notFound (readByType_of_none hm hnone), ?_, nofun⟩
      rw [hnone]
      rfl
    · obtain ⟨response, taken, left, hread, hmatch, htaken, hlisted, hlength⟩ :=
        readByType_of_match hm hnone
      obtain ⟨before, a, rfl⟩ : ∃ before a, taken = before ++ [a] :=
        ⟨_, _, (List.dropLast_concat_getLast htaken).symm⟩
      rw [List.append_assoc, List.singleton_append] at hmatch
      have hlast : (listed response).getLast? = some a.handle := by
        rw [hlisted, List.map_append, List.map_singleton, List.getLast?_concat]
      by_cases hlt : a.handle < last
      · have hleft := matching_onward h hmatch hlt
        have hfewer : (t.matching (a.handle + 1) last type).length < n := by
          rw [← hn, hleft, hmatch, List.length_append, List.length_cons]
          omega
        obtain ⟨responses, hrest, hall, hlengths⟩ := ih _ hfewer (a.handle + 1) rfl
        refine ⟨response :: responses, .onward hread hlast hlt hrest, ?_, ?_⟩
        · rw [List.flatMap_cons, hall, hlisted, hleft, hmatch, ← List.map_append,
            List.append_assoc, List.singleton_append]
        · exact List.forall_mem_cons.mpr ⟨hlength, hlengths⟩
      · obtain rfl := matching_usedUp h hmatch hlt
        refine ⟨[response], .usedUp hread hlast hlt, ?_, ?_⟩
        · rw [List.flatMap_singleton, hlisted, hmatch]
        · exact List.forall_mem_cons.mpr ⟨hlength, nofun⟩

/-- However often a table has been written and cleared, a client that asks for the attributes of a
type from one past the last handle it was told of comes to an end. It has been told of each
readable attribute of the type in the range once, in ascending order, in responses no longer than
it allowed, and nothing it could have been told differs. -/
theorem discovers_all {attributes : List Attribute} (ht : ofList attributes = .ok t)
    (operations : List Operation) (first last type : UInt16) (hm : 3 ≤ maxLength) :
    ∃ responses, Discovery (t.run operations).1 last type maxLength first responses ∧
      (∀ others, Discovery (t.run operations).1 last type maxLength first others →
        others = responses) ∧
      (responses.flatMap listed).Pairwise (· < ·) ∧
      (∀ handle, handle ∈ responses.flatMap listed ↔
        ∃ a ∈ (t.run operations).1.attributes, a.handle = handle ∧ a.type = type ∧
          a.readable = true ∧ first ≤ handle ∧ handle ≤ last) ∧
      ∀ response ∈ responses, response.length ≤ maxLength := by
  obtain ⟨rfl, hascending, -⟩ := ofList_eq_ok_iff.mp ht
  have hrun := ascending_run hascending operations
  obtain ⟨responses, hwalk, hlisted, hlength⟩ :=
    exists_discovery hm hrun first last type
  refine ⟨responses, hwalk, fun others ho => ho.deterministic hwalk, ?_, ?_, hlength⟩
  · rw [hlisted, ← ascending_iff]
    exact ascending_matching hrun
  · intro handle
    rw [hlisted, List.mem_map]
    constructor
    · rintro ⟨a, ha, rfl⟩
      obtain ⟨hmem, hfirst, hlast, htype, hread⟩ := (mem_matching hrun).mp ha
      exact ⟨a, hmem, rfl, htype, hread, hfirst, hlast⟩
    · rintro ⟨a, hmem, rfl, htype, hread, hfirst, hlast⟩
      exact ⟨a, (mem_matching hrun).mpr ⟨hmem, hfirst, hlast, htype, hread⟩, rfl⟩

/-- The first response is full, the second ends where the pairs get longer, and the third has the
last handle there is. The value at 6 may not be read. -/
theorem discovers_all_in_three_responses : ∃ t,
    ofList [.fixed 1 AttributeType.primaryService [0, 0x18], .characteristicValue 3 true true 4,
      .clientConfiguration 4, .characteristicValue 6 false true 4,
      .characteristicValue 8 true false 4, .characteristicValue 0xffff true false 4] = .ok t ∧
    ∀ responses, Discovery
        (t.run [.write 3 [1, 2, 3, 4], .write 6 [5], .write 8 [6], .store 0xffff [9]]).1
        0xffff AttributeType.characteristicValue 7 2 responses ↔
      responses = [[6, 3, 0, 1, 2, 3, 4], [2, 8, 0], [3, 0xff, 0xff, 9]] := by
  have ht := ofList_eq_ok_iff (t := ⟨[.fixed 1 AttributeType.primaryService [0, 0x18],
    .characteristicValue 3 true true 4, .clientConfiguration 4,
    .characteristicValue 6 false true 4, .characteristicValue 8 true false 4,
    .characteristicValue 0xffff true false 4]⟩).mpr
      ⟨rfl, ascending_iff.mpr (by decide), by decide⟩
  obtain ⟨responses, hwalk, hunique, -⟩ := discovers_all ht
    [.write 3 [1, 2, 3, 4], .write 6 [5], .write 8 [6], .store 0xffff [9]] 2 0xffff
    AttributeType.characteristicValue (by decide : 3 ≤ 7)
  have hthree := hunique [[6, 3, 0, 1, 2, 3, 4], [2, 8, 0], [3, 0xff, 0xff, 9]]
    (.onward rfl (by simp [listed, handlesIn]; rfl) (by decide : (3 : UInt16) < 0xffff)
      (.onward rfl (by simp [listed, handlesIn]; rfl) (by decide : (8 : UInt16) < 0xffff)
        (.usedUp rfl (by simp [listed, handlesIn]; rfl) (by decide : ¬ (0xffff : UInt16) < _))))
  refine ⟨_, ht, fun others => ⟨fun ho => ?_, ?_⟩⟩
  · rw [hunique others ho, hthree]
  · rintro rfl
    rw [hthree]
    exact hwalk

end EdgeGateway.AttributeTable
