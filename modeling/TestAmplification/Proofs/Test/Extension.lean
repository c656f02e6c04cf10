import TestAmplification.Proofs.Positions
import TestAmplification.Test.Suite

/-!
# The methods that an extension adds

Extending a suite leaves its name, its fixtures and its methods as they are and
appends methods (`extendedWith_eq`). The appended methods are the first ones of
their identity among those offered, where identities of the suite are taken
from the start. Their identities are therefore exactly the offered ones that
the suite does not have (`mem_ids_firstOfEach`), and no two of them agree
(`nodup_ids_firstOfEach`).

Lists of methods act on suites by extension (`extendedWith_acts`): one list after
the other is the same as both at once, and a list that was used up adds nothing
more. Leaving out tests goes along with this only where no identity is taken.
Where one is, it is freed when a test of the suite is left out, and a method that
extension had passed over finds room.
-/

set_option autoImplicit false

namespace TestAmplification

/-- The first method of each identity that is not taken. -/
def firstOfEach (taken : List TestId) : List TestCase → List TestCase
  | [] => []
  | method :: rest =>
      if method.id ∈ taken then firstOfEach taken rest
      else method :: firstOfEach (taken ++ [method.id]) rest

/-- The identities of the methods are the offered ones that are not taken. -/
theorem mem_ids_firstOfEach (taken : List TestId) (offered : List TestCase) (id : TestId) :
    id ∈ (firstOfEach taken offered).map TestCase.id ↔
      id ∈ offered.map TestCase.id ∧ id ∉ taken := by
  induction offered generalizing taken with
  | nil => simp [firstOfEach]
  | cons method rest ih =>
      by_cases present : method.id ∈ taken
      · simp only [firstOfEach, if_pos present, ih, List.map_cons, List.mem_cons]
        constructor
        · rintro ⟨later, free⟩
          exact ⟨.inr later, free⟩
        · rintro ⟨same | later, free⟩
          · exact absurd (same ▸ present) free
          · exact ⟨later, free⟩
      · simp only [firstOfEach, if_neg present, ih, List.map_cons, List.mem_cons,
          List.mem_append, List.not_mem_nil, or_false, not_or]
        constructor
        · rintro (same | ⟨later, free, -⟩)
          · exact ⟨.inl same, same ▸ present⟩
          · exact ⟨.inr later, free⟩
        · rintro ⟨same | later, free⟩
          · exact .inl same
          · by_cases same : id = method.id
            · exact .inl same
            · exact .inr ⟨later, free, same⟩

/-- The methods are some of the offered ones, in their order. -/
theorem firstOfEach_sublist (taken : List TestId) (offered : List TestCase) :
    (firstOfEach taken offered).Sublist offered := by
  induction offered generalizing taken with
  | nil => exact .slnil
  | cons method rest ih =>
      rw [firstOfEach]
      split
      · exact (ih taken).cons method
      · exact (ih _).cons_cons method

/-- No two of the methods share their identity. -/
theorem nodup_ids_firstOfEach (taken : List TestId) (offered : List TestCase) :
    ((firstOfEach taken offered).map TestCase.id).Nodup := by
  induction offered generalizing taken with
  | nil => exact List.nodup_nil
  | cons method rest ih =>
      rw [firstOfEach]
      split
      · exact ih taken
      · refine List.nodup_cons.2 ⟨fun later => ?_, ih _⟩
        have free := ((mem_ids_firstOfEach _ _ _).1 later).2
        exact free (List.mem_append_right _ (.head _))

/-- Under an identity that is not taken, the method is the first one that is offered. -/
theorem find?_firstOfEach {taken : List TestId} (offered : List TestCase) {id : TestId}
    (free : id ∉ taken) :
    (firstOfEach taken offered).find? (fun method => method.id == id) =
      offered.find? fun method => method.id == id := by
  induction offered generalizing taken with
  | nil => rfl
  | cons method rest ih =>
      rw [firstOfEach]
      by_cases same : method.id = id
      · rw [if_neg (same ▸ free)]
        simp [same]
      · have other : (method.id == id) = false := beq_false_of_ne same
        rw [List.find?_cons_of_neg (by simp [other])]
        split
        · exact ih free
        · rw [List.find?_cons_of_neg (by simp [other])]
          refine ih fun member => ?_
          rcases List.mem_append.1 member with earlier | now
          · exact free earlier
          · exact same (List.mem_singleton.1 now).symm

/-- Further methods come after the first ones of those in front of them. -/
theorem firstOfEach_append (taken : List TestId) (front back : List TestCase) :
    firstOfEach taken (front ++ back) = firstOfEach taken front ++
      firstOfEach (taken ++ (firstOfEach taken front).map TestCase.id) back := by
  induction front generalizing taken with
  | nil => simp [firstOfEach]
  | cons method rest ih =>
      simp only [List.cons_append, firstOfEach]
      split
      · exact ih taken
      · rw [ih]
        simp

/-- Where every identity is taken, nothing is added. -/
theorem firstOfEach_eq_nil {taken : List TestId} {offered : List TestCase}
    (known : ∀ method ∈ offered, method.id ∈ taken) : firstOfEach taken offered = [] := by
  induction offered with
  | nil => rfl
  | cons method rest ih =>
      rw [firstOfEach, if_pos (known method (.head _))]
      exact ih fun later member => known later (.tail _ member)

/-- Methods of distinct identities that are not taken are all added. -/
theorem firstOfEach_eq_self {taken : List TestId} {offered : List TestCase}
    (free : ∀ method ∈ offered, method.id ∉ taken) (distinct : (offered.map TestCase.id).Nodup) :
    firstOfEach taken offered = offered := by
  induction offered generalizing taken with
  | nil => rfl
  | cons method rest ih =>
      obtain ⟨unlike, distinct⟩ := List.nodup_cons.1 distinct
      rw [firstOfEach, if_neg (free method (.head _)), ih ?_ distinct]
      intro later member listed
      rcases List.mem_append.1 listed with early | now
      · exact free later (.tail _ member) early
      · exact unlike (List.mem_singleton.1 now ▸ List.mem_map_of_mem member)

/-- **The first method of each identity** stands where neither the identities that are taken nor
the methods before have its own. -/
theorem exists_positions_firstOfEach (taken : List TestId) (offered : List TestCase) :
    ∃ positions,
      PositionsWhere (fun position method =>
          method.id ∉ taken ∧ method.id ∉ (offered.take position).map TestCase.id)
        offered positions ∧
      firstOfEach taken offered = itemsAt positions offered := by
  have known (front : List TestCase) (id : TestId) :
      id ∈ taken ++ (firstOfEach taken front).map TestCase.id ↔
        ¬ (id ∉ taken ∧ id ∉ front.map TestCase.id) := by
    rw [List.mem_append, mem_ids_firstOfEach]
    tauto
  obtain ⟨positions, chosen, added⟩ := exists_positionsWhere (firstOfEach taken)
    (fun front method => method.id ∉ taken ∧ method.id ∉ front.map TestCase.id) rfl
    (fun front method isNew => by
      rw [firstOfEach_append, firstOfEach, if_neg fun isKnown => (known _ _).1 isKnown isNew]
      rfl)
    (fun front method isKnown => by
      rw [firstOfEach_append, firstOfEach, if_pos ((known _ _).2 isKnown)]
      exact List.append_nil _)
    offered
  exact ⟨positions, chosen, by simpa using added offered.length⟩

/-- Among methods of distinct identities each one is found under its own. -/
theorem find?_id_of_mem {methods : List TestCase} (distinct : (methods.map TestCase.id).Nodup)
    {method : TestCase} (member : method ∈ methods) :
    methods.find? (fun other => other.id == method.id) = some method := by
  induction methods with
  | nil => cases member
  | cons first rest ih =>
      obtain ⟨unlike, distinct⟩ := List.nodup_cons.1 distinct
      rcases List.mem_cons.1 member with rfl | later
      · simp
      · have other : first.id ≠ method.id := fun same =>
          unlike (same ▸ List.mem_map_of_mem later)
        rw [List.find?_cons_of_neg (by simpa using other)]
        exact ih distinct later

namespace TestSuite

/-- The identities of the methods of a suite. -/
def ids (suite : TestSuite) : List TestId :=
  suite.methods.map TestCase.id

theorem contains_iff (suite : TestSuite) (id : TestId) :
    suite.contains id = true ↔ id ∈ suite.ids := by
  simp [contains, method?, ids, List.find?_isSome]

/-- An extension appends the first method of each identity that is new. -/
theorem extendedWith_eq (suite : TestSuite) (extra : List TestCase) :
    suite.extendedWith extra =
      { suite with methods := suite.methods ++ firstOfEach suite.ids extra } := by
  induction extra generalizing suite with
  | nil => simp [extendedWith, firstOfEach]
  | cons method rest ih =>
      have unfolded : suite.extendedWith (method :: rest) =
          (suite.extendedByOne method).extendedWith rest := rfl
      rw [unfolded, ih, extendedByOne]
      by_cases present : method.id ∈ suite.ids
      · rw [if_pos ((suite.contains_iff _).2 present), firstOfEach, if_pos present]
      · rw [if_neg (mt (suite.contains_iff _).1 present), firstOfEach, if_neg present]
        simp [withMethod, ids]

theorem method?_eq_none_iff {suite : TestSuite} {id : TestId} :
    suite.method? id = none ↔ id ∉ suite.ids := by
  simp [method?, ids]

/-- **Looking up in an extension**: the method of the suite comes first, then the first one
offered. -/
theorem method?_extendedWith_eq (suite : TestSuite) (extra : List TestCase) (id : TestId) :
    (suite.extendedWith extra).method? id =
      (suite.method? id).or (extra.find? fun method => method.id == id) := by
  cases own : suite.method? id with
  | some method =>
      rw [method?] at own
      rw [extendedWith_eq, method?, List.find?_append, own]
      rfl
  | none =>
      have free := method?_eq_none_iff.1 own
      rw [method?] at own
      rw [extendedWith_eq, method?, List.find?_append, own, find?_firstOfEach extra free]

/-- **Added methods are found under their own identity**, if their identities are distinct and
free in the suite. -/
theorem method?_extendedWith {suite : TestSuite} {extra : List TestCase} {method : TestCase}
    (member : method ∈ extra) (distinct : (extra.map TestCase.id).Nodup)
    (free : method.id ∉ suite.ids) :
    (suite.extendedWith extra).method? method.id = some method := by
  rw [method?_extendedWith_eq, method?_eq_none_iff.2 free]
  exact find?_id_of_mem distinct member

/-! ## Extension as an action of lists -/

theorem extendedWith_append (suite : TestSuite) (first second : List TestCase) :
    suite.extendedWith (first ++ second) = (suite.extendedWith first).extendedWith second :=
  List.foldl_append

theorem ids_extendedWith (suite : TestSuite) (extra : List TestCase) :
    (suite.extendedWith extra).ids =
      suite.ids ++ (firstOfEach suite.ids extra).map TestCase.id := by
  rw [extendedWith_eq, ids, List.map_append, ids]

/-- A list adds nothing to a suite that has been extended with it. -/
theorem extendedWith_extendedWith (suite : TestSuite) (extra : List TestCase) :
    (suite.extendedWith extra).extendedWith extra = suite.extendedWith extra := by
  have known : ∀ method ∈ extra, method.id ∈ (suite.extendedWith extra).ids := by
    intro method member
    rw [ids_extendedWith, List.mem_append, mem_ids_firstOfEach]
    exact or_iff_not_imp_left.2 fun free => ⟨List.mem_map_of_mem member, free⟩
  rw [extendedWith_eq (suite.extendedWith extra), firstOfEach_eq_nil known, List.append_nil]

/-- Tests may be left out before or after, if all methods offered are added. -/
theorem withoutTests_extendedWith {suite : TestSuite} {extra : List TestCase}
    (free : ∀ method ∈ extra, method.id ∉ suite.ids) (distinct : (extra.map TestCase.id).Nodup)
    (isTest : TestPredicate) :
    (suite.extendedWith extra).withoutTests isTest =
      (suite.withoutTests isTest).extendedWith (extra.filter fun method => !isTest method) := by
  have fewer : (suite.withoutTests isTest).ids.Sublist suite.ids :=
    List.filter_sublist.map TestCase.id
  have allAdded : firstOfEach (suite.withoutTests isTest).ids
      (extra.filter fun method => !isTest method) = extra.filter fun method => !isTest method :=
    firstOfEach_eq_self
      (fun method member taken => free method (List.mem_of_mem_filter member) (fewer.subset taken))
      (distinct.sublist (List.filter_sublist.map TestCase.id))
  rw [extendedWith_eq, extendedWith_eq, allAdded, firstOfEach_eq_self free distinct]
  simp only [withoutTests, List.filter_append]

/-- **Lists of methods act on suites.** Extending by one list and then by another is extending by
both, and extending twice by a list is extending once. The methods of the suite come first in an
extension, and after them the offered ones at the positions whose identity neither the suite nor
an earlier one of them has. Under an identity the extension has the method of the suite, if there
is one, and otherwise the first one offered. If no identity is offered twice or taken, leaving out
the tests of an extension is extending without tests. -/
theorem extendedWith_acts (suite : TestSuite) (first second : List TestCase) :
    (suite.extendedWith first).extendedWith second = suite.extendedWith (first ++ second) ∧
    (suite.extendedWith first).extendedWith first = suite.extendedWith first ∧
    (∃ positions,
      PositionsWhere (fun position method =>
          method.id ∉ suite.ids ∧ method.id ∉ (first.take position).map TestCase.id)
        first positions ∧
      suite.extendedWith first =
        { suite with methods := suite.methods ++ itemsAt positions first }) ∧
    (∀ id, (suite.extendedWith first).method? id =
      (suite.method? id).or (first.find? fun method => method.id == id)) ∧
    ∀ isTest : TestPredicate,
      (∀ method ∈ first, method.id ∉ suite.ids) → (first.map TestCase.id).Nodup →
        (suite.extendedWith first).withoutTests isTest =
          (suite.withoutTests isTest).extendedWith
            (first.filter fun method => !isTest method) := by
  refine ⟨(suite.extendedWith_append first second).symm, suite.extendedWith_extendedWith first, ?_,
    suite.method?_extendedWith_eq first,
    fun isTest free distinct => withoutTests_extendedWith free distinct isTest⟩
  obtain ⟨positions, chosen, added⟩ := exists_positions_firstOfEach suite.ids first
  exact ⟨positions, chosen, by rw [extendedWith_eq, added]⟩

/-- Of a test and a helper that are offered, the helper stays when tests are left out. -/
theorem extension_without_tests :
    let suite : TestSuite := ⟨"Suite", [], [.plain ⟨"Suite", "testDebit"⟩ "debit()"]⟩
    let test : TestCase := .plain ⟨"Suite", "testCredit"⟩ "credit()"
    let helper : TestCase := .plain ⟨"Suite", "account"⟩ "open()"
    (∀ method ∈ [test, helper], method.id ∉ suite.ids) ∧
      ([test, helper].map TestCase.id).Nodup ∧
      (suite.extendedWith [test, helper]).withoutTests (namedFrom "test") =
        ⟨"Suite", [], [helper]⟩ := by
  intro suite test helper
  have free : ∀ method ∈ [test, helper], method.id ∉ suite.ids := by decide
  have distinct : ([test, helper].map TestCase.id).Nodup := by decide
  refine ⟨free, distinct, ?_⟩
  rw [(suite.extendedWith_acts [test, helper] []).2.2.2.2 (namedFrom "test") free distinct]
  decide

end TestSuite

end TestAmplification
